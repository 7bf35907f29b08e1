import ChartGestures.Json.Value

/-!
# Reading JSON

The strict grammar: no comments, no trailing commas, no blanks but the four of the standard, no control characters in
strings, and nothing after the value. Each step takes at least one character or goes one level into the value it reads,
so twice the length of the text bounds their number.
-/

namespace ChartGestures

namespace Json.Parser

def skipBlanks (cs : List Char) : List Char :=
  cs.dropWhile fun c => c == ' ' || c == '\n' || c == '\r' || c == '\t'

/-- What follows `word` if the text starts with it. -/
def expect (word : String) (cs : List Char) : Option (List Char) :=
  if word.toList.isPrefixOf cs then some (cs.drop word.length) else none

def hexDigit? (c : Char) : Option Nat :=
  if '0' ≤ c ∧ c ≤ '9' then some (c.toNat - '0'.toNat)
  else if 'a' ≤ c ∧ c ≤ 'f' then some (c.toNat - 'a'.toNat + 10)
  else if 'A' ≤ c ∧ c ≤ 'F' then some (c.toNat - 'A'.toNat + 10)
  else none

def hexUnit? : List Char → Option (Nat × List Char)
  | a :: b :: c :: d :: rest => do
    return ((((← hexDigit? a) * 16 + (← hexDigit? b)) * 16 + (← hexDigit? c)) * 16 + (← hexDigit? d), rest)
  | _ => none

def simpleEscape? : Char → Option Char
  | '"' => some '"'
  | '\\' => some '\\'
  | '/' => some '/'
  | 'b' => some '\x08'
  | 'f' => some '\x0c'
  | 'n' => some '\n'
  | 'r' => some '\r'
  | 't' => some '\t'
  | _ => none

/-- The character of one unit, or of a pair of surrogates, with what follows it. Half of a pair gives no character. -/
def unitChar (unit : Nat) (rest : List Char) : Option Char × List Char :=
  if unit < 0xD800 ∨ 0xE000 ≤ unit then (some (Char.ofNat unit), rest)
  else
    match rest with
    | '\\' :: 'u' :: low =>
      match hexUnit? low with
      | some (second, rest') =>
        if unit < 0xDC00 ∧ 0xDC00 ≤ second ∧ second < 0xE000 then
          (some (Char.ofNat (0x10000 + (unit - 0xD800) * 0x400 + (second - 0xDC00))), rest')
        else (none, rest)
      | none => (none, rest)
    | _ => (none, rest)

/-- Reads up to the closing quote. The text gathers back to front, and is lost once a character is missing. -/
def stringBody : Nat → Option (List Char) → List Char → Option (Option String × List Char)
  | 0, _, _ => none
  | fuel + 1, text, cs =>
    match cs with
    | [] => none
    | '"' :: rest => some (text.map fun t => String.ofList t.reverse, rest)
    | '\\' :: 'u' :: rest => do
      let (unit, rest) ← hexUnit? rest
      let (c, rest) := unitChar unit rest
      stringBody fuel (c.bind fun c => text.map (c :: ·)) rest
    | '\\' :: c :: rest => do
      let c ← simpleEscape? c
      stringBody fuel (text.map (c :: ·)) rest
    | c :: rest => if c.toNat < 0x20 ∨ c = '\\' then none else stringBody fuel (text.map (c :: ·)) rest

def digitsValue (start : Nat) (digits : List Char) : Nat :=
  digits.foldl (fun n c => 10 * n + (c.toNat - '0'.toNat)) start

/-- The digits at the start, of which there has to be one. -/
def digits? (cs : List Char) : Option (List Char × List Char) :=
  let digits := cs.takeWhile Char.isDigit
  if digits.isEmpty then none else some (digits, cs.dropWhile Char.isDigit)

/-- The exponent after its letter. -/
def exponent? (cs : List Char) : Option (Int × List Char) :=
  match cs with
  | '-' :: rest => (digits? rest).map fun (ds, rest) => (-(digitsValue 0 ds : Int), rest)
  | '+' :: rest => (digits? rest).map fun (ds, rest) => ((digitsValue 0 ds : Int), rest)
  | _ => (digits? cs).map fun (ds, rest) => ((digitsValue 0 ds : Int), rest)

/-- A number has no needless zero in front, and a digit on both sides of a point. -/
def number? (cs : List Char) : Option (JsonNumber × List Char) := do
  let (negative, cs) := match cs with
    | '-' :: rest => (true, rest)
    | _ => (false, cs)
  let (whole, rest) ← digits? cs
  if whole.head? == some '0' && whole.length != 1 then none
  else
    let (fraction, rest) ← match rest with
      | '.' :: rest => digits? rest
      | _ => some ([], rest)
    let (exponent, hasExponent, rest) ← match rest with
      | 'e' :: rest | 'E' :: rest => (exponent? rest).map fun (e, rest) => (e, true, rest)
      | _ => some (0, false, rest)
    some (⟨negative, digitsValue (digitsValue 0 whole) fraction, exponent - fraction.length,
      fraction.isEmpty && !hasExponent⟩, rest)

mutual

/-- Reads a value that starts at the first character. -/
def value : Nat → List Char → Option (Json × List Char)
  | 0, _ => none
  | fuel + 1, cs =>
    match cs with
    | 'n' :: _ => (expect "null" cs).map fun rest => (.null, rest)
    | 't' :: _ => (expect "true" cs).map fun rest => (.bool true, rest)
    | 'f' :: _ => (expect "false" cs).map fun rest => (.bool false, rest)
    | '"' :: rest => (stringBody (rest.length + 1) (some []) rest).map fun (s, rest) => (.string s, rest)
    | '[' :: rest =>
      match skipBlanks rest with
      | ']' :: rest => some (.array [], rest)
      | rest => (items fuel rest).map fun (is, rest) => (.array is, rest)
    | '{' :: rest =>
      match skipBlanks rest with
      | '}' :: rest => some (.object [], rest)
      | rest => (fields fuel rest).map fun (fs, rest) => (.object fs, rest)
    | _ => (number? cs).map fun (n, rest) => (.number n, rest)

/-- Reads the items of an array up to its end. -/
def items : Nat → List Char → Option (List Json × List Char)
  | 0, _ => none
  | fuel + 1, cs => do
    let (item, rest) ← value fuel cs
    match skipBlanks rest with
    | ',' :: rest =>
      let (others, rest) ← items fuel (skipBlanks rest)
      some (item :: others, rest)
    | ']' :: rest => some ([item], rest)
    | _ => none

/-- Reads the fields of an object up to its end. -/
def fields : Nat → List Char → Option (List (Option String × Json) × List Char)
  | 0, _ => none
  | fuel + 1, cs =>
    match cs with
    | '"' :: rest => do
      let (name, rest) ← stringBody (rest.length + 1) (some []) rest
      match skipBlanks rest with
      | ':' :: rest =>
        let (v, rest) ← value fuel (skipBlanks rest)
        match skipBlanks rest with
        | ',' :: rest =>
          let (others, rest) ← fields fuel (skipBlanks rest)
          some ((name, v) :: others, rest)
        | '}' :: rest => some ([(name, v)], rest)
        | _ => none
      | _ => none
    | _ => none

end

end Json.Parser

/-- The value that a text holds, if it holds one and nothing else. -/
def Json.parse? (text : String) : Option Json :=
  let cs := text.toList
  match Json.Parser.value (2 * cs.length + 2) (Json.Parser.skipBlanks cs) with
  | some (v, rest) => if (Json.Parser.skipBlanks rest).isEmpty then some v else none
  | none => none

end ChartGestures
