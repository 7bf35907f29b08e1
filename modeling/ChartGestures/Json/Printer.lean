import ChartGestures.Json.Value
import ChartGestures.Text.Shortest

/-!
# Writing JSON

Text of a value, on one line or with one item a line. A number that is not whole is written with its shortest digits:
in place while the point stands among the first sixteen digits or shortly before them, else with an exponent that always
has a sign.
-/

namespace ChartGestures

/-- The number a double is written as; only a finite one has any. -/
def JsonNumber.ofFloat? (x : Float) : Option JsonNumber :=
  (Binary.value? x).map fun q =>
    if q = 0 then ⟨1 / x < 0, 0, 0, false⟩
    else
      let d := BinaryFormat.double.shortest .even (if q < 0 then -q else q)
      ⟨q < 0, d.coefficient, d.exponent, false⟩

namespace Json

/-- A double; one that is not finite is written as null. -/
def float (x : Float) : Json := ofOption number (JsonNumber.ofFloat? x)

/-- The magnitude of a number that is not whole. -/
def magnitudeText (d : Digits) : String :=
  let point := d.pointPosition
  if 0 ≤ d.exponent ∧ point ≤ 16 then d.positional ++ ".0"
  else if -5 < point ∧ point ≤ 16 then d.positional
  else
    let digits := toString d.coefficient
    let rest := (digits.drop 1).toString
    (digits.take 1).toString ++ (if rest.isEmpty then "" else "." ++ rest)
      ++ (if 0 < point then "e+" else "e") ++ toString (point - 1)

def numberText (n : JsonNumber) : String :=
  (if n.negative then "-" else "")
    ++ if n.whole then toString n.coefficient else magnitudeText ⟨n.coefficient, n.exponent⟩

def escapeChar (c : Char) : String :=
  if c = '"' then "\\\""
  else if c = '\\' then "\\\\"
  else if c = '\n' then "\\n"
  else if c = '\r' then "\\r"
  else if c = '\t' then "\\t"
  else if c = '\x08' then "\\b"
  else if c = '\x0c' then "\\f"
  else if c.toNat < 0x20 then
    "\\u00" ++ String.ofList [Nat.digitChar (c.toNat / 16), Nat.digitChar (c.toNat % 16)]
  else c.toString

def quoted (text : String) : String := "\"" ++ String.join (text.toList.map escapeChar) ++ "\""

mutual

/-- The text of a value on one line. -/
def compact : Json → String
  | null => "null"
  | bool b => if b then "true" else "false"
  | number n => numberText n
  | string s => quoted (s.getD "")
  | array items => "[" ++ String.intercalate "," (compactItems items) ++ "]"
  | object fields => "\x7b" ++ String.intercalate "," (compactFields fields) ++ "\x7d"

def compactItems : List Json → List String
  | [] => []
  | item :: rest => item.compact :: compactItems rest

def compactFields : List (Option String × Json) → List String
  | [] => []
  | (name, value) :: rest => (quoted (name.getD "") ++ ":" ++ value.compact) :: compactFields rest

end

/-- Lines between brackets, each further in than the brackets are. -/
def block (opening closing margin : String) (lines : List String) : String :=
  if lines.isEmpty then opening ++ closing
  else
    let inner := "\n" ++ margin ++ "  "
    opening ++ inner ++ String.intercalate ("," ++ inner) lines ++ "\n" ++ margin ++ closing

mutual

/-- The text of a value with one item a line, two blanks further in for each level. -/
def pretty (margin : String) : Json → String
  | array items => block "[" "]" margin (prettyItems (margin ++ "  ") items)
  | object fields => block "\x7b" "\x7d" margin (prettyFields (margin ++ "  ") fields)
  | null => "null"
  | bool b => if b then "true" else "false"
  | number n => numberText n
  | string s => quoted (s.getD "")

def prettyItems (margin : String) : List Json → List String
  | [] => []
  | item :: rest => item.pretty margin :: prettyItems margin rest

def prettyFields (margin : String) : List (Option String × Json) → List String
  | [] => []
  | (name, value) :: rest => (quoted (name.getD "") ++ ": " ++ value.pretty margin) :: prettyFields margin rest

end

end Json

end ChartGestures
