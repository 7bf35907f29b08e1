import ChartGestures.Number.Binary

/-!
# JSON values

A document as it is written: the fields of an object in their order, a name as often as it occurs, and a number as its
digits. What a number or a repeated field means is up to the reader.
-/

namespace ChartGestures

/-- The number `± coefficient * 10 ^ exponent`; a whole one is written with neither a point nor an exponent. -/
structure JsonNumber where
  negative : Bool
  coefficient : Nat
  exponent : Int
  whole : Bool
  deriving DecidableEq

/-- A string that holds half of a surrogate pair stands for no text; it may occur where nobody reads it. -/
inductive Json where
  | null
  | bool (value : Bool)
  | number (value : JsonNumber)
  | string (text : Option String)
  | array (items : List Json)
  | object (fields : List (Option String × Json))

namespace JsonNumber

def ofInt (n : Int) : JsonNumber := ⟨n < 0, n.natAbs, 0, true⟩

/-- The nearest double; `none` where that would be infinite. Far below the least double everything is zero. -/
def toFloat? (n : JsonNumber) : Option Float :=
  let sign (x : Float) : Float := if n.negative then -x else x
  let order := (Nat.toDigits 10 n.coefficient).length + n.exponent
  if n.coefficient = 0 ∨ order < -400 then some (sign 0)
  else if 400 < order then none
  else
    let x := Binary.nearestTo (n.coefficient * 10 ^ n.exponent.toNat / 10 ^ (-n.exponent).toNat)
    if x.isInf then none else some (sign x)

/-- A whole number without a sign that fits 64 bits. -/
def toUnsigned? (n : JsonNumber) : Option Nat :=
  if n.whole ∧ !n.negative ∧ n.coefficient < UInt64.size then some n.coefficient else none

def toInt? (n : JsonNumber) : Option Int :=
  if n.whole then some (if n.negative then -n.coefficient else n.coefficient) else none

end JsonNumber

namespace Json

def text (s : String) : Json := .string (some s)

def int (n : Int) : Json := .number (.ofInt n)

def nat (n : Nat) : Json := int n

def ofOption {β : Type} (f : β → Json) : Option β → Json
  | none => null
  | some b => f b

def ofList {β : Type} (f : β → Json) (items : List β) : Json := array (items.map f)

/-- An object with the given fields. -/
def record (fields : List (String × Json)) : Json := object (fields.map fun (name, value) => (some name, value))

/-- The first field of the name. -/
def get? (name : String) : Json → Option Json
  | object fields => (fields.find? fun field => field.1 == some name).map (·.2)
  | _ => none

mutual

/-- How many arrays and objects stand around the innermost value. -/
def depth : Json → Nat
  | array items => depthOfItems items + 1
  | object fields => depthOfFields fields + 1
  | _ => 0

def depthOfItems : List Json → Nat
  | [] => 0
  | item :: rest => max item.depth (depthOfItems rest)

def depthOfFields : List (Option String × Json) → Nat
  | [] => 0
  | (_, value) :: rest => max value.depth (depthOfFields rest)

end

end Json

end ChartGestures
