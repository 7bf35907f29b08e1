import ChartGestures.Json.Parser

/-!
# Reading values out of JSON

A record is an object with named fields, in any order and with others among them, or an array of the fields in their own
order. A field may be left out where it has a default, and may not be repeated.
-/

namespace ChartGestures

namespace Json

def bool? : Json → Option Bool
  | bool b => some b
  | _ => none

def string? : Json → Option String
  | string s => s
  | _ => none

def float? : Json → Option Float
  | number n => n.toFloat?
  | _ => none

def unsigned? : Json → Option Nat
  | number n => n.toUnsigned?
  | _ => none

/-- Null stands for a value left out. -/
def nullable? {β : Type} (decode : Json → Option β) : Json → Option (Option β)
  | null => some none
  | j => (decode j).map some

def list? {β : Type} (decode : Json → Option β) : Json → Option (List β)
  | array items => items.mapM decode
  | _ => none

/-- Two numbers in an array. -/
def pair? : Json → Option (Float × Float)
  | array [a, b] => do return (← a.float?, ← b.float?)
  | _ => none

/-- A choice is the name of one of its cases; the name may also stand as the only field of an object, over null. -/
def choice? {β : Type} (cases : List (String × β)) : Json → Option β
  | string (some name) => cases.lookup name
  | object [(some name, null)] => cases.lookup name
  | _ => none

/-- The fields that a record holds, by name. -/
structure Record where
  fields : List (String × Json)

/-- The fields among `names` that an object holds, unless one of them is there twice. -/
def recordOfFields? (names : List String) : List (Option String × Json) → Option Record
  | [] => some ⟨[]⟩
  | (none, _) :: _ => none
  | (some name, value) :: rest => do
    let record ← recordOfFields? names rest
    if !names.contains name then some record
    else if (record.fields.lookup name).isSome then none
    else some ⟨(name, value) :: record.fields⟩

def record? (names : List String) : Json → Option Record
  | object fields => recordOfFields? names fields
  | array items => if items.length ≤ names.length then some ⟨names.zip items⟩ else none
  | _ => none

namespace Record

/-- A field that has to be there. -/
def required {β : Type} (r : Record) (name : String) (decode : Json → Option β) : Option β :=
  (r.fields.lookup name).bind decode

/-- A field with a default. -/
def withDefault {β : Type} (r : Record) (name : String) (decode : Json → Option β) (default : β) : Option β :=
  match r.fields.lookup name with
  | none => some default
  | some value => decode value

end Record

end Json

end ChartGestures
