import ChartGestures.Text.Blank

/-!
# Kinds of ranges

The kinds of values an axis can show, their names, and what goes wrong when a kind is unknown or not the one asked for.
-/

namespace ChartGestures

inductive RangeKind where
  | double
  | float
  | int32
  | int64
  | decimal
  | date
  | timeSpan
  | index
  deriving BEq, DecidableEq, Repr

inductive RangeError where
  | unsupportedKind (name : String)
  | kindMismatch (expected found : RangeKind)
  deriving DecidableEq

namespace RangeKind

def all : List RangeKind := [.double, .float, .int32, .int64, .decimal, .date, .timeSpan, .index]

def name : RangeKind → String
  | double => "double"
  | float => "float"
  | int32 => "int32"
  | int64 => "int64"
  | decimal => "decimal"
  | date => "date"
  | timeSpan => "time_span"
  | index => "index"

/-- Every name a kind goes by; the first is the one it is written with. -/
def names : RangeKind → List String
  | double => ["double", "f64", "float64"]
  | float => ["float", "f32", "float32", "single"]
  | int32 => ["int32", "i32", "int", "integer"]
  | int64 => ["int64", "i64", "long"]
  | decimal => ["decimal"]
  | date => ["date", "datetime", "date_time"]
  | timeSpan => ["time_span", "timespan", "duration"]
  | index => ["index", "category"]

/-- Whether values of the kind are whole numbers. -/
def isIntegral : RangeKind → Bool
  | int32 | int64 | date | timeSpan | index => true
  | double | float | decimal => false

/-- The kind a name stands for, without regard to blanks around it and to the case of its ASCII letters. A name of no
kind is refused, so that an unknown column never passes for a floating-point axis. -/
def ofName (text : String) : Except RangeError RangeKind :=
  let name := String.ofList ((trimBlanks text).toList.map Char.toLower)
  match all.find? fun kind => kind.names.contains name with
  | some kind => .ok kind
  | none => .error (.unsupportedKind text)

end RangeKind

def RangeError.message : RangeError → String
  | unsupportedKind name => "Unsupported range domain: " ++ name
  | kindMismatch expected found => "Range domain mismatch: expected " ++ expected.name ++ ", found " ++ found.name

end ChartGestures
