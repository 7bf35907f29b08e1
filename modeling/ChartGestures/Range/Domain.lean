import ChartGestures.Number.Binary
import ChartGestures.Number.Decimals
import ChartGestures.Range.Kind
import ChartGestures.Time.Ticks

/-!
# Domains

A domain is a type of values a range can span, together with its projection onto numbers and back. Range arithmetic runs
on the projected bounds; coming back, the domain rounds a number to one of its values and keeps it within its limits.
The two limits also mark a bound that is not set.
-/

namespace ChartGestures

structure Domain (α V : Type) where
  kind : RangeKind
  toCanonical : V → α
  ofCanonical : α → V
  lt : V → V → Bool
  eq : V → V → Bool
  lowest : V
  highest : V
  /-- Whether a value marks a bound that is not set. -/
  isSentinel : V → Bool
  /-- The interval that a range of no width at zero grows into. -/
  unit : V × V
  /-- A difference of bounds that counts as zero. -/
  tolerance : α

namespace Domain

open Scalar

variable {α V : Type} [Scalar α]

def lesser (d : Domain α V) (a b : V) : V := if d.lt b a then b else a

def greater (d : Domain α V) (a b : V) : V := if d.lt a b then b else a

/-- The largest double, `(2 ^ 53 - 1) * 2 ^ 971`. -/
def largestDouble : α := ofRat (dyadic 9007199254740991 971)

/-- The largest single-precision number, `(2 ^ 24 - 1) * 2 ^ 104`. -/
def largestSingle : α := ofRat (dyadic 16777215 104)

/-- An infinity becomes the largest finite number of its sign. -/
def saturate (x : α) : α :=
  if isInfinite x then if x < 0 then -largestDouble else largestDouble else x

/-- The nearest number of single precision, within the limits of that format. -/
def toSingle (x : α) : α :=
  if x < -largestSingle then -largestSingle
  else if largestSingle < x then largestSingle
  else
    match toRat? x with
    | none => x
    | some q =>
      let r := BinaryFormat.single.nearest q
      if r = 0 then x * 0 else ofRat r

def isFloatSentinel (largest x : α) : Bool := !isFinite x || x == -largest || x == largest

def double : Domain α α where
  kind := .double
  toCanonical x := x
  ofCanonical := saturate
  lt a b := a < b
  eq a b := a == b
  lowest := -largestDouble
  highest := largestDouble
  isSentinel := isFloatSentinel largestDouble
  unit := (-1, 1)
  tolerance := ofRat (dyadic 1 (-1022))

def float : Domain α α where
  kind := .float
  toCanonical x := x
  ofCanonical := toSingle
  lt a b := a < b
  eq a b := a == b
  lowest := -largestSingle
  highest := largestSingle
  isSentinel := isFloatSentinel largestSingle
  unit := (-1, 1)
  tolerance := ofRat (dyadic 1 (-126))

def int32 : Domain α Int32 where
  kind := .int32
  toCanonical n := ofInt n.toInt
  ofCanonical x := Int32.ofInt (toIntWithin roundHalfAway Int32.minValue.toInt Int32.maxValue.toInt x)
  lt a b := a < b
  eq a b := a == b
  lowest := Int32.minValue
  highest := Int32.maxValue
  isSentinel n := n == Int32.minValue || n == Int32.maxValue
  unit := (-1, 1)
  tolerance := 0

def int64 : Domain α Int64 where
  kind := .int64
  toCanonical n := ofInt n.toInt
  ofCanonical x := Int64.ofInt (toIntWithin roundHalfAway Int64.minValue.toInt Int64.maxValue.toInt x)
  lt a b := a < b
  eq a b := a == b
  lowest := Int64.minValue
  highest := Int64.maxValue
  isSentinel n := n == Int64.minValue || n == Int64.maxValue
  unit := (-1, 1)
  tolerance := 0

/-- A decimal as a number. -/
def ofDecimal [Decimals α] (v : Decimals.Value α) : α := (Decimals.toScalar? v).getD (0 / 0)

def decimal [Decimals α] : Domain α (Decimals.Value α) where
  kind := .decimal
  toCanonical := ofDecimal
  ofCanonical x :=
    if isNaN x then Decimals.nan
    else (Decimals.ofScalar? (clamp x (ofDecimal Decimals.lowest) (ofDecimal Decimals.highest))).getD Decimals.nan
  lt := Decimals.lt
  eq := Decimals.eq
  lowest := Decimals.lowest
  highest := Decimals.highest
  isSentinel v :=
    Decimals.isNaN v || Decimals.isInfinite v || Decimals.eq v Decimals.lowest || Decimals.eq v Decimals.highest
  unit := (Decimals.neg Decimals.one, Decimals.one)
  tolerance := larger (ofDecimal Decimals.leastPositive) 0

def date : Domain α Date where
  kind := .date
  toCanonical d := ofInt d.toTicks
  ofCanonical x := Date.ofTicks (toIntWithin roundHalfAway minDateTicks maxDateTicks x)
  lt := Date.lt
  eq a b := a == b
  lowest := Date.ofTicks minDateTicks
  highest := Date.ofTicks maxDateTicks
  isSentinel d := d == Date.ofTicks minDateTicks || d == Date.ofTicks maxDateTicks
  unit := (Date.ofTicks (-ticksPerDay), Date.ofTicks ticksPerDay)
  tolerance := 0

def timeSpan : Domain α TimeSpan where
  kind := .timeSpan
  toCanonical s := ofInt s.toTicks
  ofCanonical x := TimeSpan.ofTicks (toIntWithin roundHalfAway Int64.minValue.toInt Int64.maxValue.toInt x)
  lt := TimeSpan.lt
  eq a b := a == b
  lowest := TimeSpan.ofTicks Int64.minValue.toInt
  highest := TimeSpan.ofTicks Int64.maxValue.toInt
  isSentinel s := s == TimeSpan.ofTicks Int64.minValue.toInt || s == TimeSpan.ofTicks Int64.maxValue.toInt
  unit := (TimeSpan.ofTicks (-ticksPerDay), TimeSpan.ofTicks ticksPerDay)
  tolerance := 0

end Domain

end ChartGestures
