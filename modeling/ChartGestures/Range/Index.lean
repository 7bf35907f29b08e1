import ChartGestures.Range.Interval

/-!
# Index ranges

Ranges over the whole-number positions of categories. Gestures move the bounds by fractions of a category, so each
bound keeps the fractional value it came from, its shadow, and is that value rounded toward zero. Every computation
starts from the shadows; writing a whole bound resets its shadow.
-/

namespace ChartGestures

open Scalar

structure IndexRange (α : Type) where
  min : Int32
  max : Int32
  minShadow : α
  maxShadow : α

namespace IndexRange

variable {α : Type} [Scalar α]

def truncateIndex (x : α) : Int32 :=
  Int32.ofInt (toIntWithin truncate Int32.minValue.toInt Int32.maxValue.toInt x)

def new (min max : Int32) : IndexRange α :=
  let (min, max) := if max < min then (max, min) else (min, max)
  ⟨min, max, ofInt min.toInt, ofInt max.toInt⟩

/-- The range with the given shadows. -/
def ofPrecise (min max : α) : IndexRange α :=
  let (min, max) := if max < min then (max, min) else (min, max)
  ⟨truncateIndex min, truncateIndex max, min, max⟩

def undefined : IndexRange α := new Int32.minValue Int32.maxValue

def unit : IndexRange α := new (-1) 1

/-- The upper bound keeps its shadow as long as it still rounds to the bound. -/
def setMin (r : IndexRange α) (min : Int32) : IndexRange α :=
  let s := new min r.max
  if s.max == truncateIndex r.maxShadow then { s with maxShadow := r.maxShadow } else s

/-- The lower bound keeps its shadow as long as it still rounds to the bound. -/
def setMax (r : IndexRange α) (max : Int32) : IndexRange α :=
  let s := new r.min max
  if s.min == truncateIndex r.minShadow then { s with minShadow := r.minShadow } else s

def eq (r s : IndexRange α) : Bool :=
  r.min == s.min && r.max == s.max && r.minShadow == s.minShadow && r.maxShadow == s.maxShadow

def canonicalMin (r : IndexRange α) : α := ofInt r.min.toInt

def canonicalMax (r : IndexRange α) : α := ofInt r.max.toInt

def diff (r : IndexRange α) : α := r.canonicalMax - r.canonicalMin

def isDefined (r : IndexRange α) : Bool :=
  let sentinel (n : Int32) : Bool := n == Int32.minValue || n == Int32.maxValue
  !sentinel r.min && !sentinel r.max

def isZero (r : IndexRange α) : Bool := r.min == r.max

def contains (r : IndexRange α) (n : Int32) : Bool := r.min ≤ n && n ≤ r.max

def withMinMax (min max : α) : Option (IndexRange α) → IndexRange α
  | none => ofPrecise min max
  | some limit =>
    ofPrecise (clamp min limit.canonicalMin limit.canonicalMax) (clamp max limit.canonicalMin limit.canonicalMax)

def growBy (r : IndexRange α) (minFraction maxFraction : α) : IndexRange α :=
  match grownBounds r.minShadow r.maxShadow minFraction maxFraction 0 with
  | some (min, max) => ofPrecise min max
  | none => unit

/-- The shadows are held against the whole bounds of `maximum`. -/
def clipTo (r maximum : IndexRange α) (mode : ClipMode) : IndexRange α :=
  let r := if mode.clipsMin ∧ r.minShadow < maximum.canonicalMin then
    { r with min := maximum.min, minShadow := maximum.canonicalMin } else r
  let r := if mode.clipsMax ∧ maximum.canonicalMax < r.maxShadow then
    { r with max := maximum.max, maxShadow := maximum.canonicalMax } else r
  if r.maxShadow < r.minShadow then maximum else r

/-- The outer shadow of each side wins, with the whole bound that belongs to it. -/
def union (r s : IndexRange α) : IndexRange α :=
  if !s.isDefined then r
  else if !r.isDefined then s
  else
    let low := if s.minShadow < r.minShadow then s else r
    let high := if r.maxShadow < s.maxShadow then s else r
    ⟨low.min, high.max, low.minShadow, high.maxShadow⟩

end IndexRange

end ChartGestures
