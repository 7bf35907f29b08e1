import ChartGestures.Range.Index

/-!
# Ranges

A range of any kind, as an axis stores it. An operation on two ranges first brings the second into the kind of the
first; the result always has the kind of the first. A conversion goes through the bounds that arithmetic starts from,
so that an index range takes its fractions along.
-/

namespace ChartGestures

open Scalar

/-- What ranges of every kind can do. -/
class RangeOps (α : Type) (R : Type) where
  kind : R → RangeKind
  canonicalBounds : R → α × α
  /-- The bounds that arithmetic with fractions and pixels starts from. -/
  preciseBounds : R → α × α
  isDefined : R → Bool
  isZero : R → Bool
  eq : R → R → Bool
  withMinMax : α → α → Option R → R
  growBy : R → α → α → R
  clipTo : R → R → ClipMode → R
  union : R → R → R

instance {α V : Type} [Scalar α] {d : Domain α V} : RangeOps α (Interval d) where
  kind _ := d.kind
  canonicalBounds r := (r.canonicalMin, r.canonicalMax)
  preciseBounds r := (r.canonicalMin, r.canonicalMax)
  isDefined := Interval.isDefined
  isZero := Interval.isZero
  eq := Interval.eq
  withMinMax := Interval.withMinMax
  growBy := Interval.growBy
  clipTo := Interval.clipTo
  union := Interval.union

instance {α : Type} [Scalar α] : RangeOps α (IndexRange α) where
  kind _ := .index
  canonicalBounds r := (r.canonicalMin, r.canonicalMax)
  preciseBounds r := (r.minShadow, r.maxShadow)
  isDefined := IndexRange.isDefined
  isZero := IndexRange.isZero
  eq := IndexRange.eq
  withMinMax := IndexRange.withMinMax
  growBy := IndexRange.growBy
  clipTo := IndexRange.clipTo
  union := IndexRange.union

inductive Range (α : Type) [Scalar α] [Decimals α] where
  | double (bounds : Interval (Domain.double (α := α)))
  | float (bounds : Interval (Domain.float (α := α)))
  | int32 (bounds : Interval (Domain.int32 (α := α)))
  | int64 (bounds : Interval (Domain.int64 (α := α)))
  | decimal (bounds : Interval (Domain.decimal (α := α)))
  | date (bounds : Interval (Domain.date (α := α)))
  | timeSpan (bounds : Interval (Domain.timeSpan (α := α)))
  | index (bounds : IndexRange α)

namespace Range

variable {α : Type} [Scalar α] [Decimals α]

/-- Applies what every kind can do. -/
def fold {β : Type} (f : ∀ {R : Type} [RangeOps α R], R → β) : Range α → β
  | double r => f r
  | float r => f r
  | int32 r => f r
  | int64 r => f r
  | decimal r => f r
  | date r => f r
  | timeSpan r => f r
  | index r => f r

def kind (r : Range α) : RangeKind := r.fold (RangeOps.kind α)

def canonicalMin (r : Range α) : α := r.fold fun r => (RangeOps.canonicalBounds r).1

def canonicalMax (r : Range α) : α := r.fold fun r => (RangeOps.canonicalBounds r).2

def preciseBounds (r : Range α) : α × α := r.fold RangeOps.preciseBounds

def isDefined (r : Range α) : Bool := r.fold (RangeOps.isDefined α)

def isZero (r : Range α) : Bool := r.fold (RangeOps.isZero α)

def diff (r : Range α) : α := r.canonicalMax - r.canonicalMin

/-- The range of a kind between two numbers. -/
def ofCanonical (kind : RangeKind) (min max : α) : Range α :=
  match kind with
  | .double => double (.ofCanonical min max)
  | .float => float (.ofCanonical min max)
  | .int32 => int32 (.ofCanonical min max)
  | .int64 => int64 (.ofCanonical min max)
  | .decimal => decimal (.ofCanonical min max)
  | .date => date (.ofCanonical min max)
  | .timeSpan => timeSpan (.ofCanonical min max)
  | .index => index (.ofPrecise min max)

/-- The range of a kind with neither bound set. -/
def undefined (kind : RangeKind) : Range α :=
  match kind with
  | .double => double .undefined
  | .float => float .undefined
  | .int32 => int32 .undefined
  | .int64 => int64 .undefined
  | .decimal => decimal .undefined
  | .date => date .undefined
  | .timeSpan => timeSpan .undefined
  | .index => index .undefined

/-- The interval that a range of no width at zero grows into. -/
def unit (kind : RangeKind) : Range α :=
  match kind with
  | .double => double .unit
  | .float => float .unit
  | .int32 => int32 .unit
  | .int64 => int64 .unit
  | .decimal => decimal .unit
  | .date => date .unit
  | .timeSpan => timeSpan .unit
  | .index => index .unit

/-- The range of the kind that `name` stands for. -/
def ofName (name : String) (min max : α) : Except RangeError (Range α) :=
  (RangeKind.ofName name).map fun kind => ofCanonical kind min max

/-! ### The bounds of a range in each kind -/

def toDouble : Range α → Interval (Domain.double (α := α))
  | double r => r
  | r => .ofCanonical r.preciseBounds.1 r.preciseBounds.2

def toFloat : Range α → Interval (Domain.float (α := α))
  | float r => r
  | r => .ofCanonical r.preciseBounds.1 r.preciseBounds.2

def toInt32 : Range α → Interval (Domain.int32 (α := α))
  | int32 r => r
  | r => .ofCanonical r.preciseBounds.1 r.preciseBounds.2

def toInt64 : Range α → Interval (Domain.int64 (α := α))
  | int64 r => r
  | r => .ofCanonical r.preciseBounds.1 r.preciseBounds.2

def toDecimal : Range α → Interval (Domain.decimal (α := α))
  | decimal r => r
  | r => .ofCanonical r.preciseBounds.1 r.preciseBounds.2

def toDate : Range α → Interval (Domain.date (α := α))
  | date r => r
  | r => .ofCanonical r.preciseBounds.1 r.preciseBounds.2

def toTimeSpan : Range α → Interval (Domain.timeSpan (α := α))
  | timeSpan r => r
  | r => .ofCanonical r.preciseBounds.1 r.preciseBounds.2

def toIndex : Range α → IndexRange α
  | index r => r
  | r => .ofPrecise r.preciseBounds.1 r.preciseBounds.2

/-- The same range in another kind; one that has the kind already stays as it is. -/
def convert (r : Range α) : RangeKind → Range α
  | .double => double r.toDouble
  | .float => float r.toFloat
  | .int32 => int32 r.toInt32
  | .int64 => int64 r.toInt64
  | .decimal => decimal r.toDecimal
  | .date => date r.toDate
  | .timeSpan => timeSpan r.toTimeSpan
  | .index => index r.toIndex

/-- The range itself if it has the kind already; no other kind is converted. -/
def expectKind (r : Range α) (kind : RangeKind) : Except RangeError (Range α) :=
  if r.kind = kind then .ok r else .error (.kindMismatch kind r.kind)

/-- Replaces the range by one of its own kind, made together with `other` brought into that kind. -/
def combine (f : ∀ {R : Type} [RangeOps α R], R → Option R → R) : Range α → Option (Range α) → Range α
  | double r, other => double (f r (other.map toDouble))
  | float r, other => float (f r (other.map toFloat))
  | int32 r, other => int32 (f r (other.map toInt32))
  | int64 r, other => int64 (f r (other.map toInt64))
  | decimal r, other => decimal (f r (other.map toDecimal))
  | date r, other => date (f r (other.map toDate))
  | timeSpan r, other => timeSpan (f r (other.map toTimeSpan))
  | index r, other => index (f r (other.map toIndex))

/-- Ranges of different kinds are never equal, and neither are bounds that are no numbers. -/
def eq : Range α → Range α → Bool
  | double r, double s => r.eq s
  | float r, float s => r.eq s
  | int32 r, int32 s => r.eq s
  | int64 r, int64 s => r.eq s
  | decimal r, decimal s => r.eq s
  | date r, date s => r.eq s
  | timeSpan r, timeSpan s => r.eq s
  | index r, index s => r.eq s
  | _, _ => false

instance : BEq (Range α) := ⟨eq⟩

/-- A range of the same kind between two numbers, first brought within `limit`. -/
def withMinMax (r : Range α) (min max : α) (limit : Option (Range α)) : Range α :=
  r.combine (fun _ limit => RangeOps.withMinMax min max limit) limit

/-- A range of the same kind between two numbers. -/
def like (r : Range α) (min max : α) : Range α := r.withMinMax min max none

/-- Adds fractions of the span below and above. -/
def growBy (r : Range α) (minFraction maxFraction : α) : Range α :=
  r.combine (fun r _ => RangeOps.growBy r minFraction maxFraction) none

def clipTo (r maximum : Range α) (mode : ClipMode) : Range α :=
  r.combine (fun r s => s.elim r (RangeOps.clipTo α r · mode)) maximum

def union (r s : Range α) : Range α := r.combine (fun r s => s.elim r (RangeOps.union α r)) s

/-- Moves both bounds. -/
def translate (r : Range α) (delta : α) : Range α :=
  r.like (r.preciseBounds.1 + delta) (r.preciseBounds.2 + delta)

/-- The range of numbers between the projected bounds. -/
def asCanonical (r : Range α) : Range α := double (.new r.canonicalMin r.canonicalMax)

end Range

end ChartGestures
