import ChartGestures.Range.ClipMode
import ChartGestures.Range.Domain

/-!
# Intervals

Closed intervals over the values of a domain. Bounds that arrive the wrong way round are exchanged. Growing and moving
run on the projected bounds and come back through the domain; clipping and joining compare the values themselves.
-/

namespace ChartGestures

open Scalar

/-- Bounds after growing by fractions of their distance, or of themselves when they coincide. Coinciding at zero leaves
nothing to grow by. -/
def grownBounds {α : Type} [Scalar α] (min max minFraction maxFraction tolerance : α) : Option (α × α) :=
  let diff := max - min
  if tolerance < abs diff then some (min - minFraction * diff, max + maxFraction * diff)
  else if abs min ≤ tolerance then none
  else some (min - minFraction * min, max + maxFraction * max)

structure Interval {α V : Type} (d : Domain α V) where
  min : V
  max : V

namespace Interval

variable {α V : Type} {d : Domain α V}

def new (min max : V) : Interval d := if d.lt max min then ⟨max, min⟩ else ⟨min, max⟩

/-- Neither bound is set. -/
def undefined : Interval d := ⟨d.lowest, d.highest⟩

def unit : Interval d := new d.unit.1 d.unit.2

def ofCanonical (min max : α) : Interval d := new (d.ofCanonical min) (d.ofCanonical max)

def setMin (r : Interval d) (min : V) : Interval d := new min r.max

def setMax (r : Interval d) (max : V) : Interval d := new r.min max

def contains (r : Interval d) (v : V) : Bool :=
  (d.lt r.min v || d.eq v r.min) && (d.lt v r.max || d.eq v r.max)

def eq (r s : Interval d) : Bool := d.eq r.min s.min && d.eq r.max s.max

def canonicalMin (r : Interval d) : α := d.toCanonical r.min

def canonicalMax (r : Interval d) : α := d.toCanonical r.max

/-- A range with a sentinel for a bound is not defined. -/
def isDefined (r : Interval d) : Bool := !d.isSentinel r.min && !d.isSentinel r.max

/-- Holds the bounds the mode clips against `maximum`. A range wholly outside becomes the whole of it. -/
def clipTo (r maximum : Interval d) (mode : ClipMode) : Interval d :=
  let min := if mode.clipsMin then d.greater r.min maximum.min else r.min
  let max := if mode.clipsMax then d.lesser r.max maximum.max else r.max
  if d.lt max min then maximum else ⟨min, max⟩

/-- An undefined range adds nothing. -/
def union (r s : Interval d) : Interval d :=
  if !s.isDefined then r
  else if !r.isDefined then s
  else ⟨d.lesser r.min s.min, d.greater r.max s.max⟩

variable [Scalar α]

def diff (r : Interval d) : α := r.canonicalMax - r.canonicalMin

def isZero (r : Interval d) : Bool := abs r.diff ≤ d.tolerance

def withMinMax (min max : α) : Option (Interval d) → Interval d
  | none => ofCanonical min max
  | some limit =>
    ofCanonical (clamp min limit.canonicalMin limit.canonicalMax) (clamp max limit.canonicalMin limit.canonicalMax)

def growBy (r : Interval d) (minFraction maxFraction : α) : Interval d :=
  match grownBounds r.canonicalMin r.canonicalMax minFraction maxFraction d.tolerance with
  | some (min, max) => ofCanonical min max
  | none => unit

end Interval

end ChartGestures
