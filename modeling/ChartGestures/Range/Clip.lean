import ChartGestures.Range.Basic

/-!
# Clipping gestures

What becomes of a candidate range that a scale or a pan proposes, once it is held against the extents of the data.
-/

namespace ChartGestures

namespace Range

variable {α : Type} [Scalar α] [Decimals α]

/-- Whether a scaled candidate reaches past the extents on the dragged side. -/
def overruns (candidate maximum : Range α) : DragHalf → Bool
  | .near => candidate.canonicalMin < maximum.canonicalMin
  | .far => maximum.canonicalMax < candidate.canonicalMax

/-- The half to scroll instead, when stretching meets a candidate that overruns the extents on the dragged side. -/
def stretchedHalf (candidate maximum : Range α) (mode : ClipMode) (half : DragHalf) : Option DragHalf :=
  if mode = .stretchAtExtents ∧ maximum.isDefined ∧ candidate.overruns maximum half then some half.opposite else none

/-- Holds a scaled candidate against the extents. `rescroll` is the candidate made by scrolling the bound of the other
half, which stretching takes in place of one that overruns. -/
def clipScaled (candidate maximum : Range α) (mode : ClipMode) (half : DragHalf)
    (rescroll : DragHalf → Option (Range α)) : Range α :=
  if mode = .none ∨ !maximum.isDefined then candidate
  else if mode ≠ .stretchAtExtents then candidate.clipTo maximum mode
  else
    match (candidate.stretchedHalf maximum mode half).bind rescroll with
    | some stretched => stretched.clipTo maximum .clipAtExtents
    | none => candidate.clipTo maximum .clipAtExtents

/-- Holds a panned candidate against the extents. A pan keeps the span: a range pushed past a clipped bound moves back
until that bound stands on the extent, and one that is wider than the extents becomes the extents. Stretching cuts the
range off instead. -/
def clipPanned (candidate maximum : Range α) (mode : ClipMode) : Range α :=
  if mode = .none ∨ !maximum.isDefined then candidate
  else if mode = .stretchAtExtents then candidate.clipTo maximum .clipAtExtents
  else
    let (lo, hi) := (maximum.canonicalMin, maximum.canonicalMax)
    let (min, max) := candidate.preciseBounds
    if mode = .clipAtExtents ∧ hi - lo ≤ max - min then maximum
    else if mode.clipsMin ∧ min < lo then (candidate.like lo (max + (lo - min))).clipTo maximum mode
    else if mode.clipsMax ∧ hi < max then (candidate.like (min - (max - hi)) hi).clipTo maximum mode
    else candidate

end Range

end ChartGestures
