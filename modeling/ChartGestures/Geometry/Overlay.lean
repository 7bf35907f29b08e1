import ChartGestures.Geometry.Rect

/-!
# Overlays

The shapes drawn over the plotting area: a rectangle, or on a polar surface a sector of a ring.
-/

namespace ChartGestures

inductive SweepDirection where
  | clockwise
  | counterclockwise
  deriving DecidableEq

/-- Angles are in degrees, clockwise on the screen from the positive x axis. -/
structure AnnulusSector (α : Type) where
  center : Point α
  startAngle : α
  endAngle : α
  innerRadius : α
  outerRadius : α
  thickness : α
  sweep : SweepDirection
  isLargeArc : Bool

/-- The sector between two coordinates, each an angle and a radius. -/
def AnnulusSector.between {α : Type} [Scalar α] (center first last : Point α) : AnnulusSector α :=
  let delta := last.x - first.x
  let outerRadius := Scalar.larger first.y last.y
  let thickness := Scalar.abs (last.y - first.y)
  { center
    startAngle := first.x
    endAngle := last.x
    innerRadius := outerRadius - thickness
    outerRadius
    thickness
    sweep := if 0 ≤ delta then .clockwise else .counterclockwise
    isLargeArc := 180 < Scalar.abs delta }

inductive OverlayShape (α : Type) where
  | rect (shape : Rect α)
  | annulus (shape : AnnulusSector α)

structure LineSegment (α : Type) where
  first : Point α
  last : Point α

end ChartGestures
