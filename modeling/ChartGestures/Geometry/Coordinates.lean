import ChartGestures.Geometry.Overlay

/-!
# Coordinates

How the points of a surface map to the coordinates its axes are laid out in. On a Cartesian surface a point is its own
coordinate. On a polar one the coordinate is an angle in degrees and a radius, around the center of the viewport, and
the plotting area is the largest circle that fits. Angles come around: following a gesture, each new angle is taken
next to the one before, so that a band across zero degrees stays in one piece.
-/

namespace ChartGestures

open Scalar

inductive CoordinateSystem where
  | cartesian
  | polar
  deriving BEq, DecidableEq

/-- The way around from one angle to another, more than half a turn back and at most half a turn on. -/
def angleDelta {α : Type} [Scalar α] (start finish : α) : α :=
  let delta := wrapTurn 360 (finish - start)
  if 180 < delta then delta - 360 else delta

structure Coordinates (α : Type) where
  system : CoordinateSystem
  viewport : Rect α

namespace Coordinates

variable {α : Type} [Scalar α] [Trigonometry α]

def center (c : Coordinates α) : Point α := c.viewport.center

/-- The radius of the polar plotting area. -/
def maxRadius {α : Type} [Scalar α] (viewport : Rect α) : α := larger (smaller viewport.width viewport.height / 2) 0

/-- The coordinate of a point. -/
def transform (c : Coordinates α) (p : Point α) : Point α :=
  match c.system with
  | .cartesian => p
  | .polar =>
    let offset := p - c.center
    ⟨wrapTurn 360 offset.direction, offset.length⟩

/-- The point of a coordinate. -/
def reverse (c : Coordinates α) (q : Point α) : Point α :=
  match c.system with
  | .cartesian => q
  | .polar => c.center + Point.mk (q.y * Trigonometry.cosine q.x) (q.y * Trigonometry.sine q.x)

/-- The nearest point of the plotting area. -/
def clip (c : Coordinates α) (p : Point α) : Point α :=
  match c.system with
  | .cartesian => c.viewport.clampPoint p
  | .polar =>
    let q := c.transform p
    if q.y ≤ maxRadius c.viewport then p else c.reverse ⟨q.x, maxRadius c.viewport⟩

/-- The coordinate of the nearest point of the plotting area. -/
def clippedCoordinate (c : Coordinates α) (p : Point α) : Point α := c.transform (c.clip p)

/-- How far a gesture went between two coordinates: in pixels, or in degrees around a polar surface. -/
def distance (c : Coordinates α) (first last : Point α) : α :=
  match c.system with
  | .cartesian => (first - last).length
  | .polar => abs (angleDelta first.x last.x)

/-- Follows a gesture from one coordinate to a fresh one. -/
def follow (c : Coordinates α) (previous next : Point α) : Point α :=
  match c.system with
  | .cartesian => next
  | .polar => ⟨previous.x + angleDelta previous.x next.x, next.y⟩

/-- The overlay of a gesture that has only begun. -/
def pressOverlay (c : Coordinates α) (anchor : Point α) : OverlayShape α :=
  let q := c.clippedCoordinate anchor
  match c.system with
  | .cartesian => .rect ⟨q.x, q.y, 0, 0⟩
  | .polar => .annulus (.between c.center q q)

/-- The overlay between two coordinates; with `xOnly` it takes in the whole extent of the other direction. -/
def overlayBetween (c : Coordinates α) (first last : Point α) (xOnly : Bool) : OverlayShape α :=
  match c.system with
  | .cartesian =>
    let r := Rect.ofPoints first last
    .rect (if xOnly then { r with y := c.viewport.y, height := c.viewport.height } else r)
  | .polar =>
    if xOnly then .annulus (.between c.center ⟨first.x, 0⟩ ⟨last.x, maxRadius c.viewport⟩)
    else .annulus (.between c.center first last)

/-- The overlay between a press and the current point. -/
def dragOverlay (c : Coordinates α) (anchor current : Point α) (xOnly : Bool) : OverlayShape α :=
  let first := c.clippedCoordinate anchor
  c.overlayBetween first (c.follow first (c.clippedCoordinate current)) xOnly

/-- The span of the coordinates; the far end of an axis stands at it. -/
def extent (c : Coordinates α) : Point α :=
  match c.system with
  | .cartesian => c.viewport.size
  | .polar => ⟨360, maxRadius c.viewport⟩

/-- The line through a point along which values are read off. -/
def rolloverLine (c : Coordinates α) (p : Point α) : LineSegment α :=
  match c.system with
  | .cartesian =>
    let x := clamp p.x c.viewport.x (larger c.viewport.right c.viewport.x)
    ⟨⟨x, c.viewport.y⟩, ⟨x, c.viewport.bottom⟩⟩
  | .polar => ⟨c.center, c.reverse ⟨(c.transform p).x, maxRadius c.viewport⟩⟩

end Coordinates

end ChartGestures
