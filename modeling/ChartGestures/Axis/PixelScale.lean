import ChartGestures.Range.Basic

/-!
# Pixel scales

An axis spreads its visible range evenly over its length in pixels. The scale turns pixel offsets, counted from the
least pixel of the axis, into values and candidate ranges. An axis of no length moves nothing.
-/

namespace ChartGestures

open Scalar

structure PixelScale (α : Type) where
  extent : α
  /-- Whether values grow with the pixel offset. -/
  increasing : Bool

namespace PixelScale

variable {α : Type} [Scalar α] [Decimals α]

def isDegenerate (s : PixelScale α) : Bool := s.extent ≤ 0 || !isFinite s.extent

/-- The change of value when the content is dragged by `pixels`. -/
def valueOffset (s : PixelScale α) (r : Range α) (pixels : α) : α :=
  let perPixel := (r.preciseBounds.2 - r.preciseBounds.1) / s.extent
  if s.increasing then -pixels * perPixel else pixels * perPixel

/-- The value under a pixel. -/
def valueAt (s : PixelScale α) (r : Range α) (pixel : α) : α :=
  let (min, max) := r.preciseBounds
  let fraction := if s.isDegenerate then 0 else pixel / s.extent
  if s.increasing then min + fraction * (max - min) else max - fraction * (max - min)

/-- Moves both bounds. -/
def scroll (s : PixelScale α) (r : Range α) (pixels : α) : Range α :=
  if s.isDegenerate then r else r.translate (s.valueOffset r pixels)

/-- Moves only the lower bound. -/
def scrollMin (s : PixelScale α) (r : Range α) (pixels : α) : Range α :=
  if s.isDegenerate then r else r.like (r.preciseBounds.1 + s.valueOffset r pixels) r.preciseBounds.2

/-- Moves only the upper bound. -/
def scrollMax (s : PixelScale α) (r : Range α) (pixels : α) : Range α :=
  if s.isDegenerate then r else r.like r.preciseBounds.1 (r.preciseBounds.2 + s.valueOffset r pixels)

/-- Moves the bound of one half. -/
def scrollHalf (s : PixelScale α) (r : Range α) (pixels : α) : DragHalf → Range α
  | .near => s.scrollMin r pixels
  | .far => s.scrollMax r pixels

/-- The range between the values under two pixels. -/
def zoom (s : PixelScale α) (r : Range α) (first last : α) : Range α :=
  if s.isDegenerate then r else r.like (s.valueAt r first) (s.valueAt r last)

end PixelScale

end ChartGestures
