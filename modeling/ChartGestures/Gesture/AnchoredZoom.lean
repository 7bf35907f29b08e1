import ChartGestures.Axis.ChartAxis

/-!
# Anchored zoom

A zoom that keeps the value under an anchor where it is: each bound takes the share of the growth that lies between it
and the anchor.
-/

namespace ChartGestures

open Scalar

/-- The growth below and above the anchor. `swap` is for axes whose values shrink as the pixel offset grows. -/
def zoomFractions {α : Type} [Scalar α] (anchor extent scale : α) (swap : Bool) : Option (α × α) :=
  if extent ≤ 0 || !isFinite extent || !isFinite anchor || !isFinite scale then none
  else
    let position := anchor / extent
    let low := position * scale
    let high := (1 - position) * scale
    some (if swap then (high, low) else (low, high))

namespace ChartAxis

variable {α : Type} [Scalar α] [Decimals α]

/-- How much the axis grows on either side; nothing on an axis of no length. -/
def zoomFractionsAt (a : ChartAxis α) (anchor : Point α) (scale : α) : Option (α × α) :=
  zoomFractions (a.pixelOffset anchor) a.pixelExtent scale (!a.isIncreasing)

/-- Zooms around a point of the surface; a positive scale zooms out. -/
def zoomAt (a : ChartAxis α) (anchor : Point α) (scale : α) : AxisWrite α :=
  match a.zoomFractionsAt anchor scale with
  | some (low, high) => a.zoomBy low high
  | none => a.unchanged

end ChartAxis

end ChartGestures
