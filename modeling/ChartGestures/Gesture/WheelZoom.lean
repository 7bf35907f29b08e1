import ChartGestures.Gesture.AnchoredZoom
import ChartGestures.Gesture.Reaction

/-!
# The mouse wheel

The wheel zooms or pans. X axes follow it on every linked pane, y axes only on the pane it was turned on.
-/

namespace ChartGestures

open Scalar

structure WheelZoom (α : Type) where
  id : OwnerId
  config : WheelZoomConfig α

namespace WheelZoom

variable {α : Type} [Scalar α] [Decimals α]

def name : String := "wheel zoom"

def notchDelta : α := 120

/-- The largest fraction of the span that one event adds or takes away. -/
def maxScale : α := 0.9

/-- The notches of an event, as many as the configuration lets count. -/
def notches (config : WheelZoomConfig α) (delta : α) : α :=
  clamp (delta / notchDelta) (-config.maxNotches) config.maxNotches

/-- Turning forward zooms in. -/
def scaleFor (config : WheelZoomConfig α) (notches : α) : α :=
  clamp (-config.growFactor * notches) (-maxScale) maxScale

/-- The pixels that a pan moves an axis by. -/
def panPixels (config : WheelZoomConfig α) (notches : α) (a : ChartAxis α) : α :=
  notches * config.growFactor * a.pixelExtent

/-- Whether the event does anything to an axis. -/
def affects (config : WheelZoomConfig α) (notches : α) (anchor : Point α) (a : ChartAxis α) : Bool :=
  match config.action with
  | .zoom => (a.zoomFractionsAt anchor (scaleFor config notches)).isSome
  | .pan => panPixels config notches a != 0

def turn (config : WheelZoomConfig α) (notches : α) (anchor : Point α) (a : ChartAxis α) : AxisWrite α :=
  if !affects config notches anchor a then a.unchanged
  else
    match config.action with
    | .zoom => a.zoomAt anchor (scaleFor config notches)
    | .pan => a.scroll (panPixels config notches a) .none

def wheel (c : WheelZoom α) (args : MouseArgs α) (p : Pane α) : Reaction α (WheelZoom α) :=
  if args.wheelDelta == 0 then .ignore c p
  else
    let notches := notches c.config args.wheelDelta
    let ids := p.axisIdsIn c.config.direction args.isMaster
    let pane := p.suspended fun p =>
      ids.foldl (fun p id => p.writeAxis id (turn c.config notches args.point)) p
    ⟨c, pane, ids.any fun id => (p.axis? id).any (affects c.config notches args.point)⟩

end WheelZoom

end ChartGestures
