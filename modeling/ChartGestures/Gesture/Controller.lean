import ChartGestures.Gesture.AxisDrag
import ChartGestures.Gesture.PinchZoom
import ChartGestures.Gesture.RubberBand
import ChartGestures.Gesture.WheelZoom
import ChartGestures.Gesture.ZoomPan

/-!
# The controllers

The gestures of the library as one type, so that a group can hold any mixture of them. A double click that shows all
data is small enough to stand here.
-/

namespace ChartGestures

/-- A double click shows all data. -/
structure ZoomExtents where
  id : OwnerId
  config : ZoomExtentsConfig

namespace ZoomExtents

variable {α : Type} [Scalar α] [Decimals α]

def name : String := "zoom extents"

def doubleClick (c : ZoomExtents) (args : MouseArgs α) (p : Pane α) : Reaction α ZoomExtents :=
  if !c.config.executeOn.accepts args.buttons then .ignore c p
  else ⟨c, p.zoomToExtents c.config.direction c.config.animation, true⟩

end ZoomExtents

inductive Controller (α : Type) [Scalar α] [Decimals α] where
  | axisDrag (c : AxisDrag α)
  | wheelZoom (c : WheelZoom α)
  | pinchZoom (c : PinchZoom α)
  | rubberBand (c : RubberBand α)
  | zoomPan (c : ZoomPan α)
  | zoomExtents (c : ZoomExtents)

namespace Controller

variable {α : Type} [Scalar α] [Decimals α] [Trigonometry α]

def id {α : Type} [Scalar α] [Decimals α] : Controller α → OwnerId
  | axisDrag c => c.id
  | wheelZoom c => c.id
  | pinchZoom c => c.id
  | rubberBand c => c.id
  | zoomPan c => c.id
  | zoomExtents c => c.id

def name {α : Type} [Scalar α] [Decimals α] : Controller α → String
  | axisDrag c => c.name
  | wheelZoom _ => WheelZoom.name
  | pinchZoom _ => PinchZoom.name
  | rubberBand _ => RubberBand.name
  | zoomPan _ => ZoomPan.name
  | zoomExtents _ => ZoomExtents.name

def attached {α : Type} [Scalar α] [Decimals α] (c : Controller α) (p : Pane α) : Controller α × Pane α :=
  match c with
  | axisDrag c => (c.attached p).map axisDrag fun p => p
  | zoomPan c => (c.attached p).map zoomPan fun p => p
  | c => (c, p)

def detached {α : Type} [Scalar α] [Decimals α] (c : Controller α) (p : Pane α) : Controller α × Pane α :=
  match c with
  | axisDrag c => (c.detached p).map axisDrag fun p => p
  | pinchZoom c => (c.detached p).map pinchZoom fun p => p
  | rubberBand c => (c.cancel p).map rubberBand fun p => p
  | zoomPan c => (c.detached p).map zoomPan fun p => p
  | c => (c, p)

def mouse (kind : MouseEventKind) (c : Controller α) (args : MouseArgs α) (p : Pane α) : Reaction α (Controller α) :=
  match kind, c with
  | .down, axisDrag c => (c.mouseDown args p).map axisDrag
  | .move, axisDrag c => (c.mouseMove args p).map axisDrag
  | .up, axisDrag c => (c.endDrag p).map axisDrag
  | .wheel, wheelZoom c => (c.wheel args p).map wheelZoom
  | .down, rubberBand c => (c.mouseDown args p).map rubberBand
  | .move, rubberBand c => (c.mouseMove args p).map rubberBand
  | .up, rubberBand c => (c.mouseUp args p).map rubberBand
  | .down, zoomPan c => (c.mouseDown args p).map zoomPan
  | .move, zoomPan c => (c.mouseMove args p).map zoomPan
  | .up, zoomPan c => (c.mouseUp args p).map zoomPan
  | .doubleClick, zoomExtents c => (c.doubleClick args p).map zoomExtents
  | _, c => .ignore c p

def touch (action : TouchAction) (c : Controller α) (args : TouchArgs α) (p : Pane α) :
    Reaction α (Controller α) :=
  match action, c with
  | .down, pinchZoom c => (c.touchDown args p).map pinchZoom
  | .move, pinchZoom c => (c.touchMove args p).map pinchZoom
  | .up, pinchZoom c => (c.touchUp args p).map pinchZoom
  | _, c => .ignore c p

def lostCapture {α : Type} [Scalar α] [Decimals α] (c : Controller α) (p : Pane α) : Controller α × Pane α :=
  match c with
  | axisDrag c => (axisDrag (c.endDrag p).controller, (c.endDrag p).pane)
  | rubberBand c => (c.cancel p).map rubberBand fun p => p
  | zoomPan c => (c.endDrag p).map zoomPan fun p => p
  | c => (c, p)

def tick (now : Nat) (c : Controller α) (p : Pane α) : Controller α × Pane α :=
  match c with
  | pinchZoom c => (c.tick now p).map pinchZoom fun p => p
  | zoomPan c => (c.tick now p).map zoomPan fun p => p
  | c => (c, p)

def isTimerActive {α : Type} [Scalar α] [Decimals α] : Controller α → Bool
  | pinchZoom c => c.timer.isRunning
  | zoomPan c => c.inertia.isActive
  | _ => false

end Controller

instance {α : Type} [Scalar α] [Decimals α] [Trigonometry α] : GestureController α (Controller α) where
  id := Controller.id
  name := Controller.name
  isEnabled _ := true
  receivesHandled _ := false
  attached := Controller.attached
  detached := Controller.detached
  mouse := Controller.mouse
  touch := Controller.touch
  lostCapture := Controller.lostCapture
  tick := Controller.tick
  isTimerActive := Controller.isTimerActive

end ChartGestures
