import ChartGestures.Input.Events
import ChartGestures.Pane.Basic

/-!
# Configuration

The settings of every controller with their defaults, and the conditions under which they make sense. Intervals are in
milliseconds.
-/

namespace ChartGestures

inductive DragMode where
  | scale
  | pan
  deriving BEq, DecidableEq

inductive WheelAction where
  | zoom
  | pan
  deriving BEq, DecidableEq

/-- A setting that makes no sense. -/
inductive ConfigFault where
  | growFactor
  | maxNotches
  | bufferInterval
  | maxStep
  | dragSensitivity
  | touchArea
  | tickInterval
  | friction
  | maxVelocity
  deriving DecidableEq

inductive ConfigError where
  /-- The text is no configuration. -/
  | malformed
  | invalid (fault : ConfigFault)
  deriving DecidableEq

def ConfigFault.message : ConfigFault → String
  | growFactor => "wheel_zoom.grow_factor must be in (0, 1)"
  | maxNotches => "wheel_zoom.max_notches must be positive"
  | bufferInterval => "pinch_zoom.buffer_interval_ms must be positive"
  | maxStep => "pinch_zoom.max_step must be in (0, 1)"
  | dragSensitivity => "rubber_band.min_drag_sensitivity must not be negative"
  | touchArea => "drag_scale.min_touch_area must not be negative"
  | tickInterval => "inertia.tick_interval_ms must be positive"
  | friction => "inertia.friction must be positive"
  | maxVelocity => "inertia.max_velocity must be positive"

def ConfigError.message : ConfigError → String
  | malformed => "JSON error"
  | invalid fault => "Invalid configuration: " ++ fault.message

/-- The length of an animation, in nanoseconds. -/
def animationNanos (animated : Bool) (millis : Nat) : Nat := if animated then millis * nanosPerMilli else 0

/-- Dragging one axis. -/
structure AxisDragConfig (α : Type) where
  /-- The button that starts a drag. -/
  executeOn : Trigger
  /-- Whether a single touch starts a drag. -/
  acceptTouch : Bool
  dragMode : DragMode
  clipMode : ClipMode
  /-- The axis to drag; without one, the first of its family. -/
  axisId : Option String
  /-- A thinner axis is hit as if it were this thick, in pixels. -/
  minTouchArea : α

structure WheelZoomConfig (α : Type) where
  /-- The fraction of the span that one notch zooms by, or of the length that it pans by. -/
  growFactor : α
  direction : XyDirection
  action : WheelAction
  /-- Notches of one event beyond this many do not count. -/
  maxNotches : α

structure PinchZoomConfig (α : Type) where
  /-- Zoom by the diagonal of the fingers, and not by their width and height apart. -/
  isUniform : Bool
  direction : XyDirection
  bufferIntervalMs : Nat
  /-- The largest relative change applied at once. -/
  maxStep : α

structure RubberBandConfig (α : Type) where
  executeOn : Trigger
  isXAxisOnly : Bool
  /-- After a zoom of the x axes alone, show all data on the y axes. -/
  zoomExtentsY : Bool
  /-- A shorter drag is given up; pixels, or degrees on a polar surface. -/
  minDragSensitivity : α
  isAnimated : Bool
  animationMs : Nat

structure InertiaConfig (α : Type) where
  tickIntervalMs : Nat
  /-- Pixels a tick that each tick takes off the velocity. -/
  friction : α
  /-- The largest velocity, in pixels a tick. -/
  maxVelocity : α
  /-- A release that long after the last move starts no coasting. -/
  releaseTimeoutMs : Nat

structure ZoomPanConfig (α : Type) where
  executeOn : Trigger
  direction : XyDirection
  clipModeX : ClipMode
  clipModeY : ClipMode
  /-- Show all data on the y axes after every move. -/
  zoomExtentsY : Bool
  useInertia : Bool
  inertia : InertiaConfig α

structure ZoomExtentsConfig where
  executeOn : Trigger
  direction : XyDirection
  isAnimated : Bool
  animationMs : Nat

structure InteractionConfig (α : Type) where
  dragScale : AxisDragConfig α
  wheelZoom : WheelZoomConfig α
  pinchZoom : PinchZoomConfig α
  rubberBand : RubberBandConfig α
  zoomPan : ZoomPanConfig α
  zoomExtents : ZoomExtentsConfig

variable {α : Type} [Scalar α]

def AxisDragConfig.default : AxisDragConfig α where
  executeOn := .leftButton
  acceptTouch := true
  dragMode := .scale
  clipMode := .none
  axisId := none
  minTouchArea := 30

def WheelZoomConfig.default : WheelZoomConfig α where
  growFactor := 0.1
  direction := .xy
  action := .zoom
  maxNotches := 5

def PinchZoomConfig.default : PinchZoomConfig α where
  isUniform := true
  direction := .xy
  bufferIntervalMs := 20
  maxStep := 0.5

def RubberBandConfig.default : RubberBandConfig α where
  executeOn := .leftButton
  isXAxisOnly := false
  zoomExtentsY := true
  minDragSensitivity := 10
  isAnimated := true
  animationMs := 400

def InertiaConfig.default : InertiaConfig α where
  tickIntervalMs := 16
  friction := 1.5
  maxVelocity := 60
  releaseTimeoutMs := 100

def ZoomPanConfig.default : ZoomPanConfig α where
  executeOn := .leftButton
  direction := .xy
  clipModeX := .clipAtExtents
  clipModeY := .none
  zoomExtentsY := false
  useInertia := true
  inertia := .default

def ZoomExtentsConfig.default : ZoomExtentsConfig where
  executeOn := .leftButton
  direction := .xy
  isAnimated := true
  animationMs := 400

def InteractionConfig.default : InteractionConfig α where
  dragScale := .default
  wheelZoom := .default
  pinchZoom := .default
  rubberBand := .default
  zoomPan := .default
  zoomExtents := .default

/-! ### Intervals in nanoseconds -/

def PinchZoomConfig.bufferNanos (c : PinchZoomConfig α) : Nat := c.bufferIntervalMs * nanosPerMilli

def RubberBandConfig.animation (c : RubberBandConfig α) : Nat := animationNanos c.isAnimated c.animationMs

def InertiaConfig.tickNanos (c : InertiaConfig α) : Nat := c.tickIntervalMs * nanosPerMilli

def InertiaConfig.releaseNanos (c : InertiaConfig α) : Nat := c.releaseTimeoutMs * nanosPerMilli

def ZoomExtentsConfig.animation (c : ZoomExtentsConfig) : Nat := animationNanos c.isAnimated c.animationMs

/-! ### Faults -/

/-- The first fault; a number that is none satisfies no condition. -/
def InertiaConfig.fault? (c : InertiaConfig α) : Option ConfigFault :=
  if c.tickIntervalMs = 0 then some .tickInterval
  else if ¬0 < c.friction then some .friction
  else if ¬0 < c.maxVelocity then some .maxVelocity
  else none

/-- The first fault of all settings. -/
def InteractionConfig.fault? (c : InteractionConfig α) : Option ConfigFault :=
  if ¬(0 < c.wheelZoom.growFactor ∧ c.wheelZoom.growFactor < 1) then some .growFactor
  else if ¬0 < c.wheelZoom.maxNotches then some .maxNotches
  else if c.pinchZoom.bufferIntervalMs = 0 then some .bufferInterval
  else if ¬(0 < c.pinchZoom.maxStep ∧ c.pinchZoom.maxStep < 1) then some .maxStep
  else if ¬0 ≤ c.rubberBand.minDragSensitivity then some .dragSensitivity
  else if ¬0 ≤ c.dragScale.minTouchArea then some .touchArea
  else c.zoomPan.inertia.fault?

end ChartGestures
