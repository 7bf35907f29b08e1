import ChartGestures.Gesture.Config
import ChartGestures.Json.Decode

/-!
# Settings in JSON

How a configuration is read and written. Every field has a default and may be left out. A writer is told how numbers
with a fraction are to be written.
-/

namespace ChartGestures

open Json

def Trigger.cases : List (String × Trigger) :=
  [("MouseLeftButton", .leftButton), ("MouseMiddleButton", .middleButton), ("MouseRightButton", .rightButton),
    ("MouseMove", .move)]

def XyDirection.cases : List (String × XyDirection) :=
  [("XDirection", .x), ("YDirection", .y), ("XyDirection", .xy)]

def DragMode.cases : List (String × DragMode) := [("Scale", .scale), ("Pan", .pan)]

def WheelAction.cases : List (String × WheelAction) := [("Zoom", .zoom), ("Pan", .pan)]

def ClipMode.cases : List (String × ClipMode) :=
  [("None", .none), ("ClipAtExtents", .clipAtExtents), ("ClipAtMin", .clipAtMin), ("ClipAtMax", .clipAtMax),
    ("StretchAtExtents", .stretchAtExtents)]

/-- The name a choice is written with. -/
def caseName {β : Type} [BEq β] (cases : List (String × β)) (b : β) : String :=
  ((cases.find? fun entry => entry.2 == b).map (·.1)).getD ""

def AxisDragConfig.ofJson (j : Json) : Option (AxisDragConfig Float) := do
  let r ← j.record? ["execute_on", "accept_touch", "drag_mode", "clip_mode", "axis_id", "min_touch_area"]
  let d : AxisDragConfig Float := .default
  return {
    executeOn := ← r.withDefault "execute_on" (choice? Trigger.cases) d.executeOn
    acceptTouch := ← r.withDefault "accept_touch" bool? d.acceptTouch
    dragMode := ← r.withDefault "drag_mode" (choice? DragMode.cases) d.dragMode
    clipMode := ← r.withDefault "clip_mode" (choice? ClipMode.cases) d.clipMode
    axisId := ← r.withDefault "axis_id" (nullable? string?) d.axisId
    minTouchArea := ← r.withDefault "min_touch_area" float? d.minTouchArea }

def WheelZoomConfig.ofJson (j : Json) : Option (WheelZoomConfig Float) := do
  let r ← j.record? ["grow_factor", "direction", "action", "max_notches"]
  let d : WheelZoomConfig Float := .default
  return {
    growFactor := ← r.withDefault "grow_factor" float? d.growFactor
    direction := ← r.withDefault "direction" (choice? XyDirection.cases) d.direction
    action := ← r.withDefault "action" (choice? WheelAction.cases) d.action
    maxNotches := ← r.withDefault "max_notches" float? d.maxNotches }

def PinchZoomConfig.ofJson (j : Json) : Option (PinchZoomConfig Float) := do
  let r ← j.record? ["is_uniform", "direction", "buffer_interval_ms", "max_step"]
  let d : PinchZoomConfig Float := .default
  return {
    isUniform := ← r.withDefault "is_uniform" bool? d.isUniform
    direction := ← r.withDefault "direction" (choice? XyDirection.cases) d.direction
    bufferIntervalMs := ← r.withDefault "buffer_interval_ms" unsigned? d.bufferIntervalMs
    maxStep := ← r.withDefault "max_step" float? d.maxStep }

def RubberBandConfig.ofJson (j : Json) : Option (RubberBandConfig Float) := do
  let r ← j.record? ["execute_on", "is_x_axis_only", "zoom_extents_y", "min_drag_sensitivity", "is_animated",
    "animation_ms"]
  let d : RubberBandConfig Float := .default
  return {
    executeOn := ← r.withDefault "execute_on" (choice? Trigger.cases) d.executeOn
    isXAxisOnly := ← r.withDefault "is_x_axis_only" bool? d.isXAxisOnly
    zoomExtentsY := ← r.withDefault "zoom_extents_y" bool? d.zoomExtentsY
    minDragSensitivity := ← r.withDefault "min_drag_sensitivity" float? d.minDragSensitivity
    isAnimated := ← r.withDefault "is_animated" bool? d.isAnimated
    animationMs := ← r.withDefault "animation_ms" unsigned? d.animationMs }

def InertiaConfig.ofJson (j : Json) : Option (InertiaConfig Float) := do
  let r ← j.record? ["tick_interval_ms", "friction", "max_velocity", "release_timeout_ms"]
  let d : InertiaConfig Float := .default
  return {
    tickIntervalMs := ← r.withDefault "tick_interval_ms" unsigned? d.tickIntervalMs
    friction := ← r.withDefault "friction" float? d.friction
    maxVelocity := ← r.withDefault "max_velocity" float? d.maxVelocity
    releaseTimeoutMs := ← r.withDefault "release_timeout_ms" unsigned? d.releaseTimeoutMs }

def ZoomPanConfig.ofJson (j : Json) : Option (ZoomPanConfig Float) := do
  let r ← j.record? ["execute_on", "direction", "clip_mode_x", "clip_mode_y", "zoom_extents_y", "use_inertia",
    "inertia"]
  let d : ZoomPanConfig Float := .default
  return {
    executeOn := ← r.withDefault "execute_on" (choice? Trigger.cases) d.executeOn
    direction := ← r.withDefault "direction" (choice? XyDirection.cases) d.direction
    clipModeX := ← r.withDefault "clip_mode_x" (choice? ClipMode.cases) d.clipModeX
    clipModeY := ← r.withDefault "clip_mode_y" (choice? ClipMode.cases) d.clipModeY
    zoomExtentsY := ← r.withDefault "zoom_extents_y" bool? d.zoomExtentsY
    useInertia := ← r.withDefault "use_inertia" bool? d.useInertia
    inertia := ← r.withDefault "inertia" InertiaConfig.ofJson d.inertia }

def ZoomExtentsConfig.ofJson (j : Json) : Option ZoomExtentsConfig := do
  let r ← j.record? ["execute_on", "direction", "is_animated", "animation_ms"]
  let d := ZoomExtentsConfig.default
  return {
    executeOn := ← r.withDefault "execute_on" (choice? Trigger.cases) d.executeOn
    direction := ← r.withDefault "direction" (choice? XyDirection.cases) d.direction
    isAnimated := ← r.withDefault "is_animated" bool? d.isAnimated
    animationMs := ← r.withDefault "animation_ms" unsigned? d.animationMs }

/-! ### Writing -/

def caseJson {β : Type} [BEq β] (cases : List (String × β)) (b : β) : Json := text (caseName cases b)

def AxisDragConfig.toJson (number : Float → Json) (c : AxisDragConfig Float) : Json :=
  record [("execute_on", caseJson Trigger.cases c.executeOn), ("accept_touch", bool c.acceptTouch),
    ("drag_mode", caseJson DragMode.cases c.dragMode), ("clip_mode", caseJson ClipMode.cases c.clipMode),
    ("axis_id", ofOption text c.axisId), ("min_touch_area", number c.minTouchArea)]

def WheelZoomConfig.toJson (number : Float → Json) (c : WheelZoomConfig Float) : Json :=
  record [("grow_factor", number c.growFactor), ("direction", caseJson XyDirection.cases c.direction),
    ("action", caseJson WheelAction.cases c.action), ("max_notches", number c.maxNotches)]

def PinchZoomConfig.toJson (number : Float → Json) (c : PinchZoomConfig Float) : Json :=
  record [("is_uniform", bool c.isUniform), ("direction", caseJson XyDirection.cases c.direction),
    ("buffer_interval_ms", nat c.bufferIntervalMs), ("max_step", number c.maxStep)]

def RubberBandConfig.toJson (number : Float → Json) (c : RubberBandConfig Float) : Json :=
  record [("execute_on", caseJson Trigger.cases c.executeOn), ("is_x_axis_only", bool c.isXAxisOnly),
    ("zoom_extents_y", bool c.zoomExtentsY), ("min_drag_sensitivity", number c.minDragSensitivity),
    ("is_animated", bool c.isAnimated), ("animation_ms", nat c.animationMs)]

def InertiaConfig.toJson (number : Float → Json) (c : InertiaConfig Float) : Json :=
  record [("tick_interval_ms", nat c.tickIntervalMs), ("friction", number c.friction),
    ("max_velocity", number c.maxVelocity), ("release_timeout_ms", nat c.releaseTimeoutMs)]

def ZoomPanConfig.toJson (number : Float → Json) (c : ZoomPanConfig Float) : Json :=
  record [("execute_on", caseJson Trigger.cases c.executeOn), ("direction", caseJson XyDirection.cases c.direction),
    ("clip_mode_x", caseJson ClipMode.cases c.clipModeX), ("clip_mode_y", caseJson ClipMode.cases c.clipModeY),
    ("zoom_extents_y", bool c.zoomExtentsY), ("use_inertia", bool c.useInertia), ("inertia", c.inertia.toJson number)]

def ZoomExtentsConfig.toJson (c : ZoomExtentsConfig) : Json :=
  record [("execute_on", caseJson Trigger.cases c.executeOn), ("direction", caseJson XyDirection.cases c.direction),
    ("is_animated", bool c.isAnimated), ("animation_ms", nat c.animationMs)]

namespace InteractionConfig

def toJson (number : Float → Json) (c : InteractionConfig Float) : Json :=
  record [("drag_scale", c.dragScale.toJson number), ("wheel_zoom", c.wheelZoom.toJson number),
    ("pinch_zoom", c.pinchZoom.toJson number), ("rubber_band", c.rubberBand.toJson number),
    ("zoom_pan", c.zoomPan.toJson number), ("zoom_extents", c.zoomExtents.toJson)]

def ofJson (j : Json) : Option (InteractionConfig Float) := do
  let r ← j.record? ["drag_scale", "wheel_zoom", "pinch_zoom", "rubber_band", "zoom_pan", "zoom_extents"]
  return {
    dragScale := ← r.withDefault "drag_scale" AxisDragConfig.ofJson .default
    wheelZoom := ← r.withDefault "wheel_zoom" WheelZoomConfig.ofJson .default
    pinchZoom := ← r.withDefault "pinch_zoom" PinchZoomConfig.ofJson .default
    rubberBand := ← r.withDefault "rubber_band" RubberBandConfig.ofJson .default
    zoomPan := ← r.withDefault "zoom_pan" ZoomPanConfig.ofJson .default
    zoomExtents := ← r.withDefault "zoom_extents" ZoomExtentsConfig.ofJson .default }

/-- The configuration that a text holds, if it makes sense. -/
def ofText (text : String) : Except ConfigError (InteractionConfig Float) :=
  match (Json.parse? text).bind ofJson with
  | none => .error .malformed
  | some config =>
    match config.fault? with
    | some fault => .error (.invalid fault)
    | none => .ok config

end InteractionConfig

end ChartGestures
