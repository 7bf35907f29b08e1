import ChartGestures.Script.Settings
import ChartGestures.Time.Text

/-!
# Gesture scripts

A script describes a pane, the controllers on it and the input to replay, with times in milliseconds from its start.
It is read from JSON; an event names its type, in an object under `type` or at the front of an array. Times never go
back, the viewport has a size, and there is at least one axis.
-/

namespace ChartGestures

open Json

structure AxisSpec where
  id : String
  family : AxisFamily
  /-- Without it, x axes are horizontal and y axes are not. -/
  horizontal : Option Bool
  kind : String
  visible : Float × Float
  /-- Without it, the data range is the visible one. -/
  data : Option (Float × Float)
  flip : Bool
  category : Bool
  autoRange : AutoRange
  margin : GrowMargin Float
  bounds : Option (Rect Float)

inductive ControllerKind where
  | dragX
  | dragY
  | wheelZoom
  | pinchZoom
  | rubberBand
  | zoomPan
  | zoomExtents
  deriving BEq, DecidableEq

structure TouchPoint where
  id : Nat
  position : Point Float

inductive ScriptInput where
  | mouse (kind : MouseEventKind) (point : Point Float) (buttons : MouseButtons)
  | wheel (point : Point Float) (delta : Float)
  | touch (action : TouchAction) (touches : List TouchPoint)
  /-- Lets timers run without input. -/
  | advance

structure ScriptEvent where
  atMs : Nat
  input : ScriptInput

structure Script where
  viewport : Rect Float
  system : CoordinateSystem
  axes : List AxisSpec
  controllers : List ControllerKind
  /-- Takes the place of the configuration given from outside. -/
  config : Option (InteractionConfig Float)
  events : List ScriptEvent

inductive ScriptError where
  | malformed
  | emptyViewport
  | noAxes
  /-- An event, counted from zero, comes before the one in front of it. -/
  | outOfOrder (index atMs : Nat)
  | config (fault : ConfigFault)
  | axisKind (id : String) (error : RangeError)
  deriving DecidableEq

def ScriptError.message : ScriptError → String
  | malformed => "Failed to parse gesture script"
  | emptyViewport => "Viewport must have a positive size"
  | noAxes => "Script declares no axes"
  | outOfOrder index atMs =>
    "Event " ++ toString index ++ " at " ++ elapsedText (atMs * nanosPerMilli)
      ++ " is earlier than the event before it"
  | config fault => "Invalid interaction configuration: " ++ (ConfigError.invalid fault).message
  | axisKind id error => "Axis " ++ id ++ " has an invalid domain: " ++ error.message

def ScriptEvent.time (e : ScriptEvent) : Nat := e.atMs * nanosPerMilli

/-! ### Reading -/

def AutoRange.cases : List (String × AutoRange) := [("Never", .never), ("Once", .once), ("Always", .always)]

def CoordinateSystem.cases : List (String × CoordinateSystem) := [("Cartesian", .cartesian), ("Polar", .polar)]

def AxisFamily.cases : List (String × AxisFamily) := [("x", .x), ("y", .y)]

def ControllerKind.cases : List (String × ControllerKind) :=
  [("drag_scale_x", .dragX), ("drag_scale_y", .dragY), ("wheel_zoom", .wheelZoom), ("pinch_zoom", .pinchZoom),
    ("rubber_band", .rubberBand), ("zoom_pan", .zoomPan), ("zoom_extents", .zoomExtents)]

def buttonCases : List (String × MouseButtons) :=
  [("left", .onlyLeft), ("middle", .onlyMiddle), ("right", .onlyRight)]

/-- The name of a button may also stand over an empty object. -/
def buttonOfJson : Json → Option MouseButtons
  | .object [(some name, .object [])] => buttonCases.lookup name
  | j => choice? buttonCases j

def Rect.ofJson (j : Json) : Option (Rect Float) := do
  let r ← j.record? ["x", "y", "width", "height"]
  return {
    x := ← r.required "x" float?
    y := ← r.required "y" float?
    width := ← r.required "width" float?
    height := ← r.required "height" float? }

def GrowMargin.ofJson (j : Json) : Option (GrowMargin Float) := do
  let r ← j.record? ["min", "max"]
  return { min := ← r.required "min" float?, max := ← r.required "max" float? }

def TouchPoint.ofJson (j : Json) : Option TouchPoint := do
  let r ← j.record? ["id", "x", "y"]
  let id ← r.required "id" unsigned?
  if UInt32.size ≤ id then none
  else return { id, position := ⟨← r.required "x" float?, ← r.required "y" float?⟩ }

def AxisSpec.ofJson (j : Json) : Option AxisSpec := do
  let r ← j.record? ["id", "family", "horizontal", "domain", "visible", "data", "flip", "category", "auto_range",
    "grow_by", "bounds"]
  return {
    id := ← r.required "id" string?
    family := ← r.required "family" (choice? AxisFamily.cases)
    horizontal := ← r.withDefault "horizontal" (nullable? bool?) none
    kind := ← r.withDefault "domain" string? RangeKind.double.name
    visible := ← r.required "visible" pair?
    data := ← r.withDefault "data" (nullable? pair?) none
    flip := ← r.withDefault "flip" bool? false
    category := ← r.withDefault "category" bool? false
    autoRange := ← r.withDefault "auto_range" (choice? AutoRange.cases) .never
    margin := ← r.withDefault "grow_by" GrowMargin.ofJson .zero
    bounds := ← r.withDefault "bounds" (nullable? Rect.ofJson) none }

namespace ScriptEvent

/-- The arrays and objects a script may nest, less those that stand around the events. -/
def maxDepth : Nat := 125

def mouseOfJson (kind : MouseEventKind) (j : Json) : Option ScriptEvent := do
  let r ← j.record? ["at_ms", "x", "y", "button"]
  let atMs ← r.required "at_ms" unsigned?
  let point := ⟨← r.required "x" float?, ← r.required "y" float?⟩
  let buttons ← r.withDefault "button" buttonOfJson .onlyLeft
  -- the buttons are up by the time their release arrives
  return ⟨atMs, .mouse kind point (if kind = .up then .none else buttons)⟩

def wheelOfJson (j : Json) : Option ScriptEvent := do
  let r ← j.record? ["at_ms", "x", "y", "delta"]
  let atMs ← r.required "at_ms" unsigned?
  let point := ⟨← r.required "x" float?, ← r.required "y" float?⟩
  return ⟨atMs, .wheel point (← r.required "delta" float?)⟩

def touchOfJson (action : TouchAction) (j : Json) : Option ScriptEvent := do
  let r ← j.record? ["at_ms", "touches"]
  let atMs ← r.required "at_ms" unsigned?
  return ⟨atMs, .touch action (← r.required "touches" (list? TouchPoint.ofJson))⟩

def advanceOfJson (j : Json) : Option ScriptEvent := do
  let r ← j.record? ["at_ms"]
  return ⟨← r.required "at_ms" unsigned?, .advance⟩

def readers : List (String × (Json → Option ScriptEvent)) :=
  [("mouse_down", mouseOfJson .down), ("mouse_move", mouseOfJson .move), ("mouse_up", mouseOfJson .up),
    ("wheel", wheelOfJson), ("double_click", mouseOfJson .doubleClick), ("touch_down", touchOfJson .down),
    ("touch_move", touchOfJson .move), ("touch_up", touchOfJson .up), ("advance", advanceOfJson)]

/-- The type of an event, and what else it holds. -/
def untag? : Json → Option (String × Json)
  | .object fields => do
    let types := fields.filter fun field => field.1 == some "type"
    match types with
    | [(_, .string (some type))] => some (type, .object (fields.filter fun field => field.1 != some "type"))
    | _ => none
  | .array (.string (some type) :: rest) => some (type, .array rest)
  | _ => none

mutual

/-- Whether every string is a text and every number a double, also where nothing is made of them. -/
def isReadable : Json → Bool
  | .number n => n.toFloat?.isSome
  | .string text => text.isSome
  | .array items => areReadable items
  | .object fields => areReadableFields fields
  | _ => true

def areReadable : List Json → Bool
  | [] => true
  | item :: rest => isReadable item && areReadable rest

def areReadableFields : List (Option String × Json) → Bool
  | [] => true
  | (name, value) :: rest => name.isSome && isReadable value && areReadableFields rest

end

/-- An event is taken in whole before its type is known, so nothing in it may be unreadable. -/
def ofJson (j : Json) : Option ScriptEvent := do
  if maxDepth < j.depth || !isReadable j then none
  else
    let (type, rest) ← untag? j
    (← readers.lookup type) rest

end ScriptEvent

namespace Script

def ofJson (j : Json) : Option Script := do
  let r ← j.record? ["viewport", "coordinate_system", "axes", "controllers", "config", "events"]
  return {
    viewport := ← r.required "viewport" Rect.ofJson
    system := ← r.withDefault "coordinate_system" (choice? CoordinateSystem.cases) .cartesian
    axes := ← r.required "axes" (list? AxisSpec.ofJson)
    controllers := ← r.required "controllers" (list? (choice? ControllerKind.cases))
    config := ← r.withDefault "config" (nullable? InteractionConfig.ofJson) none
    events := ← r.required "events" (list? ScriptEvent.ofJson) }

/-- The first event that comes before the one in front of it. -/
def outOfOrder? (index previous : Nat) : List ScriptEvent → Option ScriptError
  | [] => none
  | e :: rest => if e.atMs < previous then some (.outOfOrder index e.atMs) else outOfOrder? (index + 1) e.atMs rest

/-- What is wrong with a script that could be read. -/
def fault? (s : Script) : Option ScriptError :=
  if s.viewport.isEmpty then some .emptyViewport
  else if s.axes.isEmpty then some .noAxes
  else outOfOrder? 0 0 s.events

/-- The script that a value holds, if it makes sense. -/
def ofValue (j : Json) : Except ScriptError Script :=
  match ofJson j with
  | none => .error .malformed
  | some s =>
    match s.fault? with
    | some fault => .error fault
    | none => .ok s

def ofText (text : String) : Except ScriptError Script := (Json.parse? text).elim (.error .malformed) ofValue

end Script

end ChartGestures
