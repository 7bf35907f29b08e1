import ChartGestures.Gesture.Controller
import ChartGestures.Gesture.Group
import ChartGestures.Json.Printer
import ChartGestures.Range.Text
import ChartGestures.Script.Basic

/-!
# Replaying scripts

A script is replayed in simulated time. While a timer runs, time goes on in small steps up to the next event, and after
the last event until the timers stop, though not forever. What the axes show is reported, x axes first.
-/

namespace ChartGestures

/-- The grain of simulated time, in nanoseconds. -/
def tickStep : Nat := 4 * nanosPerMilli

/-- The longest wait for timers after the last event, in nanoseconds. -/
def maxDrain : Nat := 10000 * nanosPerMilli

structure AxisReport where
  id : String
  min : Float
  max : Float
  range : String

structure Replay [Decimals Float] where
  pane : Pane Float
  group : ControllerGroup (Controller Float)
  now : Nat

section

variable [Decimals Float]

/-- The axis that a specification describes. -/
def AxisSpec.build (spec : AxisSpec) : Except ScriptError (ChartAxis Float) := do
  let kind ← (RangeKind.ofName spec.kind).mapError (.axisKind spec.id)
  let visible := Range.ofCanonical kind spec.visible.1 spec.visible.2
  let a := ChartAxis.new spec.id (spec.horizontal.getD (spec.family == .x)) visible
  let a := { a with flip := spec.flip, category := spec.category, autoRange := spec.autoRange, margin := spec.margin }
  let a := spec.data.elim a fun data => a.withData (.ofCanonical kind data.1 data.2)
  return spec.bounds.elim a fun bounds => { a with bounds }

def ControllerKind.build (id : OwnerId) (config : InteractionConfig Float) :
    ControllerKind → Except ConfigFault (Controller Float)
  | dragX => .ok (.axisDrag (.new id .x config.dragScale))
  | dragY => .ok (.axisDrag (.new id .y config.dragScale))
  | wheelZoom => .ok (.wheelZoom ⟨id, config.wheelZoom⟩)
  | pinchZoom => .ok (.pinchZoom (.new id config.pinchZoom))
  | rubberBand => .ok (.rubberBand (.new id config.rubberBand))
  | zoomPan => (ZoomPan.new id config.zoomPan).map .zoomPan
  | zoomExtents => .ok (.zoomExtents ⟨id, config.zoomExtents⟩)

namespace Replay

/-- The pane of a script, with its axes in order. -/
def buildPane (s : Script) : Except ScriptError (Pane Float) :=
  s.axes.foldlM (fun p spec => (spec.build).map (p.addAxis spec.family)) (Pane.new s.viewport s.system)

/-- The controllers of a script, numbered in order. -/
def buildControllers (config : InteractionConfig Float) : OwnerId → List ControllerKind →
    Except ConfigFault (List (Controller Float))
  | _, [] => .ok []
  | id, kind :: rest => do
    let c ← kind.build id config
    return c :: (← buildControllers config (id + 1) rest)

/-- A script at its start. -/
def ofScript (s : Script) (config : InteractionConfig Float) : Except ScriptError Replay := do
  let config := s.config.getD config
  if let some fault := config.fault? then throw (.config fault)
  let pane ← buildPane s
  let controllers ← (buildControllers config 0 s.controllers).mapError .config
  let (group, pane) := (ControllerGroup.ofList controllers).attach pane
  return ⟨pane, group, 0⟩

omit [Decimals Float] in
/-- A step of time leaves less of it up to the limit. -/
theorem remaining_lt {now limit step : Nat} (later : now < limit) (positive : 0 < step) :
    limit - min (now + step) limit < limit - now := by omega

/-- Ticks in steps of time up to `limit`, as long as a timer runs. -/
def runTimers (step : Nat) (positive : 0 < step) (limit : Nat) (r : Replay) : Replay :=
  if _running : r.group.isTimerActive Float ∧ r.now < limit then
    let now := min (r.now + step) limit
    let (group, pane) := r.group.tick now r.pane
    runTimers step positive limit ⟨pane, group, now⟩
  else r
termination_by limit - r.now
decreasing_by exact remaining_lt _running.2 positive

omit [Decimals Float] in
theorem tickStep_pos : 0 < tickStep := by decide

/-- Lets time go on to `limit`. -/
def advanceTo (r : Replay) (limit : Nat) : Replay :=
  let r := runTimers tickStep tickStep_pos limit r
  { r with now := max r.now limit }

/-- Lets running timers finish. -/
def drain (r : Replay) : Replay := r.advanceTo (r.now + maxDrain)

def dispatchMouse (r : Replay) (kind : MouseEventKind) (args : MouseArgs Float) : Replay :=
  let (group, pane, _) := r.group.dispatchMouse kind args false r.pane
  { r with group, pane }

def apply (r : Replay) (e : ScriptEvent) : Replay :=
  let r := r.advanceTo e.time
  match e.input with
  | .mouse kind point buttons => r.dispatchMouse kind (.new point buttons e.time)
  | .wheel point delta => r.dispatchMouse .wheel { MouseArgs.new point .none e.time with wheelDelta := delta }
  | .touch action touches =>
    let manipulators := touches.map fun t => ⟨t.id, t.position, action⟩
    let (group, pane, _) := r.group.dispatchTouch action ⟨manipulators, true, e.time⟩ false r.pane
    { r with group, pane }
  | .advance => r

/-- What every axis shows, x axes first, each found by its id. -/
def report (r : Replay) : List AxisReport :=
  (r.pane.axes.map (·.id)).filterMap fun id => (r.pane.axis? id).map fun a =>
    let (min, max) := a.visibleRange.preciseBounds
    { id := a.id, min, max, range := a.visibleRange.text }

/-- The reports after each of the events, and what is left to finish. -/
def applyAll (r : Replay) : List ScriptEvent → List (List AxisReport) × Replay
  | [] => ([], r)
  | e :: rest =>
    let r := r.apply e
    let (reports, last) := r.applyAll rest
    (r.report :: reports, last)

/-- The last report, after the timers stopped and the controllers let go. -/
def finish (r : Replay) : List AxisReport :=
  let r := r.drain
  let (group, pane) := r.group.detach r.pane
  report { r with group, pane }

end Replay

end

/-! ### Written reports -/

def AxisReport.toJson (a : AxisReport) : Json :=
  .record [("id", .text a.id), ("min", .float a.min), ("max", .float a.max), ("range", .text a.range)]

/-- One axis a line. -/
def reportText (report : List AxisReport) : String :=
  String.join (report.map fun a => a.id ++ ": " ++ a.range ++ "\n")

def reportJson (report : List AxisReport) : String := (Json.ofList AxisReport.toJson report).pretty "" ++ "\n"

end ChartGestures
