import ChartGestures.Gesture.AnchoredZoom
import ChartGestures.Gesture.Reaction
import ChartGestures.Gesture.Timer

/-!
# Pinching

Two fingers or more zoom the axes by how far they spread. The spread is measured against the extent of the fingers when
the current buffer opened; it is applied once for each interval of the buffer, and as soon as a finger comes or goes.
-/

namespace ChartGestures

open Scalar

/-- The box around the fingers. -/
structure PinchExtent (α : Type) where
  width : α
  height : α
  diagonal : α
  center : Point α

/-- The relative change of the box, and where its center came to be. -/
structure PinchDelta (α : Type) where
  width : α
  height : α
  diagonal : α
  center : Point α

structure PinchZoom (α : Type) where
  id : OwnerId
  config : PinchZoomConfig α
  /-- The fingers on the screen by their ids. -/
  touches : List (Nat × Point α)
  reference : Option (PinchExtent α)
  pending : Option (PinchDelta α)
  isMaster : Bool
  timer : IntervalTimer

variable {α : Type} [Scalar α] [Decimals α] [Trigonometry α]

def PinchExtent.ofPoints : List (Point α) → Option (PinchExtent α)
  | [] => none
  | first :: rest =>
    let min := rest.foldl Point.smaller first
    let max := rest.foldl Point.larger first
    let size := max - min
    some ⟨size.x, size.y, size.length, ⟨(min.x + max.x) / 2, (min.y + max.y) / 2⟩⟩

/-- The change as a share of the reference, within `maxStep` either way. -/
def relativeChange {α : Type} [Scalar α] (current reference maxStep : α) : α :=
  if reference ≤ 0 then 0 else clamp ((current - reference) / reference) (-maxStep) maxStep

def PinchExtent.deltaFrom {α : Type} [Scalar α] (e reference : PinchExtent α) (maxStep : α) : PinchDelta α where
  width := relativeChange e.width reference.width maxStep
  height := relativeChange e.height reference.height maxStep
  diagonal := relativeChange e.diagonal reference.diagonal maxStep
  center := e.center

namespace PinchZoom

def name : String := "pinch zoom"

def new {α : Type} (id : OwnerId) (config : PinchZoomConfig α) : PinchZoom α :=
  ⟨id, config, [], none, none, true, .new config.bufferNanos⟩

def isPinching {α : Type} (c : PinchZoom α) : Bool := c.reference.isSome

/-- The scale that magnifies the content as much as the fingers spread. -/
def scaleFor {α : Type} [Scalar α] (spread : α) : α := -spread / (1 + spread)

def currentExtent (c : PinchZoom α) : Option (PinchExtent α) :=
  if c.touches.length < 2 then none else PinchExtent.ofPoints (c.touches.map (·.2))

def resetReference (c : PinchZoom α) : PinchZoom α := { c with reference := c.currentExtent }

/-- The spread that counts for an axis. -/
def spreadFor {α : Type} [Scalar α] [Decimals α] (config : PinchZoomConfig α) (delta : PinchDelta α)
    (a : ChartAxis α) : α :=
  if config.isUniform then delta.diagonal else if a.horizontal then delta.width else delta.height

def pinch {α : Type} [Scalar α] [Decimals α] (config : PinchZoomConfig α) (delta : PinchDelta α) (a : ChartAxis α) :
    AxisWrite α :=
  let spread := spreadFor config delta a
  if spread != 0 then a.zoomAt delta.center (scaleFor spread) else a.unchanged

/-- Applies the pending change, if there is one, and opens a new buffer. -/
def flush (c : PinchZoom α) (p : Pane α) : PinchZoom α × Pane α :=
  let c := { c with timer := c.timer.stop }
  match c.pending with
  | none => (c, p)
  | some delta =>
    ({ c with pending := none }.resetReference,
      p.suspended fun p => (p.axisIdsIn c.config.direction c.isMaster).foldl
        (fun p id => p.writeAxis id (pinch c.config delta)) p)

/-- The fingers after one of them moved, came or went. -/
def trackOne {α : Type} (touches : List (Nat × Point α)) (m : Manipulator α) : List (Nat × Point α) :=
  let others := touches.filter fun touch => touch.1 ≠ m.id
  match m.action with
  | .down | .move => others ++ [(m.id, m.position)]
  | .up => others

def track {α : Type} (c : PinchZoom α) (args : TouchArgs α) : PinchZoom α :=
  { c with isMaster := args.isMaster, touches := args.manipulators.foldl trackOne c.touches }

def detached {α : Type} [Scalar α] [Decimals α] (c : PinchZoom α) (p : Pane α) : PinchZoom α × Pane α :=
  ({ c with timer := c.timer.stop, touches := [], reference := none, pending := none }, p)

def touchDown (c : PinchZoom α) (args : TouchArgs α) (p : Pane α) : Reaction α (PinchZoom α) :=
  let (c, p) := c.flush p
  let c := (c.track args).resetReference
  ⟨c, p, c.isPinching⟩

def touchMove (c : PinchZoom α) (args : TouchArgs α) (p : Pane α) : Reaction α (PinchZoom α) :=
  let c := c.track args
  match c.reference, c.currentExtent with
  | some reference, some current =>
    ⟨{ c with
        pending := some (current.deltaFrom reference c.config.maxStep)
        timer := if c.timer.isRunning then c.timer else c.timer.start args.time }, p, true⟩
  | _, _ => .ignore c p

def touchUp (c : PinchZoom α) (args : TouchArgs α) (p : Pane α) : Reaction α (PinchZoom α) :=
  let wasPinching := c.isPinching
  let (c, p) := c.flush p
  ⟨(c.track args).resetReference, p, wasPinching⟩

def tick (c : PinchZoom α) (now : Nat) (p : Pane α) : PinchZoom α × Pane α :=
  let (ticks, timer) := c.timer.poll now
  let c := { c with timer }
  if 0 < ticks then c.flush p else (c, p)

end PinchZoom

end ChartGestures
