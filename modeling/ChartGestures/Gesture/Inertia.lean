import ChartGestures.Gesture.Config
import ChartGestures.Gesture.Timer

/-!
# Panning and inertia

A pan moves axes by the motion since the last step, but sets category axes from the range they had when the gesture
started, so that rounding never adds up. After the release a pan may go on by itself: each tick of a timer takes some
friction off its velocity, and moves the axes by what is left.
-/

namespace ChartGestures

open Scalar

/-- Which axes a pan moves, and how each family is clipped. -/
structure PanTarget where
  direction : XyDirection
  clipX : ClipMode
  clipY : ClipMode
  /-- Y axes only pan on the pane the gesture started on. -/
  panY : Bool

/-- The ranges that category axes had at the start, by axis. -/
abbrev StartRanges (α : Type) [Scalar α] [Decimals α] := List (String × Range α)

namespace PanTarget

variable {α : Type} [Scalar α] [Decimals α]

def axes (t : PanTarget) (p : Pane α) : List (String × ClipMode) :=
  (if t.direction.includesX then (p.axisIds .x).map (·, t.clipX) else [])
    ++ if t.panY && t.direction.includesY then (p.axisIds .y).map (·, t.clipY) else []

def categoryStarts (t : PanTarget) (p : Pane α) : StartRanges α :=
  (t.axes p).filterMap fun (id, _) =>
    (p.axis? id).bind fun a => if a.category then some (id, a.visibleRange) else none

/-- Moves one axis: by `delta`, or if it is a category axis with a start, from there by `total`. -/
def panAxis (starts : StartRanges α) (delta total : Point α) (id : String) (mode : ClipMode) (a : ChartAxis α) :
    AxisWrite α :=
  match (starts.lookup id).filter fun _ => a.category with
  | some start => a.panFrom start (a.pixelComponent total) mode
  | none =>
    let pixels := a.pixelComponent delta
    if pixels != 0 then a.scroll pixels mode else a.unchanged

/-- Moves every axis of the target. -/
def pan (t : PanTarget) (delta total : Point α) (starts : StartRanges α) (p : Pane α) : Pane α :=
  p.suspended fun p =>
    (t.axes p).foldl (fun p (id, mode) => p.writeAxis id (panAxis starts delta total id mode)) p

end PanTarget

/-- Velocity is in pixels a tick. -/
structure Inertia (α : Type) [Scalar α] [Decimals α] where
  config : InertiaConfig α
  timer : IntervalTimer
  velocity : Point α
  /-- How far category axes are to be from their starts. -/
  categoryOffset : Point α
  categoryStarts : StartRanges α
  target : Option PanTarget

/-- Takes friction off one component of a velocity, which stops at zero. -/
def decay {α : Type} [Scalar α] (velocity friction : α) : α :=
  if 0 < velocity then larger (velocity - friction) 0 else smaller (velocity + friction) 0

namespace Inertia

variable {α : Type} [Scalar α] [Decimals α]

/-- At rest. -/
def atRest (config : InertiaConfig α) : Inertia α where
  config := config
  timer := .new config.tickNanos
  velocity := .zero
  categoryOffset := .zero
  categoryStarts := []
  target := none

/-- Inertia of a configuration that makes sense. -/
def new (config : InertiaConfig α) : Except ConfigFault (Inertia α) :=
  match config.fault? with
  | some fault => .error fault
  | none => .ok (atRest config)

def isActive (i : Inertia α) : Bool := i.timer.isRunning

/-- Stops coasting. -/
def reset (i : Inertia α) : Inertia α :=
  { i with
    timer := i.timer.stop
    velocity := .zero
    categoryOffset := .zero
    categoryStarts := []
    target := none }

/-- Each component within the largest velocity. -/
def limit (config : InertiaConfig α) (velocity : Point α) : Point α :=
  velocity.clamp ⟨-config.maxVelocity, -config.maxVelocity⟩ ⟨config.maxVelocity, config.maxVelocity⟩

/-- Starts coasting at a velocity, on from a gesture that moved category axes by `offset` from `starts`. -/
def start (i : Inertia α) (now : Nat) (velocity offset : Point α) (starts : StartRanges α) (target : PanTarget) :
    Inertia α :=
  let velocity := limit i.config velocity
  if velocity == .zero then i.reset
  else
    { i with
      velocity
      categoryOffset := offset
      categoryStarts := starts
      target := some target
      timer := i.timer.start now }

/-- One tick. -/
def step (i : Inertia α) (p : Pane α) : Inertia α × Pane α :=
  let velocity := ⟨decay i.velocity.x i.config.friction, decay i.velocity.y i.config.friction⟩
  let offset := i.categoryOffset + velocity
  let p :=
    match i.target with
    | some target => target.pan velocity offset i.categoryStarts p
    | none => p
  let i := { i with velocity, categoryOffset := offset }
  (if velocity == .zero then i.reset else i, p)

/-- Up to `count` ticks, fewer if the velocity comes to rest. -/
def steps : Nat → Inertia α → Pane α → Inertia α × Pane α
  | 0, i, p => (i, p)
  | count + 1, i, p =>
    let (i, p) := i.step p
    if i.velocity == .zero then (i, p) else steps count i p

/-- The ticks due at `now`. -/
def tick (i : Inertia α) (now : Nat) (p : Pane α) : Inertia α × Pane α :=
  let (ticks, timer) := i.timer.poll now
  steps ticks { i with timer } p

end Inertia

end ChartGestures
