import ChartGestures.Gesture.Inertia
import ChartGestures.Gesture.Reaction

/-!
# Panning the plotting area

Dragging inside the plotting area pans the axes, x axes on every linked pane and y axes on the pane of the gesture, and
may coast on after the release. A change by somebody else makes a pan start anew from there, and stops the coasting.
-/

namespace ChartGestures

open Scalar

structure PanSession (α : Type) [Scalar α] [Decimals α] where
  target : PanTarget
  startPoint : Point α
  lastPoint : Point α
  lastTime : Nat
  /-- Pixels a tick of the inertia. -/
  velocity : Point α
  categoryStarts : StartRanges α

structure ZoomPan (α : Type) [Scalar α] [Decimals α] where
  id : OwnerId
  config : ZoomPanConfig α
  session : Option (PanSession α)
  inertia : Inertia α
  subscription : Option SubscriptionId

/-- Nanoseconds in seconds: the whole seconds and the fraction, added up. -/
def seconds {α : Type} [Scalar α] (nanos : Nat) : α :=
  ofInt (nanos / 1000000000 : Nat) + ofInt (nanos % 1000000000 : Nat) / 1000000000

namespace ZoomPan

variable {α : Type} [Scalar α] [Decimals α]

def name : String := "zoom pan"

def ofInertia (id : OwnerId) (config : ZoomPanConfig α) (inertia : Inertia α) : ZoomPan α :=
  ⟨id, config, none, inertia, none⟩

/-- The controller, unless its inertia makes no sense. -/
def new (id : OwnerId) (config : ZoomPanConfig α) : Except ConfigFault (ZoomPan α) :=
  (Inertia.new config.inertia).map (ofInertia id config)

def isDragging (c : ZoomPan α) : Bool := c.session.isSome

def resetInertia (c : ZoomPan α) : ZoomPan α := { c with inertia := c.inertia.reset }

def target (c : ZoomPan α) (isMaster : Bool) : PanTarget :=
  ⟨c.config.direction, c.config.clipModeX, c.config.clipModeY, isMaster⟩

def endDrag (c : ZoomPan α) (p : Pane α) : ZoomPan α × Pane α :=
  match c.session with
  | some _ => ({ c with session := none }, p.release c.id)
  | none => (c, p)

def attached (c : ZoomPan α) (p : Pane α) : ZoomPan α × Pane α :=
  let (subscription, p) := p.startWatch c.id c.subscription
  ({ c with subscription }, p)

def detached (c : ZoomPan α) (p : Pane α) : ZoomPan α × Pane α :=
  let (c', p) := c.resetInertia.endDrag p
  ({ c' with subscription := none }, p.stopWatch c.subscription)

def mouseDown (c : ZoomPan α) (args : MouseArgs α) (p : Pane α) : Reaction α (ZoomPan α) :=
  if c.session.isSome || !c.config.executeOn.accepts args.buttons
      || args.isMaster && !p.viewport.contains args.point then .ignore c p
  else
    match p.capture c.id with
    | none => .ignore c p
    | some p =>
      let (_, p) := p.takeExternal c.id
      let target := c.target args.isMaster
      let session := ⟨target, args.point, args.point, args.time, .zero, target.categoryStarts p⟩
      ⟨{ c.resetInertia with session := some session }, p, true⟩

/-- The session from where the axes are now, when somebody else changed them. -/
def rebase (s : PanSession α) (external : Bool) (p : Pane α) : PanSession α :=
  if external then { s with categoryStarts := s.target.categoryStarts p, startPoint := s.lastPoint } else s

/-- The velocity of the motion from the last point; without time passing, as it was. -/
def velocityAt (config : ZoomPanConfig α) (s : PanSession α) (args : MouseArgs α) : Point α :=
  let elapsed := args.time - s.lastTime
  if elapsed = 0 then s.velocity
  else (args.point - s.lastPoint).scale (seconds config.inertia.tickNanos / seconds elapsed)

def mouseMove (c : ZoomPan α) (args : MouseArgs α) (p : Pane α) : Reaction α (ZoomPan α) :=
  match c.session with
  | none => .ignore c p
  | some s =>
    let (external, p) := p.takeExternal c.id
    let s := rebase s external p
    let p := p.asOwnWrites c.id fun p =>
      let p := s.target.pan (args.point - s.lastPoint) (args.point - s.startPoint) s.categoryStarts p
      if c.config.zoomExtentsY && s.target.panY then p.zoomFamilyToExtents .y 0 else p
    let s' :=
      { s with velocity := velocityAt c.config s args, lastPoint := args.point, lastTime := args.time }
    ⟨{ c with session := some s' }, p, true⟩

def mouseUp (c : ZoomPan α) (args : MouseArgs α) (p : Pane α) : Reaction α (ZoomPan α) :=
  match c.session with
  | none => .ignore c p
  | some s =>
    let (c, p) := c.endDrag p
    let idle := args.time - s.lastTime
    if !c.config.useInertia || c.config.inertia.releaseNanos < idle then ⟨c, p, true⟩
    else
      let inertia :=
        c.inertia.start args.time s.velocity (s.lastPoint - s.startPoint) s.categoryStarts s.target
      ⟨{ c with inertia }, p, true⟩

def tick (c : ZoomPan α) (now : Nat) (p : Pane α) : ZoomPan α × Pane α :=
  if !c.inertia.isActive then (c, p)
  else
    let (external, p) := p.takeExternal c.id
    if external then (c.resetInertia, p)
    else
      let p := { p with notifier := p.notifier.beginOwnWrites c.id }
      let (inertia, p) := c.inertia.tick now p
      ({ c with inertia }, { p with notifier := p.notifier.endOwnWrites c.id })

end ZoomPan

end ChartGestures
