import ChartGestures.Gesture.Reaction

/-!
# Dragging an axis

A press inside an axis starts a drag that scales or pans it; the half of the axis that was hit decides which bound a
scale moves. Category axes take every move from the range and the point of the press, so that rounding never adds up.
When somebody else changes the axis meanwhile, the drag goes on from what it then shows.
-/

namespace ChartGestures

structure DragSession (α : Type) [Scalar α] [Decimals α] where
  axisId : String
  half : DragHalf
  startPoint : Point α
  lastPoint : Point α
  startRange : Range α

structure AxisDrag (α : Type) [Scalar α] [Decimals α] where
  id : OwnerId
  family : AxisFamily
  config : AxisDragConfig α
  session : Option (DragSession α)
  subscription : Option SubscriptionId

/-- The axis a drag acts on: the requested one if it belongs to the family; without a request, the first of it. -/
def Pane.draggedAxis? {α : Type} [Scalar α] [Decimals α] (p : Pane α) (family : AxisFamily)
    (requested : Option String) : Option String :=
  match requested with
  | some id => (p.axisIds family).find? (· == id)
  | none => (p.axisIds family).head?

namespace ChartAxis

variable {α : Type} [Scalar α] [Decimals α]

/-- The bounds of the axis, widened to a thickness that can be hit. -/
def hitBounds (a : ChartAxis α) (minThickness : α) : Rect α :=
  if a.horizontal then a.bounds.expandTo a.bounds.width minThickness
  else a.bounds.expandTo minThickness a.bounds.height

/-- The half of the axis that a point lies in. -/
def halfAt (a : ChartAxis α) (p : Point α) : DragHalf :=
  if a.pixelExtent ≤ 0 then .near
  else
    let fraction := a.pixelOffset p / a.pixelExtent
    .ofFraction (if a.isIncreasing then fraction else 1 - fraction)

end ChartAxis

namespace AxisDrag

variable {α : Type} [Scalar α] [Decimals α]

def new (id : OwnerId) (family : AxisFamily) (config : AxisDragConfig α) : AxisDrag α :=
  ⟨id, family, config, none, none⟩

def name (c : AxisDrag α) : String :=
  match c.family with
  | .x => "x-axis drag"
  | .y => "y-axis drag"

def isDragging (c : AxisDrag α) : Bool := c.session.isSome

def triggers (c : AxisDrag α) (args : MouseArgs α) : Bool :=
  match args.source with
  | .touch => c.config.acceptTouch
  | .mouse => c.config.executeOn.accepts args.buttons

/-- Writes what the drag to `point` makes of the axis. -/
def drag (config : AxisDragConfig α) (s : DragSession α) (point : Point α) (a : ChartAxis α) : AxisWrite α :=
  let (base, pixels) :=
    if a.category then (s.startRange, a.pixelComponent (point - s.startPoint))
    else (a.visibleRange, a.pixelComponent (point - s.lastPoint))
  match config.dragMode with
  | .pan => a.panFrom base pixels config.clipMode
  | .scale =>
    let candidate := a.scale.scrollHalf base pixels s.half
    if a.autoRange = .always then a.applyRange candidate
    else
      a.setVisible (candidate.clipScaled a.data config.clipMode s.half fun other =>
        some (a.scale.scrollHalf base pixels other))

def endDrag (c : AxisDrag α) (p : Pane α) : Reaction α (AxisDrag α) :=
  match c.session with
  | some _ => ⟨{ c with session := none }, p.release c.id, true⟩
  | none => .ignore c p

def attached (c : AxisDrag α) (p : Pane α) : AxisDrag α × Pane α :=
  let (subscription, p) := p.startWatch c.id c.subscription
  ({ c with subscription }, p)

def detached (c : AxisDrag α) (p : Pane α) : AxisDrag α × Pane α :=
  let r := c.endDrag p
  ({ r.controller with subscription := none }, r.pane.stopWatch c.subscription)

def mouseDown (c : AxisDrag α) (args : MouseArgs α) (p : Pane α) : Reaction α (AxisDrag α) :=
  if !args.isMaster || c.session.isSome || !c.triggers args then .ignore c p
  else
    match (p.draggedAxis? c.family c.config.axisId).bind p.axis? with
    | none => .ignore c p
    | some a =>
      if !(a.hitBounds c.config.minTouchArea).contains args.point then .ignore c p
      else
        match p.capture c.id with
        | none => .ignore c p
        | some p =>
          let session := ⟨a.id, a.halfAt args.point, args.point, args.point, a.visibleRange⟩
          ⟨{ c with session := some session }, (p.takeExternal c.id).2, true⟩

/-- The session from where the axis is now, when somebody else changed it. -/
def rebase (s : DragSession α) (external : Bool) (p : Pane α) : DragSession α :=
  match p.axis? s.axisId with
  | some a => if external then { s with startRange := a.visibleRange, startPoint := s.lastPoint } else s
  | none => s

def mouseMove (c : AxisDrag α) (args : MouseArgs α) (p : Pane α) : Reaction α (AxisDrag α) :=
  match c.session with
  | none => .ignore c p
  | some s =>
    let (external, p) := p.takeExternal c.id
    let s := rebase s external p
    let s' := if (p.axis? s.axisId).isSome then { s with lastPoint := args.point } else s
    let p := p.asOwnWrites c.id (·.suspended (·.writeAxis s.axisId (drag c.config s args.point)))
    ⟨{ c with session := some s' }, p, true⟩

end AxisDrag

end ChartGestures
