import ChartGestures.Axis.ChartAxis
import ChartGestures.Geometry.Coordinates
import ChartGestures.Pane.Notifier

/-!
# Panes

A pane is a plotting area with its axes, the notifier they publish to, the overlays that controllers show, and the
controller that holds the pointer. An axis without bounds of its own gets a strip along the viewport, below it for a
horizontal axis and to the right for a vertical one. The axes of a polar pane are laid out in coordinates instead: a
whole turn for the angle, the radius of the plotting area for the rest.
-/

namespace ChartGestures

inductive AxisFamily where
  | x
  | y
  deriving BEq, DecidableEq

/-- The axis families a gesture acts on. -/
inductive XyDirection where
  | x
  | y
  | xy
  deriving BEq, DecidableEq

def XyDirection.includesX (d : XyDirection) : Bool := d != .y

def XyDirection.includesY (d : XyDirection) : Bool := d != .x

/-- Publishes what the axis shows after a write that changed it. -/
def AxisWrite.publish {α : Type} [Scalar α] [Decimals α] (w : AxisWrite α) (n : Notifier α) : Notifier α :=
  if w.changed then n.notify ⟨w.axis.id, w.axis.visibleRange⟩ else n

/-- Whoever may hold the pointer or show an overlay. -/
abbrev OwnerId := Nat

structure Pane (α : Type) [Scalar α] [Decimals α] where
  viewport : Rect α
  system : CoordinateSystem
  xAxes : List (ChartAxis α)
  yAxes : List (ChartAxis α)
  notifier : Notifier α
  overlays : List (OwnerId × OverlayShape α)
  capturedBy : Option OwnerId

namespace Pane

variable {α : Type} [Scalar α] [Decimals α]

def new (viewport : Rect α) (system : CoordinateSystem) : Pane α where
  viewport := viewport
  system := system
  xAxes := []
  yAxes := []
  notifier := .empty
  overlays := []
  capturedBy := none

def coordinates (p : Pane α) : Coordinates α := ⟨p.system, p.viewport⟩

/-! ### Axes -/

/-- The thickness of the strip of an x axis and of a y axis. -/
def xStrip : α := 24

def yStrip : α := 48

def defaultBounds (p : Pane α) (family : AxisFamily) (a : ChartAxis α) : Rect α :=
  let v := p.viewport
  match p.system, family with
  | .polar, .x => ⟨0, 0, 360, Coordinates.maxRadius v⟩
  | .polar, .y => ⟨0, 0, Coordinates.maxRadius v, Coordinates.maxRadius v⟩
  | .cartesian, _ => if a.horizontal then ⟨v.x, v.bottom, v.width, xStrip⟩ else ⟨v.right, v.y, yStrip, v.height⟩

def addAxis (p : Pane α) (family : AxisFamily) (a : ChartAxis α) : Pane α :=
  let a := if a.bounds.isEmpty then { a with bounds := p.defaultBounds family a } else a
  match family with
  | .x => { p with xAxes := p.xAxes ++ [a] }
  | .y => { p with yAxes := p.yAxes ++ [a] }

def axes (p : Pane α) : List (ChartAxis α) := p.xAxes ++ p.yAxes

/-- The first axis of the name, the x axes coming first. -/
def axis? (p : Pane α) (id : String) : Option (ChartAxis α) := p.axes.find? (·.id == id)

def axisIds (p : Pane α) : AxisFamily → List String
  | .x => p.xAxes.map (·.id)
  | .y => p.yAxes.map (·.id)

/-- The axes of the families in `direction`; y axes only with `withY`. -/
def axisIdsIn (p : Pane α) (direction : XyDirection) (withY : Bool) : List String :=
  (if direction.includesX then p.axisIds .x else [])
    ++ if withY && direction.includesY then p.axisIds .y else []

/-- Replaces the first axis of the name. -/
def replaceAxis (id : String) (a : ChartAxis α) : List (ChartAxis α) → List (ChartAxis α)
  | [] => []
  | other :: rest => if other.id == id then a :: rest else other :: replaceAxis id a rest

/-- Writes to the first axis of the name, and publishes what it then shows if the write changed it. -/
def writeAxis (p : Pane α) (id : String) (write : ChartAxis α → AxisWrite α) : Pane α :=
  match p.axis? id with
  | none => p
  | some a =>
    let w := write a
    let p :=
      if p.xAxes.any (·.id == id) then { p with xAxes := replaceAxis id w.axis p.xAxes }
      else { p with yAxes := replaceAxis id w.axis p.yAxes }
    { p with notifier := w.publish p.notifier }

/-! ### Scopes -/

/-- Holds changes back while `f` runs. -/
def suspended (p : Pane α) (f : Pane α → Pane α) : Pane α :=
  let p := f { p with notifier := p.notifier.suspend }
  { p with notifier := p.notifier.resume }

/-- What `f` changes counts as written by `owner`. -/
def asOwnWrites (p : Pane α) (owner : OwnerId) (f : Pane α → Pane α) : Pane α :=
  let p := f { p with notifier := p.notifier.beginOwnWrites owner }
  { p with notifier := p.notifier.endOwnWrites owner }

def takeExternal (p : Pane α) (owner : OwnerId) : Bool × Pane α :=
  let (external, notifier) := p.notifier.takeExternal owner
  (external, { p with notifier })

/-! ### Extents -/

/-- Shows all data on the axes of one family. -/
def zoomFamilyToExtents (p : Pane α) (family : AxisFamily) (nanos : Nat) : Pane α :=
  p.suspended fun p => (p.axisIds family).foldl (fun p id => p.writeAxis id (·.zoomToExtents nanos)) p

def zoomToExtents (p : Pane α) (direction : XyDirection) (nanos : Nat) : Pane α :=
  match direction with
  | .x => p.zoomFamilyToExtents .x nanos
  | .y => p.zoomFamilyToExtents .y nanos
  | .xy => p.suspended fun p => (p.zoomFamilyToExtents .x nanos).zoomFamilyToExtents .y nanos

/-! ### Pointer and overlays -/

/-- The pointer goes to `owner` unless somebody else holds it. -/
def capture (p : Pane α) (owner : OwnerId) : Option (Pane α) :=
  if p.capturedBy.all (· == owner) then some { p with capturedBy := some owner } else none

def release (p : Pane α) (owner : OwnerId) : Pane α :=
  if p.capturedBy = some owner then { p with capturedBy := none } else p

def overlay? (p : Pane α) (owner : OwnerId) : Option (OverlayShape α) := p.overlays.lookup owner

def removeOverlay (p : Pane α) (owner : OwnerId) : Pane α :=
  { p with overlays := p.overlays.filter fun entry => entry.1 ≠ owner }

/-- Shows an overlay in place of the one the owner showed before. -/
def showOverlay (p : Pane α) (owner : OwnerId) (shape : OverlayShape α) : Pane α :=
  { p with overlays := (p.removeOverlay owner).overlays ++ [(owner, shape)] }

end Pane

end ChartGestures
