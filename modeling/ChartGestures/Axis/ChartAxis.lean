import ChartGestures.Axis.Margin
import ChartGestures.Axis.PixelScale
import ChartGestures.Geometry.Rect
import ChartGestures.Range.Clip

/-!
# Axes

An axis shows a range of values along a strip of pixels. What is written to its visible range is brought into its own
kind; on an axis that always follows its data, it is kept as the margin that leads to it. A write says whether the
change is to be published, which it is unless the axis already showed that very range.
-/

namespace ChartGestures

open Scalar

structure ChartAxis (α : Type) [Scalar α] [Decimals α] where
  id : String
  horizontal : Bool
  flip : Bool
  category : Bool
  visible : Range α
  data : Range α
  autoRange : AutoRange
  margin : GrowMargin α
  bounds : Rect α
  /-- The target and the nanoseconds of the latest animated write. -/
  lastAnimation : Option (Range α × Nat)

/-- An axis after a write, and whether the write changed what it shows. -/
structure AxisWrite (α : Type) [Scalar α] [Decimals α] where
  axis : ChartAxis α
  changed : Bool

namespace ChartAxis

variable {α : Type} [Scalar α] [Decimals α]

/-- An axis that shows `visible`, which is also the range of its data. -/
def new (id : String) (horizontal : Bool) (visible : Range α) : ChartAxis α where
  id := id
  horizontal := horizontal
  flip := false
  category := false
  visible := visible
  data := visible
  autoRange := .never
  margin := .zero
  bounds := .zero
  lastAnimation := none

def withData (a : ChartAxis α) (data : Range α) : ChartAxis α := { a with data := data.convert a.visible.kind }

/-- The range shown. -/
def visibleRange (a : ChartAxis α) : Range α :=
  if a.autoRange = .always then a.data.growBy a.margin.min a.margin.max else a.visible

/-! ### Pixels -/

/-- Horizontal axes grow to the right and vertical ones upward. -/
def isIncreasing (a : ChartAxis α) : Bool := a.horizontal != a.flip

def pixelExtent (a : ChartAxis α) : α := if a.horizontal then a.bounds.width else a.bounds.height

/-- How far along the axis a point lies from its least pixel. -/
def pixelOffset (a : ChartAxis α) (p : Point α) : α := if a.horizontal then p.x - a.bounds.x else p.y - a.bounds.y

/-- The component of a displacement along the axis. -/
def pixelComponent (a : ChartAxis α) (p : Point α) : α := if a.horizontal then p.x else p.y

def scale (a : ChartAxis α) : PixelScale α := ⟨a.pixelExtent, a.isIncreasing⟩

/-! ### Writes -/

def unchanged (a : ChartAxis α) : AxisWrite α := ⟨a, false⟩

def setData (a : ChartAxis α) (data : Range α) : AxisWrite α := ⟨a.withData data, a.autoRange == .always⟩

def setMargin (a : ChartAxis α) (margin : GrowMargin α) : AxisWrite α :=
  ⟨{ a with margin }, a.autoRange == .always⟩

/-- On an axis that follows data of no width the write is lost. -/
def setVisible (a : ChartAxis α) (r : Range α) : AxisWrite α :=
  let r := r.convert a.visible.kind
  if a.autoRange = .always then
    match a.margin.toShow? a.visibleRange r with
    | some margin => ⟨{ a with margin }, true⟩
    | none => a.unchanged
  else if r == a.visible then a.unchanged
  else ⟨{ a with visible := r }, true⟩

/-- Writes the range a gesture leads to; on an axis that follows its data, through the margin alone. -/
def applyRange (a : ChartAxis α) (r : Range α) : AxisWrite α :=
  if a.autoRange = .always then
    match a.margin.toShow? a.visibleRange r with
    | some margin => a.setMargin margin
    | none => a.unchanged
  else a.setVisible r

/-- Takes effect at once; the target of an animation is kept for whoever draws it. -/
def animateTo (a : ChartAxis α) (r : Range α) (nanos : Nat) : AxisWrite α :=
  setVisible (if nanos = 0 then a else { a with lastAnimation := some (r, nanos) }) r

/-- Pans from `base`, held against the data. -/
def panFrom (a : ChartAxis α) (base : Range α) (pixels : α) (mode : ClipMode) : AxisWrite α :=
  a.applyRange ((a.scale.scroll base pixels).clipPanned a.data mode)

/-- Pans what the axis shows. -/
def scroll (a : ChartAxis α) (pixels : α) (mode : ClipMode) : AxisWrite α := a.panFrom a.visibleRange pixels mode

/-- Grows what the axis shows by fractions of its span. -/
def zoomBy (a : ChartAxis α) (minFraction maxFraction : α) : AxisWrite α :=
  a.applyRange (a.visibleRange.growBy minFraction maxFraction)

/-- Shows all of the data, if its range is defined. -/
def zoomToExtents (a : ChartAxis α) (nanos : Nat) : AxisWrite α :=
  if a.data.isDefined then a.animateTo a.data nanos else a.unchanged

end ChartAxis

end ChartGestures
