import ChartGestures.Gesture.Reaction

/-!
# Rubber bands

Dragging a rectangle, or a sector of a ring on a polar surface, zooms into it. The ends of the gesture are kept as
coordinates, and the moving end is followed step by step, so that a polar band across zero degrees stays in one piece.
-/

namespace ChartGestures

structure BandSession (α : Type) where
  coordinates : Coordinates α
  first : Point α
  last : Point α

structure RubberBand (α : Type) where
  id : OwnerId
  config : RubberBandConfig α
  session : Option (BandSession α)

variable {α : Type} [Scalar α] [Decimals α] [Trigonometry α]

namespace BandSession

def begin (coordinates : Coordinates α) (point : Point α) : BandSession α :=
  let first := coordinates.clippedCoordinate point
  ⟨coordinates, first, first⟩

def follow (s : BandSession α) (point : Point α) : BandSession α :=
  { s with last := s.coordinates.follow s.last (s.coordinates.clippedCoordinate point) }

/-- The part of what an axis shows that the band covers. Coordinates grow with the values of the axis, whatever its
orientation on the screen. -/
def covered (s : BandSession α) (family : AxisFamily) (a : ChartAxis α) : Range α :=
  match s.coordinates.system, family with
  | .cartesian, _ => a.scale.zoom a.visibleRange (a.pixelOffset s.first) (a.pixelOffset s.last)
  | .polar, .x => (PixelScale.mk s.coordinates.extent.x true).zoom a.visibleRange s.first.x s.last.x
  | .polar, .y => (PixelScale.mk s.coordinates.extent.y true).zoom a.visibleRange s.first.y s.last.y

end BandSession

namespace RubberBand

def name : String := "rubber band"

def new {α : Type} (id : OwnerId) (config : RubberBandConfig α) : RubberBand α := ⟨id, config, none⟩

def isDragging {α : Type} (c : RubberBand α) : Bool := c.session.isSome

/-- Gives up the band, with its overlay and the pointer. -/
def cancel {α : Type} [Scalar α] [Decimals α] (c : RubberBand α) (p : Pane α) : RubberBand α × Pane α :=
  match c.session with
  | some _ => ({ c with session := none }, (p.removeOverlay c.id).release c.id)
  | none => (c, p)

/-- Zooms the axes of a family into the band. -/
def zoomFamily (config : RubberBandConfig α) (s : BandSession α) (family : AxisFamily) (p : Pane α) : Pane α :=
  (p.axisIds family).foldl
    (fun p id => p.writeAxis id fun a => a.animateTo (s.covered family a) config.animation) p

/-- Zooms every axis into the band. -/
def zoom (config : RubberBandConfig α) (s : BandSession α) (p : Pane α) : Pane α :=
  p.suspended fun p =>
    let p := zoomFamily config s .x p
    let p := if config.isXAxisOnly then p else zoomFamily config s .y p
    if config.isXAxisOnly && config.zoomExtentsY then p.zoomFamilyToExtents .y config.animation else p

def mouseDown (c : RubberBand α) (args : MouseArgs α) (p : Pane α) : Reaction α (RubberBand α) :=
  if !args.isMaster || c.session.isSome || !c.config.executeOn.accepts args.buttons
      || !p.viewport.contains args.point then .ignore c p
  else
    match p.capture c.id with
    | none => .ignore c p
    | some p =>
      ⟨{ c with session := some (.begin p.coordinates args.point) },
        p.showOverlay c.id (p.coordinates.pressOverlay args.point), true⟩

def mouseMove (c : RubberBand α) (args : MouseArgs α) (p : Pane α) : Reaction α (RubberBand α) :=
  match c.session with
  | none => .ignore c p
  | some s =>
    let s := s.follow args.point
    ⟨{ c with session := some s },
      p.showOverlay c.id (s.coordinates.overlayBetween s.first s.last c.config.isXAxisOnly), true⟩

def mouseUp (c : RubberBand α) (args : MouseArgs α) (p : Pane α) : Reaction α (RubberBand α) :=
  match c.session with
  | none => .ignore c p
  | some s =>
    let s := s.follow args.point
    let p := (p.removeOverlay c.id).release c.id
    let tooShort := s.coordinates.distance s.first s.last < c.config.minDragSensitivity
    ⟨{ c with session := none }, if tooShort then p else zoom c.config s p, true⟩

end RubberBand

end ChartGestures
