import ChartGestures.Number.ExactDecimal
import ChartGestures.Proofs.Geometry.Angles
import ChartGestures.Proofs.Gesture.OthersCalls

/-!
# Rubber bands from the press to the end

What a rubber band is at any moment of a drag is decided by the pane it was pressed on, the point of the press and the
points it was led over since. Until its end it takes the pointer and one overlay of the pane and nothing else, so that an
end that gives the band up leaves a pane that is as it was before the press, whatever it does to get there.
-/

namespace ChartGestures

variable {α : Type} [Scalar α] [Decimals α]

namespace Pane

/-- Only the pointer and the overlays may differ. -/
def SameChart (p q : Pane α) : Prop := q = { p with overlays := q.overlays, capturedBy := q.capturedBy }

theorem SameChart.trans {p q r : Pane α} (h : p.SameChart q) (h' : q.SameChart r) : p.SameChart r := by
  rw [SameChart, h', h]

/-- What is read off neither the pointer nor the overlays is the same. -/
theorem SameChart.view {β : Type} (view : Pane α → β)
    (hview : ∀ (p : Pane α) overlays owner, view { p with overlays, capturedBy := owner } = view p) {p q : Pane α}
    (h : p.SameChart q) : view q = view p := by
  rw [h, hview]

theorem sameChart_capture {p q : Pane α} {owner : OwnerId} (h : p.capture owner = some q) : p.SameChart q := by
  obtain ⟨-, rfl⟩ := capture_eq_some h
  rfl

theorem sameChart_release (p : Pane α) (owner : OwnerId) : p.SameChart (p.release owner) := by
  unfold release
  split <;> rfl

theorem sameChart_showOverlay (p : Pane α) (owner : OwnerId) (shape : OverlayShape α) :
    p.SameChart (p.showOverlay owner shape) := rfl

theorem sameChart_removeOverlay (p : Pane α) (owner : OwnerId) : p.SameChart (p.removeOverlay owner) := rfl

theorem sameChart_freed (p : Pane α) (owner : OwnerId) : p.SameChart ((p.removeOverlay owner).release owner) :=
  (p.sameChart_removeOverlay owner).trans (sameChart_release ..)

end Pane

variable [Trigonometry α]

namespace BandSession

/-- Follows the pointer from point to point. -/
def along (s : BandSession α) (points : List (Point α)) : BandSession α := points.foldl follow s

/-- The session of a band that was pressed at `start` and led over `points`. -/
def led (p : Pane α) (start : Point α) (points : List (Point α)) : BandSession α :=
  (begin p.coordinates start).along points

theorem led_concat (p : Pane α) (start point : Point α) (points : List (Point α)) :
    led p start (points ++ [point]) = (led p start points).follow point := by
  simp only [led, along, List.foldl_append, List.foldl_cons, List.foldl_nil]

omit [Decimals α] in
/-- Only the moving end moves. -/
theorem along_fixed (s : BandSession α) (points : List (Point α)) :
    (s.along points).coordinates = s.coordinates ∧ (s.along points).first = s.first := by
  induction points generalizing s with
  | nil => exact ⟨rfl, rfl⟩
  | cons point rest ih => exact ih (s.follow point)

@[simp] theorem coordinates_led (p : Pane α) (start : Point α) (points : List (Point α)) :
    (led p start points).coordinates = p.coordinates := (along_fixed _ points).1

@[simp] theorem first_led (p : Pane α) (start : Point α) (points : List (Point α)) :
    (led p start points).first = p.coordinates.clippedCoordinate start := (along_fixed _ points).2

end BandSession

namespace RubberBand

theorem mouseDown_starts {c : RubberBand α} {args : MouseArgs α} {p : Pane α} (hidle : c.session = none)
    (hstarts : (c.mouseDown args p).controller.isDragging = true) :
    p.viewport.contains args.point = true ∧
      (c.mouseDown args p).controller = { c with session := some (.begin p.coordinates args.point) } ∧
      ∃ q, p.capture c.id = some q ∧
        (c.mouseDown args p).pane = q.showOverlay c.id (p.coordinates.pressOverlay args.point) := by
  have hnone : c.isDragging = false := by rw [isDragging, hidle]; rfl
  unfold mouseDown at hstarts ⊢
  split
  · next hrefused =>
    rw [if_pos hrefused] at hstarts
    exact absurd (hstarts.symm.trans hnone) (by decide)
  · next hready =>
    rw [if_neg hready] at hstarts
    split
    · next hheld =>
      rw [hheld] at hstarts
      exact absurd (hstarts.symm.trans hnone) (by decide)
    · next q hcapture =>
      simp only [Bool.or_eq_true, Bool.not_eq_true', not_or, Bool.not_eq_false] at hready
      have hsurface := (Pane.sameChart_capture hcapture).view Pane.coordinates fun _ _ _ => rfl
      rw [hsurface]
      exact ⟨hready.2, rfl, q, hcapture, rfl⟩

theorem mouseMove_of_session {c : RubberBand α} {s : BandSession α} (hs : c.session = some s) (args : MouseArgs α)
    (p : Pane α) :
    c.mouseMove args p = ⟨{ c with session := some (s.follow args.point) },
      p.showOverlay c.id (s.coordinates.overlayBetween s.first (s.follow args.point).last c.config.isXAxisOnly), true⟩ := by
  rw [mouseMove, hs]
  rfl

/-- The band `c` was pressed on the pane `p` and led over points since, and others have acted on the pane in between.
Then come the points, the band as it now is, and the pane. -/
inductive Dragged (others : Pane α → Pane α → Prop) (c : RubberBand α) (p : Pane α) (press : MouseArgs α) :
    List (Point α) → RubberBand α → Pane α → Prop where
  | pressed (hidle : c.session = none) (hstarts : (c.mouseDown press p).controller.isDragging = true) :
      Dragged others c p press [] (c.mouseDown press p).controller (c.mouseDown press p).pane
  | moved {points : List (Point α)} {c' : RubberBand α} {p' : Pane α} (args : MouseArgs α)
      (hbefore : Dragged others c p press points c' p') :
      Dragged others c p press (points ++ [args.point]) (c'.mouseMove args p').controller (c'.mouseMove args p').pane
  | interrupted {points : List (Point α)} {c' : RubberBand α} {p' q : Pane α}
      (hbefore : Dragged others c p press points c' p') (hacted : others p' q) : Dragged others c p press points c' q

namespace Dragged

variable {others : Pane α → Pane α → Prop} {c c' : RubberBand α} {p p' : Pane α} {press : MouseArgs α}
  {points : List (Point α)}

theorem start (h : Dragged others c p press points c' p') :
    c.session = none ∧ (c.mouseDown press p).controller.isDragging = true := by
  induction h with
  | pressed hidle hstarts => exact ⟨hidle, hstarts⟩
  | moved _ _ ih => exact ih
  | interrupted _ _ ih => exact ih

theorem press_mem (h : Dragged others c p press points c' p') : p.viewport.contains press.point = true :=
  (mouseDown_starts h.start.1 h.start.2).1

/-- Nothing but the press and the points decides what the band is. -/
theorem controller_eq (h : Dragged others c p press points c' p') :
    c' = { c with session := some (.led p press.point points) } := by
  induction h with
  | pressed hidle hstarts => exact (mouseDown_starts hidle hstarts).2.1
  | moved args _ ih =>
    rw [mouseMove_of_session (congrArg session ih), BandSession.led_concat, ih]
  | interrupted _ _ ih => exact ih

theorem session_eq (h : Dragged others c p press points c' p') : c'.session = some (.led p press.point points) :=
  congrArg session h.controller_eq

theorem id_eq (h : Dragged others c p press points c' p') : c'.id = c.id := by
  rw [h.controller_eq]

theorem config_eq (h : Dragged others c p press points c' p') : c'.config = c.config := by
  rw [h.controller_eq]

/-- What the pointer and the overlays do not matter to survives the drag, if it survives what others do. -/
theorem preserves {P : Pane α → Prop} (hchart : ∀ q r : Pane α, q.SameChart r → P q → P r)
    (hothers : ∀ q r, others q r → P q → P r) (h : Dragged others c p press points c' p') (hp : P p) : P p' := by
  induction h with
  | pressed hidle hstarts =>
    obtain ⟨-, -, q, hcapture, hpane⟩ := mouseDown_starts hidle hstarts
    rw [hpane]
    exact hchart _ _ ((Pane.sameChart_capture hcapture).trans (q.sameChart_showOverlay ..)) hp
  | moved args hbefore ih =>
    rw [mouseMove_of_session hbefore.session_eq]
    exact hchart _ _ (Pane.sameChart_showOverlay ..) ih
  | interrupted _ hacted ih => exact hothers _ _ hacted ih

theorem keeps {β : Type} (view : Pane α → β)
    (hview : ∀ (p : Pane α) overlays owner, view { p with overlays, capturedBy := owner } = view p)
    (hothers : ∀ q r, others q r → view r = view q) (h : Dragged others c p press points c' p') : view p' = view p :=
  h.preserves (P := fun q => view q = view p) (fun _ _ hchart hq => (hchart.view view hview).trans hq)
    (fun q r hacted hq => (hothers q r hacted).trans hq) rfl

/-- All through the drag the band holds the pointer and shows one overlay, of its session as it then is. -/
theorem holds_and_draws (hothers : ∀ q r, others q r → r.heldBy c.id = q.heldBy c.id)
    (h : Dragged others c p press points c' p') :
    ∃ shape, c.Draws (.led p press.point points) shape ∧ p'.heldBy c.id = (true, [(c.id, shape)]) := by
  induction h with
  | pressed hidle hstarts =>
    obtain ⟨-, -, q, hcapture, hpane⟩ := mouseDown_starts hidle hstarts
    refine ⟨_, .inr ⟨press.point, rfl, rfl⟩, ?_⟩
    rw [hpane, Pane.heldBy_showOverlay, Pane.heldBy_capture hcapture]
    rfl
  | @moved points c' p' args hbefore ih =>
    obtain ⟨_, -, hheld⟩ := ih
    refine ⟨_, .inl rfl, ?_⟩
    rw [mouseMove_of_session hbefore.session_eq]
    dsimp only
    rw [hbefore.id_eq, Pane.heldBy_showOverlay, hheld, hbefore.controller_eq, BandSession.led_concat]
    rfl
  | interrupted _ hacted ih =>
    obtain ⟨shape, hdraws, hheld⟩ := ih
    exact ⟨shape, hdraws, (hothers _ _ hacted).trans hheld⟩

end Dragged

end RubberBand

/-! ### Ends that give the band up -/

/-- How a drag may come to its end. -/
inductive DragEnd (α : Type) where
  | lostCapture
  | detached
  | released (args : MouseArgs α)

namespace DragEnd

/-- The controller and its pane after the end. -/
def close (c : Controller α) (p : Pane α) : DragEnd α → Controller α × Pane α
  | lostCapture => c.lostCapture p
  | detached => c.detached p
  | released args => ((Controller.mouse .up c args p).controller, (Controller.mouse .up c args p).pane)

/-- A release gives a band up that was not drawn far enough. -/
def GivesUp (config : RubberBandConfig α) (s : BandSession α) : DragEnd α → Prop
  | lostCapture | detached => True
  | released args =>
    s.coordinates.distance s.first (s.follow args.point).last < config.minDragSensitivity

instance (config : RubberBandConfig α) (s : BandSession α) : DecidablePred (GivesUp config s)
  | lostCapture | detached => inferInstanceAs (Decidable True)
  | released _ => inferInstanceAs (Decidable (_ < _))

theorem close_of_givesUp {c : RubberBand α} {s : BandSession α} (hs : c.session = some s) {finish : DragEnd α}
    (h : finish.GivesUp c.config s) (p : Pane α) :
    finish.close (.rubberBand c) p = (.rubberBand { c with session := none }, (p.removeOverlay c.id).release c.id) := by
  have hcancel : c.cancel p = ({ c with session := none }, (p.removeOverlay c.id).release c.id) := by
    rw [RubberBand.cancel, hs]
  cases finish with
  | lostCapture => exact congrArg (Prod.map Controller.rubberBand fun p => p) hcancel
  | detached => exact congrArg (Prod.map Controller.rubberBand fun p => p) hcancel
  | released args =>
    have hup : c.mouseUp args p = ⟨{ c with session := none }, (p.removeOverlay c.id).release c.id, true⟩ := by
      rw [RubberBand.mouseUp, hs]
      exact congrArg (Reaction.mk _ · true) (if_pos h)
    exact congrArg (fun r => (Controller.rubberBand r.controller, r.pane)) hup

theorem close_of_not_givesUp {c : RubberBand α} {s : BandSession α} (hs : c.session = some s) {args : MouseArgs α}
    (h : ¬ (released args).GivesUp c.config s) (p : Pane α) :
    (released args).close (.rubberBand c) p = (.rubberBand { c with session := none },
      RubberBand.zoom c.config (s.follow args.point) ((p.removeOverlay c.id).release c.id)) := by
  have hup : c.mouseUp args p = ⟨{ c with session := none },
      RubberBand.zoom c.config (s.follow args.point) ((p.removeOverlay c.id).release c.id), true⟩ := by
    rw [RubberBand.mouseUp, hs]
    exact congrArg (Reaction.mk _ · true) (if_neg h)
  exact congrArg (fun r => (Controller.rubberBand r.controller, r.pane)) hup

end DragEnd

namespace RubberBand

variable {others : Pane α → Pane α → Prop} {c c' : RubberBand α} {p p' : Pane α} {press : MouseArgs α}
  {points : List (Point α)}

theorem Dragged.close_of_givesUp (hdrag : Dragged others c p press points c' p') {finish : DragEnd α}
    (h : finish.GivesUp c.config (.led p press.point points)) :
    finish.close (.rubberBand c') p' =
      (.rubberBand { c' with session := none }, (p'.removeOverlay c.id).release c.id) := by
  rw [DragEnd.close_of_givesUp hdrag.session_eq (hdrag.config_eq ▸ h), hdrag.id_eq]

/-- A release that does not give the band up zooms into the band that is led on to the release. -/
theorem Dragged.close_of_not_givesUp (hdrag : Dragged others c p press points c' p') {up : MouseArgs α}
    (h : ¬ (DragEnd.released up).GivesUp c.config (.led p press.point points)) :
    ((DragEnd.released up).close (.rubberBand c') p').2 =
      zoom c.config (.led p press.point (points ++ [up.point])) ((p'.removeOverlay c.id).release c.id) := by
  rw [DragEnd.close_of_not_givesUp hdrag.session_eq (hdrag.config_eq ▸ h), hdrag.config_eq, hdrag.id_eq,
    BandSession.led_concat]

/-- A band that is given up leaves every axis as it was before the press and hands no batch over, gives the pointer back
and takes its overlay away. Others may have done anything on the pane but write to its axes. -/
theorem Dragged.given_up_changes_nothing (hothers : ∀ q r, others q r → r.xAxes = q.xAxes ∧ r.yAxes = q.yAxes)
    (hdrag : Dragged others c p press points c' p') {finish : DragEnd α}
    (hgives : finish.GivesUp c.config (.led p press.point points)) :
    let (controller, pane) := finish.close (.rubberBand c') p'
    controller.inSession = false ∧ pane.xAxes = p.xAxes ∧ pane.yAxes = p.yAxes ∧
      pane.overlay? c.id = none ∧ pane.capturedBy ≠ some c.id ∧
      ((∀ q r, others q r → r.heldBy c.id = q.heldBy c.id) → pane.capturedBy = none) ∧
      ((∀ q r, others q r → r.notifier.deliveries = q.notifier.deliveries) →
        pane.notifier.deliveries = p.notifier.deliveries) := by
  have hfreed := p'.sameChart_freed c.id
  have hheld : ((p'.removeOverlay c.id).release c.id).heldBy c.id = (false, []) := by
    rw [Pane.heldBy_release, Pane.heldBy_removeOverlay]
  rw [hdrag.close_of_givesUp hgives]
  dsimp only
  refine ⟨rfl, ?_, ?_, ?_, ?_, fun hpointer => ?_, fun hquiet => ?_⟩
  · exact (hfreed.view Pane.xAxes fun _ _ _ => rfl).trans
      (hdrag.keeps Pane.xAxes (fun _ _ _ => rfl) fun q r hacted => (hothers q r hacted).1)
  · exact (hfreed.view Pane.yAxes fun _ _ _ => rfl).trans
      (hdrag.keeps Pane.yAxes (fun _ _ _ => rfl) fun q r hacted => (hothers q r hacted).2)
  · rw [Pane.overlay?_eq_heldBy, hheld]
    rfl
  · exact beq_eq_false_iff_ne.1 (congrArg Prod.fst hheld)
  · obtain ⟨_, -, hown⟩ := hdrag.holds_and_draws hpointer
    have hcaptured : p'.capturedBy = some c.id := beq_iff_eq.1 (congrArg Prod.fst hown)
    rw [Pane.capturedBy_release, Pane.capturedBy_removeOverlay, if_pos hcaptured]
  · exact (hfreed.view (·.notifier.deliveries) fun _ _ _ => rfl).trans
      (hdrag.keeps (·.notifier.deliveries) (fun _ _ _ => rfl) hquiet)

/-- Led across the pane and let go five pixels from the press, while somebody else shows an overlay. -/
theorem Dragged.given_up_changes_nothing_five_pixels :
    let _ : Trigonometry Rat := .alongAxes
    let p : Pane Rat := (Pane.new ⟨0, 0, 400, 300⟩ .cartesian).addAxis .x (.new "x" true (.double (.new 0 100)))
    let pressed := (RubberBand.new 0 .default).mouseDown (.new ⟨100, 50⟩ .onlyLeft 0) p
    let crowded := pressed.pane.showOverlay 7 (.rect .zero)
    let moved := pressed.controller.mouseMove (.new ⟨300, 250⟩ .onlyLeft 5) crowded
    let closed := (DragEnd.released (.new ⟨103, 54⟩ .onlyLeft 9)).close (.rubberBand moved.controller) moved.pane
    ((moved.pane.overlay? 0).isSome = true ∧ moved.pane.capturedBy = some 0) ∧
      closed.2.xAxes = p.xAxes ∧ closed.2.overlay? 0 = none ∧ closed.2.capturedBy = none ∧
      closed.2.notifier.deliveries = 0 ∧ (closed.2.overlay? 7).isSome = true := by
  intro _ p pressed crowded moved closed
  let others (q r : Pane Rat) : Prop := r = q.showOverlay 7 (.rect .zero)
  have hpressed : Dragged others (.new 0 .default) p (.new ⟨100, 50⟩ .onlyLeft 0) [] pressed.controller pressed.pane :=
    .pressed rfl (by decide +kernel)
  have hdrag : Dragged others _ p _ [⟨300, 250⟩] moved.controller moved.pane :=
    .moved (.new ⟨300, 250⟩ .onlyLeft 5) (.interrupted hpressed rfl)
  have hgives : (DragEnd.released (.new ⟨103, 54⟩ .onlyLeft 9)).GivesUp .default
      (.led p ⟨100, 50⟩ [⟨300, 250⟩]) := by
    decide +kernel
  have hspares (q r : Pane Rat) (h : others q r) : r.xAxes = q.xAxes ∧ r.yAxes = q.yAxes := by
    rw [show r = _ from h]
    exact ⟨rfl, rfl⟩
  obtain ⟨-, hx, -, hoverlay, -, hpointer, hdeliveries⟩ := hdrag.given_up_changes_nothing hspares hgives
  refine ⟨by decide +kernel, hx, hoverlay, hpointer fun q r h => ?_, hdeliveries fun q r h => ?_, by decide +kernel⟩
  · rw [show r = _ from h]
    exact q.heldBy_showOverlay_other _ (by decide)
  · rw [show r = _ from h]
    rfl

end RubberBand

end ChartGestures
