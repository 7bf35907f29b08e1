import ChartGestures.Proofs.Pane.Holds

/-!
# Drag sessions and what they hold

Of a pane an owner can hold the pointer and overlays. A controller in a drag session holds the pointer, a rubber band
in session its one overlay besides, and a controller out of session holds nothing: it is then `Coherent` with the pane.
Every callback of every controller is a `Step`: a coherent controller stays coherent, and what others hold does not
change. A group that hands a pane from controller to controller makes a chain of such steps, so what holds of a step
holds of a dispatch.
-/

namespace ChartGestures

variable {α : Type} [Scalar α] [Decimals α]

namespace Pane

/-- Whether an owner holds the pointer, and the overlays it shows. -/
def heldBy (p : Pane α) (id : OwnerId) : Bool × List (OwnerId × OverlayShape α) :=
  (p.capturedBy == some id, p.overlays.filter fun entry => entry.1 == id)

theorem heldBy_of_holds {p q : Pane α} (h : q.holds = p.holds) (id : OwnerId) : q.heldBy id = p.heldBy id := by
  obtain ⟨hcapture, hoverlays⟩ := holds_inj h
  simp only [heldBy, hcapture, hoverlays]

theorem overlay?_eq_heldBy (p : Pane α) (id : OwnerId) : p.overlay? id = (p.heldBy id).2.head?.map Prod.snd := by
  rw [overlay?, heldBy, List.head?_filter]
  induction p.overlays with
  | nil => rfl
  | cons entry rest ih =>
    rw [List.lookup_cons, List.find?_cons, BEq.comm]
    split <;> simp_all

theorem heldBy_capture {p q : Pane α} {owner : OwnerId} (h : p.capture owner = some q) :
    q.heldBy owner = (true, (p.heldBy owner).2) := by
  obtain ⟨-, rfl⟩ := capture_eq_some h
  simp only [heldBy, BEq.rfl]

theorem heldBy_capture_other {p q : Pane α} {owner id : OwnerId} (h : p.capture owner = some q) (hid : id ≠ owner) :
    q.heldBy id = p.heldBy id := by
  obtain ⟨hfree, rfl⟩ := capture_eq_some h
  rcases hfree with hnone | hsome
  · simp [heldBy, hnone, Ne.symm hid]
  · simp [heldBy, hsome]

theorem heldBy_release (p : Pane α) (owner : OwnerId) : (p.release owner).heldBy owner = (false, (p.heldBy owner).2) := by
  simp only [heldBy, overlays_release, capturedBy_release]
  split
  · rfl
  · next hother => simp [hother]

theorem heldBy_release_other (p : Pane α) {owner id : OwnerId} (hid : id ≠ owner) :
    (p.release owner).heldBy id = p.heldBy id := by
  simp only [heldBy, overlays_release, capturedBy_release]
  split
  · next hheld => simp [hheld, Ne.symm hid]
  · rfl

theorem heldBy_removeOverlay (p : Pane α) (owner : OwnerId) :
    (p.removeOverlay owner).heldBy owner = ((p.heldBy owner).1, []) := by
  simp [heldBy, removeOverlay]

theorem heldBy_removeOverlay_other (p : Pane α) {owner id : OwnerId} (hid : id ≠ owner) :
    (p.removeOverlay owner).heldBy id = p.heldBy id := by
  simp only [heldBy, removeOverlay, List.filter_filter, Prod.mk.injEq, true_and]
  refine List.filter_congr fun entry _ => ?_
  by_cases hentry : entry.1 = id
  · simp [hentry, hid]
  · simp [hentry]

theorem heldBy_showOverlay (p : Pane α) (owner : OwnerId) (shape : OverlayShape α) :
    (p.showOverlay owner shape).heldBy owner = ((p.heldBy owner).1, [(owner, shape)]) := by
  have hremoved := congrArg Prod.snd (p.heldBy_removeOverlay owner)
  simp only [heldBy] at hremoved
  simp [heldBy, showOverlay, hremoved]

theorem heldBy_showOverlay_other (p : Pane α) {owner id : OwnerId} (shape : OverlayShape α) (hid : id ≠ owner) :
    (p.showOverlay owner shape).heldBy id = p.heldBy id := by
  rw [← p.heldBy_removeOverlay_other hid]
  simp [heldBy, showOverlay, Ne.symm hid]

end Pane

/-! ### Ends of sessions -/

theorem AxisDrag.endDrag_session (c : AxisDrag α) (p : Pane α) : (c.endDrag p).controller.session = none := by
  unfold endDrag
  split
  · rfl
  · next hsession => exact hsession

theorem ZoomPan.endDrag_session (c : ZoomPan α) (p : Pane α) : (c.endDrag p).1.session = none := by
  unfold endDrag
  split
  · rfl
  · next hsession => exact hsession

theorem RubberBand.cancel_session (c : RubberBand α) (p : Pane α) : (c.cancel p).1.session = none := by
  unfold cancel
  split
  · rfl
  · next hsession => exact hsession

namespace Controller

def inSession : Controller α → Bool
  | axisDrag c => c.isDragging
  | rubberBand c => c.isDragging
  | zoomPan c => c.isDragging
  | wheelZoom _ | pinchZoom _ | zoomExtents _ => false

theorem lostCapture_inSession (c : Controller α) (p : Pane α) : (c.lostCapture p).1.inSession = false := by
  cases c with
  | axisDrag c => exact congrArg Option.isSome (c.endDrag_session p)
  | rubberBand c => exact congrArg Option.isSome (c.cancel_session p)
  | zoomPan c => exact congrArg Option.isSome (c.endDrag_session p)
  | _ => rfl

theorem detached_inSession (c : Controller α) (p : Pane α) : (c.detached p).1.inSession = false := by
  cases c with
  | axisDrag c => exact congrArg Option.isSome (c.endDrag_session p)
  | rubberBand c => exact congrArg Option.isSome (c.cancel_session p)
  | zoomPan c => exact congrArg Option.isSome (c.resetInertia.endDrag_session p)
  | _ => rfl

end Controller

variable [Trigonometry α]

theorem PinchZoom.id_flush (c : PinchZoom α) (p : Pane α) : (c.flush p).1.id = c.id := by
  unfold flush
  dsimp only
  split <;> rfl

/-- The overlay of a session: the one of its press, and once the pointer moved the one between its two ends. -/
def RubberBand.Draws (c : RubberBand α) (s : BandSession α) (shape : OverlayShape α) : Prop :=
  shape = s.coordinates.overlayBetween s.first s.last c.config.isXAxisOnly ∨
    ∃ point, s = .begin s.coordinates point ∧ shape = s.coordinates.pressOverlay point

namespace Controller

/-- The overlays a controller shows in its present state. -/
def Shows (c : Controller α) (overlays : List (OwnerId × OverlayShape α)) : Prop :=
  match c with
  | rubberBand c =>
    match c.session with
    | some s => ∃ shape, c.Draws s shape ∧ overlays = [(c.id, shape)]
    | none => overlays = []
  | _ => overlays = []

/-- The controller holds of the pane what its state says. -/
structure Coherent (c : Controller α) (p : Pane α) : Prop where
  pointer : (p.heldBy c.id).1 = c.inSession
  overlays : c.Shows (p.heldBy c.id).2

theorem shows_of_not_inSession {c : Controller α} (hc : c.inSession = false)
    {overlays : List (OwnerId × OverlayShape α)} : c.Shows overlays ↔ overlays = [] := by
  cases c with
  | rubberBand c =>
    have hnone : c.session = none := by simpa [inSession, RubberBand.isDragging] using hc
    simp only [Shows, hnone]
  | _ => rfl

theorem Coherent.of_heldBy {c : Controller α} {p q : Pane α} (h : c.Coherent p) (hheld : q.heldBy c.id = p.heldBy c.id) :
    c.Coherent q :=
  ⟨hheld ▸ h.pointer, hheld ▸ h.overlays⟩

/-- The controller `c` acts on the pane `p`, alone. -/
structure Step (c : Controller α) (p : Pane α) (c' : Controller α) (p' : Pane α) : Prop where
  id : c'.id = c.id
  others : ∀ id ≠ c.id, p'.heldBy id = p.heldBy id
  coherent : c.Coherent p → c'.Coherent p'

namespace Step

variable {c c' : Controller α} {p p' q : Pane α}

/-- Neither the pointer nor an overlay is touched, and the controller stays in or out of session. -/
theorem keep (hid : c'.id = c.id) (hsession : c'.inSession = c.inSession)
    (hshows : ∀ overlays, c.Shows overlays → c'.Shows overlays) (hholds : p'.holds = p.holds) : Step c p c' p' where
  id := hid
  others id _ := Pane.heldBy_of_holds hholds id
  coherent h := by
    constructor
    · rw [hid, Pane.heldBy_of_holds hholds, hsession, h.pointer]
    · rw [hid, Pane.heldBy_of_holds hholds]
      exact hshows _ h.overlays

theorem refl (c : Controller α) (p : Pane α) : Step c p c p := keep rfl rfl (fun _ h => h) rfl

theorem trans {c'' : Controller α} (h : Step c p c' q) (h' : Step c' q c'' p') : Step c p c'' p' where
  id := h'.id.trans h.id
  others id hother := (h'.others id (h.id ▸ hother)).trans (h.others id hother)
  coherent hc := h'.coherent (h.coherent hc)

/-- A session begins with the pointer, on a pane that is then at most written to. -/
theorem start (hid : c'.id = c.id) (hsession : c'.inSession = true)
    (hshows : ∀ overlays, c.Shows overlays → c'.Shows overlays) (hcapture : p.capture c.id = some q)
    (hholds : p'.holds = q.holds) : Step c p c' p' where
  id := hid
  others id hother := by rw [Pane.heldBy_of_holds hholds, Pane.heldBy_capture_other hcapture hother]
  coherent h := by
    have hheld : p'.heldBy c'.id = (true, (p.heldBy c.id).2) := by
      rw [hid, Pane.heldBy_of_holds hholds, Pane.heldBy_capture hcapture]
    constructor
    · rw [hheld, hsession]
    · rw [hheld]
      exact hshows _ h.overlays

/-- A session without overlays ends, and gives the pointer back. -/
theorem finish (hid : c'.id = c.id) (hsession : c'.inSession = false)
    (hshows : ∀ overlays, c.Shows overlays → overlays = []) (hholds : p'.holds = (p.release c.id).holds) :
    Step c p c' p' where
  id := hid
  others id hother := by rw [Pane.heldBy_of_holds hholds, p.heldBy_release_other hother]
  coherent h := by
    have hheld : p'.heldBy c'.id = (false, []) := by
      rw [hid, Pane.heldBy_of_holds hholds, p.heldBy_release, hshows _ h.overlays]
    constructor
    · rw [hheld, hsession]
    · rw [hheld]
      exact (shows_of_not_inSession hsession).2 rfl

end Step

end Controller

open Controller (Step)

/-! ### Axis drags -/

namespace AxisDrag

theorem step_mouseDown (c : AxisDrag α) (args : MouseArgs α) (p : Pane α) :
    Step (.axisDrag c) p (.axisDrag (c.mouseDown args p).controller) (c.mouseDown args p).pane := by
  unfold mouseDown
  split
  · exact .refl ..
  · split
    · exact .refl ..
    · split
      · exact .refl ..
      · split
        · exact .refl ..
        · next hcapture => exact .start rfl rfl (fun _ h => h) hcapture (Pane.holds_takeExternal ..)

theorem step_mouseMove (c : AxisDrag α) (args : MouseArgs α) (p : Pane α) :
    Step (.axisDrag c) p (.axisDrag (c.mouseMove args p).controller) (c.mouseMove args p).pane := by
  unfold mouseMove
  split
  · exact .refl ..
  · next s hsession =>
    have hwas : (Controller.axisDrag c).inSession = true := by simp [Controller.inSession, isDragging, hsession]
    refine .keep rfl ?_ (fun _ h => h) ?_
    · rw [hwas]
      rfl
    · dsimp only
      rw [Pane.holds_asOwnWrites, Pane.holds_takeExternal]
      exact fun p => Pane.holds_suspended (fun p => Pane.holds_writeAxis ..) p

theorem step_endDrag (c : AxisDrag α) (p : Pane α) :
    Step (.axisDrag c) p (.axisDrag (c.endDrag p).controller) (c.endDrag p).pane := by
  unfold endDrag
  split
  · exact .finish rfl rfl (fun _ h => h) rfl
  · exact .refl ..

end AxisDrag

/-! ### Pans -/

namespace ZoomPan

theorem step_mouseDown (c : ZoomPan α) (args : MouseArgs α) (p : Pane α) :
    Step (.zoomPan c) p (.zoomPan (c.mouseDown args p).controller) (c.mouseDown args p).pane := by
  unfold mouseDown
  split
  · exact .refl ..
  · split
    · exact .refl ..
    · next hcapture => exact .start rfl rfl (fun _ h => h) hcapture (Pane.holds_takeExternal ..)

theorem step_mouseMove (c : ZoomPan α) (args : MouseArgs α) (p : Pane α) :
    Step (.zoomPan c) p (.zoomPan (c.mouseMove args p).controller) (c.mouseMove args p).pane := by
  unfold mouseMove
  split
  · exact .refl ..
  · next s hsession =>
    have hwas : (Controller.zoomPan c).inSession = true := by simp [Controller.inSession, isDragging, hsession]
    refine .keep rfl ?_ (fun _ h => h) ?_
    · rw [hwas]
      rfl
    · dsimp only
      rw [Pane.holds_asOwnWrites, Pane.holds_takeExternal]
      intro p
      split <;> simp only [Pane.holds_zoomFamilyToExtents, PanTarget.holds_pan]

theorem step_endDrag (c : ZoomPan α) (p : Pane α) :
    Step (.zoomPan c) p (.zoomPan (c.endDrag p).1) (c.endDrag p).2 := by
  unfold endDrag
  split
  · exact .finish rfl rfl (fun _ h => h) rfl
  · exact .refl ..

theorem step_mouseUp (c : ZoomPan α) (args : MouseArgs α) (p : Pane α) :
    Step (.zoomPan c) p (.zoomPan (c.mouseUp args p).controller) (c.mouseUp args p).pane := by
  cases hsession : c.session with
  | none =>
    simp only [mouseUp, hsession]
    exact .refl ..
  | some s =>
    simp only [mouseUp, endDrag, hsession]
    split <;> exact .finish rfl rfl (fun _ h => h) rfl

theorem step_tick (c : ZoomPan α) (now : Nat) (p : Pane α) :
    Step (.zoomPan c) p (.zoomPan (c.tick now p).1) (c.tick now p).2 := by
  unfold tick
  split
  · exact .refl ..
  · dsimp only
    split
    · exact .keep rfl rfl (fun _ h => h) rfl
    · refine .keep rfl rfl (fun _ h => h) ?_
      have hticked (p : Pane α) : (c.inertia.tick now p).2.holds = p.holds := c.inertia.holds_tick now p
      exact hticked { p with notifier := (p.takeExternal c.id).2.notifier.beginOwnWrites c.id }

end ZoomPan

/-! ### Rubber bands -/

namespace RubberBand

/-- A band that has the pointer shows a shape of its session. -/
theorem step_showOverlay {c c' : RubberBand α} {s : BandSession α} {shape : OverlayShape α} {p q : Pane α}
    (hid : c'.id = c.id) (hsession : c'.session = some s) (hdraws : c'.Draws s shape)
    (hothers : ∀ id ≠ c.id, q.heldBy id = p.heldBy id)
    (hpointer : (Controller.rubberBand c).Coherent p → (q.heldBy c.id).1 = true) :
    Step (.rubberBand c) p (.rubberBand c') (q.showOverlay c.id shape) where
  id := hid
  others id hother := by
    have hne : id ≠ c.id := hother
    rw [q.heldBy_showOverlay_other shape hne, hothers id hne]
  coherent h := by
    have hheld : (q.showOverlay c.id shape).heldBy (Controller.rubberBand c').id = (true, [(c'.id, shape)]) := by
      rw [show (Controller.rubberBand c').id = c.id from hid, q.heldBy_showOverlay, hpointer h, hid]
    constructor
    · rw [hheld]
      simp [Controller.inSession, isDragging, hsession]
    · rw [hheld]
      simp only [Controller.Shows, hsession]
      exact ⟨shape, hdraws, rfl⟩

theorem step_mouseDown (c : RubberBand α) (args : MouseArgs α) (p : Pane α) :
    Step (.rubberBand c) p (.rubberBand (c.mouseDown args p).controller) (c.mouseDown args p).pane := by
  unfold mouseDown
  split
  · exact .refl ..
  · split
    · exact .refl ..
    · next q hcapture =>
      refine step_showOverlay rfl rfl (.inr ⟨args.point, rfl, rfl⟩) ?_ ?_
      · exact fun id hother => Pane.heldBy_capture_other hcapture hother
      · intro _
        rw [Pane.heldBy_capture hcapture]

theorem step_mouseMove (c : RubberBand α) (args : MouseArgs α) (p : Pane α) :
    Step (.rubberBand c) p (.rubberBand (c.mouseMove args p).controller) (c.mouseMove args p).pane := by
  unfold mouseMove
  split
  · exact .refl ..
  · next s hsession =>
    refine step_showOverlay rfl rfl (.inl rfl) (fun _ _ => rfl) fun h => ?_
    rw [show c.id = (Controller.rubberBand c).id from rfl, h.pointer]
    simp [Controller.inSession, isDragging, hsession]

/-- A band that ends gives up its overlay and the pointer. -/
theorem step_finish {c c' : RubberBand α} {p p' : Pane α} (hid : c'.id = c.id) (hsession : c'.session = none)
    (hholds : p'.holds = ((p.removeOverlay c.id).release c.id).holds) :
    Step (.rubberBand c) p (.rubberBand c') p' where
  id := hid
  others id hother := by
    have hne : id ≠ c.id := hother
    rw [Pane.heldBy_of_holds hholds, Pane.heldBy_release_other _ hne, p.heldBy_removeOverlay_other hne]
  coherent _ := by
    have hheld : p'.heldBy (Controller.rubberBand c').id = (false, []) := by
      rw [show (Controller.rubberBand c').id = c.id from hid, Pane.heldBy_of_holds hholds, Pane.heldBy_release,
        p.heldBy_removeOverlay]
    constructor
    · rw [hheld]
      simp [Controller.inSession, isDragging, hsession]
    · rw [hheld]
      simp only [Controller.Shows, hsession]

theorem step_mouseUp (c : RubberBand α) (args : MouseArgs α) (p : Pane α) :
    Step (.rubberBand c) p (.rubberBand (c.mouseUp args p).controller) (c.mouseUp args p).pane := by
  unfold mouseUp
  split
  · exact .refl ..
  · refine step_finish rfl rfl ?_
    dsimp only
    split
    · rfl
    · rw [holds_zoom]

theorem step_cancel (c : RubberBand α) (p : Pane α) :
    Step (.rubberBand c) p (.rubberBand (c.cancel p).1) (c.cancel p).2 := by
  unfold cancel
  split
  · exact step_finish rfl rfl rfl
  · exact .refl ..

end RubberBand

/-! ### Every controller -/

namespace Controller

theorem step_mouse (kind : MouseEventKind) (c : Controller α) (args : MouseArgs α) (p : Pane α) :
    Step c p (mouse kind c args p).controller (mouse kind c args p).pane := by
  cases c with
  | axisDrag c =>
    cases kind with
    | down => exact c.step_mouseDown args p
    | move => exact c.step_mouseMove args p
    | up => exact c.step_endDrag p
    | wheel | doubleClick => exact .refl ..
  | rubberBand c =>
    cases kind with
    | down => exact c.step_mouseDown args p
    | move => exact c.step_mouseMove args p
    | up => exact c.step_mouseUp args p
    | wheel | doubleClick => exact .refl ..
  | zoomPan c =>
    cases kind with
    | down => exact c.step_mouseDown args p
    | move => exact c.step_mouseMove args p
    | up => exact c.step_mouseUp args p
    | wheel | doubleClick => exact .refl ..
  | wheelZoom c =>
    cases kind with
    | wheel =>
      refine .keep ?_ rfl (fun _ h => h) (c.holds_wheel args p)
      change (c.wheel args p).controller.id = c.id
      unfold WheelZoom.wheel
      split <;> rfl
    | down | move | up | doubleClick => exact .refl ..
  | zoomExtents c =>
    cases kind with
    | doubleClick =>
      change Step _ p (zoomExtents (c.doubleClick args p).controller) (c.doubleClick args p).pane
      unfold ZoomExtents.doubleClick
      split
      · exact .refl ..
      · exact .keep rfl rfl (fun _ h => h) (Pane.holds_zoomToExtents ..)
    | down | move | up | wheel => exact .refl ..
  | pinchZoom c => cases kind <;> exact .refl ..

theorem step_touch (action : TouchAction) (c : Controller α) (args : TouchArgs α) (p : Pane α) :
    Step c p (touch action c args p).controller (touch action c args p).pane := by
  cases c with
  | pinchZoom c =>
    cases action with
    | down => exact .keep (c.id_flush p) rfl (fun _ h => h) (c.holds_flush p)
    | move =>
      change Step _ p (pinchZoom (c.touchMove args p).controller) (c.touchMove args p).pane
      unfold PinchZoom.touchMove
      dsimp only
      split <;> exact .keep rfl rfl (fun _ h => h) rfl
    | up => exact .keep (c.id_flush p) rfl (fun _ h => h) (c.holds_flush p)
  | _ => cases action <;> exact .refl ..

theorem step_tick (now : Nat) (c : Controller α) (p : Pane α) : Step c p (c.tick now p).1 (c.tick now p).2 := by
  cases c with
  | pinchZoom c =>
    change Step _ p (pinchZoom (c.tick now p).1) (c.tick now p).2
    unfold PinchZoom.tick
    dsimp only
    split
    · exact .keep (PinchZoom.id_flush ..) rfl (fun _ h => h) (PinchZoom.holds_flush ..)
    · exact .keep rfl rfl (fun _ h => h) rfl
  | zoomPan c => exact c.step_tick now p
  | _ => exact .refl ..

theorem step_attached (c : Controller α) (p : Pane α) : Step c p (c.attached p).1 (c.attached p).2 := by
  cases c with
  | axisDrag c => exact .keep rfl rfl (fun _ h => h) (Pane.holds_startWatch ..)
  | zoomPan c => exact .keep rfl rfl (fun _ h => h) (Pane.holds_startWatch ..)
  | _ => exact .refl ..

theorem step_lostCapture (c : Controller α) (p : Pane α) : Step c p (c.lostCapture p).1 (c.lostCapture p).2 := by
  cases c with
  | axisDrag c => exact c.step_endDrag p
  | rubberBand c => exact c.step_cancel p
  | zoomPan c => exact c.step_endDrag p
  | _ => exact .refl ..

theorem step_detached (c : Controller α) (p : Pane α) : Step c p (c.detached p).1 (c.detached p).2 := by
  cases c with
  | axisDrag c =>
    refine (c.step_endDrag p).trans (.keep rfl rfl (fun _ h => h) (Pane.holds_stopWatch ..))
  | rubberBand c => exact c.step_cancel p
  | zoomPan c =>
    have hreset : Step (zoomPan c) p (zoomPan c.resetInertia) p := .keep rfl rfl (fun _ h => h) rfl
    refine (hreset.trans (c.resetInertia.step_endDrag p)).trans
      (.keep rfl rfl (fun _ h => h) (Pane.holds_stopWatch ..))
  | pinchZoom c => exact .keep rfl rfl (fun _ h => h) rfl
  | _ => exact .refl ..

/-! ### Releases -/

/-- A release passes a controller out of session by. -/
theorem mouse_up_of_not_inSession {c : Controller α} (hc : c.inSession = false) (args : MouseArgs α) (p : Pane α) :
    mouse .up c args p = .ignore c p := by
  cases c with
  | axisDrag c =>
    have hnone : c.session = none := by simpa [inSession, AxisDrag.isDragging] using hc
    simp only [mouse, AxisDrag.endDrag, hnone]
    rfl
  | rubberBand c =>
    have hnone : c.session = none := by simpa [inSession, RubberBand.isDragging] using hc
    simp only [mouse, RubberBand.mouseUp, hnone]
    rfl
  | zoomPan c =>
    have hnone : c.session = none := by simpa [inSession, ZoomPan.isDragging] using hc
    simp only [mouse, ZoomPan.mouseUp, hnone]
    rfl
  | _ => rfl

/-- A release ends a session and goes no further. -/
theorem mouse_up_of_inSession {c : Controller α} (hc : c.inSession = true) (args : MouseArgs α) (p : Pane α) :
    (mouse .up c args p).controller.inSession = false ∧ (mouse .up c args p).handled = true := by
  cases c with
  | axisDrag c =>
    obtain ⟨s, hs⟩ := Option.isSome_iff_exists.1 hc
    simp [mouse, AxisDrag.endDrag, hs, Reaction.map, inSession, AxisDrag.isDragging]
  | rubberBand c =>
    obtain ⟨s, hs⟩ := Option.isSome_iff_exists.1 hc
    simp [mouse, RubberBand.mouseUp, hs, Reaction.map, inSession, RubberBand.isDragging]
  | zoomPan c =>
    obtain ⟨s, hs⟩ := Option.isSome_iff_exists.1 hc
    simp only [mouse, ZoomPan.mouseUp, ZoomPan.endDrag, hs, Reaction.map]
    split <;> exact ⟨rfl, rfl⟩
  | wheelZoom _ | pinchZoom _ | zoomExtents _ => cases hc

end Controller

end ChartGestures
