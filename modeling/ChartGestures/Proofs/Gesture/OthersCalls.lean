import ChartGestures.Proofs.Gesture.Pans
import ChartGestures.Proofs.Gesture.Sessions
import ChartGestures.Proofs.Pane.OthersChanges

/-!
# Calls of other controllers

Whatever a controller is called for, the watch of another one is informed of what is delivered by it: every callback is
made of writes, of suspensions and of scopes of the controller's own.
-/

namespace ChartGestures

open Notifier (Informs informs_updateWatch)

/-- What a controller may be called for. -/
inductive ControllerCall (α : Type) where
  | mouse (kind : MouseEventKind) (args : MouseArgs α)
  | touch (action : TouchAction) (args : TouchArgs α)
  | tick (now : Nat)
  | lostCapture

variable {α : Type} [Scalar α] [Decimals α]

variable {owner : OwnerId}

namespace AxisDrag

variable {c : AxisDrag α}

/-- A press starts a drag and takes what the watch has seen, or does nothing. -/
theorem mouseDown_cases (c : AxisDrag α) (args : MouseArgs α) (p : Pane α) :
    c.mouseDown args p = .ignore c p ∨
      c.session = none ∧ (c.mouseDown args p).controller.session.isSome = true ∧
        (c.mouseDown args p).pane.notifier = (p.takeExternal c.id).2.notifier := by
  unfold mouseDown
  split
  · exact .inl rfl
  · next hready =>
    simp only [Bool.or_eq_true, not_or, Bool.not_eq_true, Option.isSome_eq_false_iff, Option.isNone_iff_eq_none] at hready
    split
    · exact .inl rfl
    · split
      · exact .inl rfl
      · split
        · exact .inl rfl
        · next hcapture =>
          refine .inr ⟨hready.1.2, rfl, ?_⟩
          rw [Pane.takeExternal, Pane.notifier_capture hcapture]
          rfl

theorem informs_mouseDown (c : AxisDrag α) (hother : c.id ≠ owner) (args : MouseArgs α) (p : Pane α) :
    Informs owner p.notifier (c.mouseDown args p).pane.notifier := by
  rcases c.mouseDown_cases args p with hignored | ⟨-, -, htaken⟩
  · rw [hignored]
    exact .refl ..
  · rw [htaken]
    exact p.informs_takeExternal hother

theorem informs_mouseMove (hother : c.id ≠ owner) (args : MouseArgs α) (p : Pane α) :
    Informs owner p.notifier (c.mouseMove args p).pane.notifier := by
  unfold mouseMove
  split
  · exact .refl ..
  · refine (p.informs_takeExternal hother).trans (Pane.informs_asOwnWrites hother (fun p => ?_) _)
    exact Pane.informs_suspended (fun p => p.informs_writeAxis ..) p

theorem notifier_endDrag (c : AxisDrag α) (p : Pane α) : (c.endDrag p).pane.notifier = p.notifier := by
  unfold endDrag
  split
  · exact p.notifier_release c.id
  · rfl

end AxisDrag

namespace ZoomPan

variable {c : ZoomPan α}

/-- A press starts a pan and takes what the watch has seen, or does nothing. -/
theorem mouseDown_cases (c : ZoomPan α) (args : MouseArgs α) (p : Pane α) :
    c.mouseDown args p = .ignore c p ∨
      c.session = none ∧ (c.mouseDown args p).controller.session.isSome = true ∧
        (c.mouseDown args p).pane.notifier = (p.takeExternal c.id).2.notifier := by
  unfold mouseDown
  split
  · exact .inl rfl
  · next hready =>
    simp only [Bool.or_eq_true, not_or, Bool.not_eq_true, Option.isSome_eq_false_iff, Option.isNone_iff_eq_none] at hready
    split
    · exact .inl rfl
    · next hcapture =>
      refine .inr ⟨hready.1.1, rfl, ?_⟩
      rw [Pane.takeExternal, Pane.notifier_capture hcapture]
      rfl

theorem informs_mouseDown (c : ZoomPan α) (hother : c.id ≠ owner) (args : MouseArgs α) (p : Pane α) :
    Informs owner p.notifier (c.mouseDown args p).pane.notifier := by
  rcases c.mouseDown_cases args p with hignored | ⟨-, -, htaken⟩
  · rw [hignored]
    exact .refl ..
  · rw [htaken]
    exact p.informs_takeExternal hother

theorem informs_panTo (hother : c.id ≠ owner) (s : PanSession α) (args : MouseArgs α) (p : Pane α) :
    Informs owner p.notifier (c.panTo s args p).notifier := by
  refine Pane.informs_asOwnWrites hother (fun p => ?_) p
  dsimp only
  split
  · exact (s.target.informs_pan ..).trans (Pane.informs_zoomFamilyToExtents ..)
  · exact s.target.informs_pan ..

theorem informs_mouseMove (hother : c.id ≠ owner) (args : MouseArgs α) (p : Pane α) :
    Informs owner p.notifier (c.mouseMove args p).pane.notifier := by
  cases hsession : c.session with
  | none =>
    rw [mouseMove, hsession]
    exact .refl ..
  | some s =>
    rw [mouseMove_of_session hsession rfl]
    exact (p.informs_takeExternal hother).trans (informs_panTo hother ..)

theorem informs_coasted (c : ZoomPan α) (now : Nat) (p : Pane α) :
    Informs owner (p.notifier.beginOwnWrites c.id) (c.coasted now p).2.notifier :=
  Inertia.informs_steps _ _ { p with notifier := p.notifier.beginOwnWrites c.id }

theorem informs_tick (hother : c.id ≠ owner) (now : Nat) (p : Pane α) :
    Informs owner p.notifier (c.tick now p).2.notifier := by
  have htaken := p.informs_takeExternal hother
  cases hactive : c.inertia.isActive with
  | false =>
    rw [tick_of_idle hactive]
    exact .refl ..
  | true =>
    cases hexternal : (p.takeExternal c.id).1 with
    | true =>
      rw [tick_of_external hactive hexternal]
      exact htaken
    | false =>
      rw [tick_of_quiet hactive hexternal]
      have hbegun : Informs owner _ ((p.takeExternal c.id).2.notifier.beginOwnWrites c.id) :=
        informs_updateWatch hother ..
      have hended := informs_updateWatch hother (c.coasted now (p.takeExternal c.id).2).2.notifier
        fun state => { state with ownWrites := state.ownWrites - 1 }
      exact ((htaken.trans hbegun).trans (c.informs_coasted now _)).trans hended

theorem notifier_endDrag (c : ZoomPan α) (p : Pane α) : (c.endDrag p).2.notifier = p.notifier := by
  unfold endDrag
  split
  · exact p.notifier_release c.id
  · rfl

theorem notifier_mouseUp (c : ZoomPan α) (args : MouseArgs α) (p : Pane α) :
    (c.mouseUp args p).pane.notifier = p.notifier := by
  cases hsession : c.session with
  | none =>
    rw [mouseUp, hsession]
    rfl
  | some s =>
    rw [mouseUp_of_session hsession]
    exact p.notifier_release c.id

end ZoomPan

theorem WheelZoom.informs_wheel (c : WheelZoom α) (args : MouseArgs α) (p : Pane α) :
    Informs owner p.notifier (c.wheel args p).pane.notifier := by
  unfold wheel
  split
  · exact .refl ..
  · exact Pane.informs_suspended (fun p => p.informs_writeAxes ..) p

theorem ZoomExtents.informs_doubleClick (c : ZoomExtents) (args : MouseArgs α) (p : Pane α) :
    Informs owner p.notifier (c.doubleClick args p).pane.notifier := by
  unfold doubleClick
  split
  · exact .refl ..
  · exact p.informs_zoomToExtents ..

theorem RubberBand.notifier_cancel (c : RubberBand α) (p : Pane α) : (c.cancel p).2.notifier = p.notifier := by
  unfold cancel
  split
  · exact Pane.notifier_release ..
  · rfl

variable [Trigonometry α]

theorem PinchZoom.informs_flush (c : PinchZoom α) (p : Pane α) :
    Informs owner p.notifier (c.flush p).2.notifier := by
  unfold flush
  dsimp only
  split
  · exact .refl ..
  · exact Pane.informs_suspended (fun p => p.informs_writeAxes ..) p

namespace RubberBand

theorem notifier_mouseDown (c : RubberBand α) (args : MouseArgs α) (p : Pane α) :
    (c.mouseDown args p).pane.notifier = p.notifier := by
  unfold mouseDown
  split
  · rfl
  · split
    · rfl
    · next hcapture =>
      have hheld := Pane.notifier_capture hcapture
      exact hheld

theorem notifier_mouseMove (c : RubberBand α) (args : MouseArgs α) (p : Pane α) :
    (c.mouseMove args p).pane.notifier = p.notifier := by
  unfold mouseMove
  split <;> rfl

omit [Trigonometry α] in
theorem informs_zoom (config : RubberBandConfig α) (s : BandSession α) (p : Pane α) :
    Informs owner p.notifier (zoom config s p).notifier := by
  have hfamily (family : AxisFamily) (p : Pane α) :
      Informs owner p.notifier (zoomFamily config s family p).notifier := p.informs_writeAxes ..
  have hboth (p : Pane α) : Informs owner p.notifier
      (if config.isXAxisOnly then zoomFamily config s .x p
        else zoomFamily config s .y (zoomFamily config s .x p)).notifier := by
    split
    · exact hfamily .x p
    · exact (hfamily .x p).trans (hfamily .y _)
  refine Pane.informs_suspended (fun p => ?_) p
  dsimp only
  split
  · exact (hboth p).trans (Pane.informs_zoomFamilyToExtents ..)
  · exact hboth p

theorem informs_mouseUp (c : RubberBand α) (args : MouseArgs α) (p : Pane α) :
    Informs owner p.notifier (c.mouseUp args p).pane.notifier := by
  unfold mouseUp
  split
  · exact .refl ..
  · have hended : ((p.removeOverlay c.id).release c.id).notifier = p.notifier := Pane.notifier_release ..
    dsimp only
    rw [← hended]
    split
    · exact .refl ..
    · exact informs_zoom ..

end RubberBand

namespace Controller

/-- The controller and its pane after a call. -/
def after (c : Controller α) (p : Pane α) : ControllerCall α → Controller α × Pane α
  | .mouse kind args => ((mouse kind c args p).controller, (mouse kind c args p).pane)
  | .touch action args => ((touch action c args p).controller, (touch action c args p).pane)
  | .tick now => c.tick now p
  | .lostCapture => c.lostCapture p

variable {c : Controller α}

theorem informs_mouse (hother : c.id ≠ owner) (kind : MouseEventKind) (args : MouseArgs α) (p : Pane α) :
    Informs owner p.notifier (mouse kind c args p).pane.notifier := by
  cases c with
  | axisDrag c =>
    cases kind with
    | down => exact c.informs_mouseDown hother args p
    | move => exact AxisDrag.informs_mouseMove hother args p
    | up =>
      change Informs owner p.notifier (c.endDrag p).pane.notifier
      rw [c.notifier_endDrag]
      exact .refl ..
    | wheel | doubleClick => exact .refl ..
  | rubberBand c =>
    cases kind with
    | down =>
      change Informs owner p.notifier (c.mouseDown args p).pane.notifier
      rw [c.notifier_mouseDown]
      exact .refl ..
    | move =>
      change Informs owner p.notifier (c.mouseMove args p).pane.notifier
      rw [c.notifier_mouseMove]
      exact .refl ..
    | up => exact c.informs_mouseUp args p
    | wheel | doubleClick => exact .refl ..
  | zoomPan c =>
    cases kind with
    | down => exact c.informs_mouseDown hother args p
    | move => exact ZoomPan.informs_mouseMove hother args p
    | up =>
      change Informs owner p.notifier (c.mouseUp args p).pane.notifier
      rw [c.notifier_mouseUp]
      exact .refl ..
    | wheel | doubleClick => exact .refl ..
  | wheelZoom c =>
    cases kind with
    | wheel => exact c.informs_wheel args p
    | down | move | up | doubleClick => exact .refl ..
  | zoomExtents c =>
    cases kind with
    | doubleClick => exact c.informs_doubleClick args p
    | down | move | up | wheel => exact .refl ..
  | pinchZoom c => cases kind <;> exact .refl ..

theorem informs_touch (action : TouchAction) (c : Controller α) (args : TouchArgs α) (p : Pane α) :
    Informs owner p.notifier (touch action c args p).pane.notifier := by
  cases c with
  | pinchZoom c =>
    cases action with
    | down => exact c.informs_flush p
    | move =>
      change Informs owner p.notifier (c.touchMove args p).pane.notifier
      unfold PinchZoom.touchMove
      dsimp only
      split <;> exact .refl ..
    | up => exact c.informs_flush p
  | _ => cases action <;> exact .refl ..

theorem informs_tick (hother : c.id ≠ owner) (now : Nat) (p : Pane α) :
    Informs owner p.notifier (c.tick now p).2.notifier := by
  cases c with
  | pinchZoom c =>
    change Informs owner p.notifier (c.tick now p).2.notifier
    unfold PinchZoom.tick
    dsimp only
    split
    · exact PinchZoom.informs_flush ..
    · exact .refl ..
  | zoomPan c => exact ZoomPan.informs_tick hother now p
  | _ => exact .refl ..

@[simp] theorem notifier_lostCapture {α : Type} [Scalar α] [Decimals α] (c : Controller α) (p : Pane α) :
    (c.lostCapture p).2.notifier = p.notifier := by
  cases c with
  | axisDrag c => exact c.notifier_endDrag p
  | rubberBand c => exact c.notifier_cancel p
  | zoomPan c => exact c.notifier_endDrag p
  | _ => rfl

theorem informs_after (hother : c.id ≠ owner) (p : Pane α) (call : ControllerCall α) :
    Informs owner p.notifier (c.after p call).2.notifier := by
  cases call with
  | mouse kind args => exact informs_mouse hother kind args p
  | touch action args => exact informs_touch action c args p
  | tick now => exact informs_tick hother now p
  | lostCapture =>
    rw [after, notifier_lostCapture]
    exact .refl ..

end Controller

end ChartGestures
