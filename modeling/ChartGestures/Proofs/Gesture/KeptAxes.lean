import ChartGestures.Proofs.Gesture.OthersCalls
import ChartGestures.Proofs.Pane.AxisFrames

/-!
# Calls keep the axes

Whatever a controller is called for, every axis of its pane is still there afterwards, in its place: all it does to the
axes it does through writes.
-/

namespace ChartGestures

variable {α : Type} [Scalar α] [Decimals α]

/-! ### What gestures write -/

namespace ChartAxis.SameAxis

theorem zoomAt (a : ChartAxis α) (anchor : Point α) (scale : α) : a.SameAxis (a.zoomAt anchor scale).axis := by
  unfold ChartAxis.zoomAt
  split
  · exact applyRange ..
  · exact .refl a

theorem turn (config : WheelZoomConfig α) (notches : α) (anchor : Point α) (a : ChartAxis α) :
    a.SameAxis (WheelZoom.turn config notches anchor a).axis := by
  unfold WheelZoom.turn
  split
  · exact .refl a
  · split
    · exact zoomAt ..
    · exact scroll ..

theorem pinch (config : PinchZoomConfig α) (delta : PinchDelta α) (a : ChartAxis α) :
    a.SameAxis (PinchZoom.pinch config delta a).axis := by
  unfold PinchZoom.pinch
  dsimp only
  split
  · exact zoomAt ..
  · exact .refl a

theorem panAxis (starts : StartRanges α) (delta total : Point α) (id : String) (mode : ClipMode) (a : ChartAxis α) :
    a.SameAxis (PanTarget.panAxis starts delta total id mode a).axis := by
  unfold PanTarget.panAxis
  split
  · exact panFrom ..
  · dsimp only
    split
    · exact scroll ..
    · exact .refl a

theorem drag (config : AxisDragConfig α) (s : DragSession α) (point : Point α) (a : ChartAxis α) :
    a.SameAxis (AxisDrag.drag config s point a).axis := by
  unfold AxisDrag.drag
  dsimp only
  split
  · exact panFrom ..
  · split
    · exact applyRange ..
    · exact setVisible ..

end ChartAxis.SameAxis

namespace Pane.KeepsAxes

/-! ### Gestures -/

theorem pan (t : PanTarget) (delta total : Point α) (starts : StartRanges α) (p : Pane α) :
    p.KeepsAxes (t.pan delta total starts p) :=
  suspended (fun p => foldl (fun p (id, mode) => writeAxis (.panAxis starts delta total id mode) p id) _ p) p

theorem step (i : Inertia α) (p : Pane α) : p.KeepsAxes (i.step p).2 := by
  unfold Inertia.step
  cases i.target with
  | none => exact .refl p
  | some target => exact pan ..

theorem steps (count : Nat) (i : Inertia α) (p : Pane α) : p.KeepsAxes (Inertia.steps count i p).2 := by
  induction count generalizing i p with
  | zero => exact .refl p
  | succ count ih =>
    unfold Inertia.steps
    dsimp only
    split
    · exact step i p
    · exact (step i p).trans (ih ..)

theorem wheel (c : WheelZoom α) (args : MouseArgs α) (p : Pane α) : p.KeepsAxes (c.wheel args p).pane := by
  unfold WheelZoom.wheel
  split
  · exact .refl p
  · exact suspended (fun p => foldl (fun p id => writeAxis (.turn c.config _ args.point) p id) _ p) p

theorem flush [Trigonometry α] (c : PinchZoom α) (p : Pane α) : p.KeepsAxes (c.flush p).2 := by
  unfold PinchZoom.flush
  dsimp only
  split
  · exact .refl p
  · exact suspended (fun p => foldl (fun p id => writeAxis (.pinch c.config _) p id) _ p) p

theorem zoom (config : RubberBandConfig α) (s : BandSession α) (p : Pane α) : p.KeepsAxes (RubberBand.zoom config s p) := by
  have hfamily (family : AxisFamily) (p : Pane α) : p.KeepsAxes (RubberBand.zoomFamily config s family p) :=
    foldl (fun p id => writeAxis (fun a => .animateTo a _ config.animation) p id) _ p
  have hboth (p : Pane α) : p.KeepsAxes
      (if config.isXAxisOnly then RubberBand.zoomFamily config s .x p
        else RubberBand.zoomFamily config s .y (RubberBand.zoomFamily config s .x p)) := by
    split
    · exact hfamily .x p
    · exact (hfamily .x p).trans (hfamily .y _)
  refine suspended (fun p => ?_) p
  dsimp only
  split
  · exact (hboth p).trans (zoomFamilyToExtents ..)
  · exact hboth p

/-! ### Drags -/

variable {p : Pane α}

theorem endAxisDrag (c : AxisDrag α) (p : Pane α) : p.KeepsAxes (c.endDrag p).pane := by
  unfold AxisDrag.endDrag
  split
  · exact release ..
  · exact .refl p

theorem endPan (c : ZoomPan α) (p : Pane α) : p.KeepsAxes (c.endDrag p).2 := by
  unfold ZoomPan.endDrag
  split
  · exact release ..
  · exact .refl p

theorem cancelBand (c : RubberBand α) (p : Pane α) : p.KeepsAxes (c.cancel p).2 := by
  unfold RubberBand.cancel
  split
  · exact (removeOverlay p c.id).trans (release ..)
  · exact .refl p

theorem axisDrag (c : AxisDrag α) (args : MouseArgs α) (p : Pane α) :
    p.KeepsAxes (c.mouseDown args p).pane ∧ p.KeepsAxes (c.mouseMove args p).pane := by
  constructor
  · unfold AxisDrag.mouseDown
    repeat' split
    any_goals exact .refl p
    next hcapture => exact (capture hcapture).trans (notifier ..)
  · unfold AxisDrag.mouseMove
    split
    · exact .refl p
    · exact (notifier p _).trans (asOwnWrites (suspended fun p => writeAxis (.drag c.config _ args.point) p _) c.id _)

theorem panTo (c : ZoomPan α) (s : PanSession α) (args : MouseArgs α) (p : Pane α) : p.KeepsAxes (c.panTo s args p) := by
  refine asOwnWrites (fun p => ?_) c.id p
  dsimp only
  split
  · exact (pan ..).trans (zoomFamilyToExtents ..)
  · exact pan ..

theorem zoomPan (c : ZoomPan α) (args : MouseArgs α) (p : Pane α) :
    p.KeepsAxes (c.mouseDown args p).pane ∧ p.KeepsAxes (c.mouseMove args p).pane ∧
      p.KeepsAxes (c.mouseUp args p).pane := by
  refine ⟨?_, ?_, ?_⟩
  · unfold ZoomPan.mouseDown
    split
    · exact .refl p
    · split
      · exact .refl p
      · next hcapture => exact (capture hcapture).trans (notifier ..)
  · cases hsession : c.session with
    | none =>
      rw [ZoomPan.mouseMove, hsession]
      exact .refl p
    | some s =>
      rw [ZoomPan.mouseMove_of_session hsession rfl]
      exact (notifier p _).trans (panTo ..)
  · unfold ZoomPan.mouseUp
    split
    · exact .refl p
    · dsimp only
      split <;> exact endPan c p

theorem tickPan (c : ZoomPan α) (now : Nat) (p : Pane α) : p.KeepsAxes (c.tick now p).2 := by
  unfold ZoomPan.tick
  split
  · exact .refl p
  · dsimp only
    split
    · exact notifier ..
    · exact ((notifier p _).trans ((notifier _ _).trans (steps ..))).trans (notifier ..)

variable [Trigonometry α]

theorem rubberBand (c : RubberBand α) (args : MouseArgs α) (p : Pane α) :
    p.KeepsAxes (c.mouseDown args p).pane ∧ p.KeepsAxes (c.mouseMove args p).pane ∧
      p.KeepsAxes (c.mouseUp args p).pane := by
  refine ⟨?_, ?_, ?_⟩
  · unfold RubberBand.mouseDown
    repeat' split
    any_goals exact .refl p
    next hcapture => exact (capture hcapture).trans (of_axes rfl rfl)
  · unfold RubberBand.mouseMove
    split
    · exact .refl p
    · exact of_axes rfl rfl
  · unfold RubberBand.mouseUp
    split
    · exact .refl p
    · have hended : p.KeepsAxes ((p.removeOverlay c.id).release c.id) :=
        (removeOverlay p c.id).trans (release ..)
      dsimp only
      split
      · exact hended
      · exact hended.trans (zoom ..)

end Pane.KeepsAxes

/-! ### Controllers -/

namespace Controller

open Pane (KeepsAxes)

theorem keepsAxes_attached (c : Controller α) (p : Pane α) : p.KeepsAxes (c.attached p).2 := by
  cases c with
  | axisDrag c => exact .notifier ..
  | zoomPan c => exact .notifier ..
  | _ => exact .refl p

theorem keepsAxes_detached (c : Controller α) (p : Pane α) : p.KeepsAxes (c.detached p).2 := by
  cases c with
  | axisDrag c => exact (KeepsAxes.endAxisDrag c p).trans (.notifier ..)
  | zoomPan c => exact (KeepsAxes.endPan c.resetInertia p).trans (.notifier ..)
  | rubberBand c => exact .cancelBand c p
  | _ => exact .refl p

variable [Trigonometry α]

theorem keepsAxes_mouse (kind : MouseEventKind) (c : Controller α) (args : MouseArgs α) (p : Pane α) :
    p.KeepsAxes (mouse kind c args p).pane := by
  cases c with
  | axisDrag c =>
    cases kind with
    | down => exact (KeepsAxes.axisDrag c args p).1
    | move => exact (KeepsAxes.axisDrag c args p).2
    | up => exact .endAxisDrag c p
    | wheel | doubleClick => exact .refl p
  | zoomPan c =>
    cases kind with
    | down => exact (KeepsAxes.zoomPan c args p).1
    | move => exact (KeepsAxes.zoomPan c args p).2.1
    | up => exact (KeepsAxes.zoomPan c args p).2.2
    | wheel | doubleClick => exact .refl p
  | rubberBand c =>
    cases kind with
    | down => exact (KeepsAxes.rubberBand c args p).1
    | move => exact (KeepsAxes.rubberBand c args p).2.1
    | up => exact (KeepsAxes.rubberBand c args p).2.2
    | wheel | doubleClick => exact .refl p
  | wheelZoom c =>
    cases kind with
    | wheel => exact .wheel c args p
    | down | move | up | doubleClick => exact .refl p
  | zoomExtents c =>
    cases kind with
    | doubleClick =>
      change p.KeepsAxes (c.doubleClick args p).pane
      unfold ZoomExtents.doubleClick
      split
      · exact .refl p
      · exact .zoomToExtents ..
    | down | move | up | wheel => exact .refl p
  | pinchZoom c => cases kind <;> exact .refl p

theorem keepsAxes_touch (action : TouchAction) (c : Controller α) (args : TouchArgs α) (p : Pane α) :
    p.KeepsAxes (touch action c args p).pane := by
  cases c with
  | pinchZoom c =>
    cases action with
    | down | up => exact .flush c p
    | move =>
      change p.KeepsAxes (c.touchMove args p).pane
      unfold PinchZoom.touchMove
      dsimp only
      split <;> exact .refl p
  | _ => cases action <;> exact .refl p

theorem keepsAxes_tick (c : Controller α) (now : Nat) (p : Pane α) : p.KeepsAxes (c.tick now p).2 := by
  cases c with
  | pinchZoom c =>
    change p.KeepsAxes (c.tick now p).2
    unfold PinchZoom.tick
    dsimp only
    split
    · exact .flush ..
    · exact .refl p
  | zoomPan c => exact .tickPan c now p
  | _ => exact .refl p

omit [Trigonometry α] in
theorem keepsAxes_lostCapture (c : Controller α) (p : Pane α) : p.KeepsAxes (c.lostCapture p).2 := by
  cases c with
  | axisDrag c => exact .endAxisDrag c p
  | zoomPan c => exact .endPan c p
  | rubberBand c => exact .cancelBand c p
  | _ => exact .refl p

/-- No call adds an axis, drops one or moves it. -/
theorem keepsAxes_after (c : Controller α) (p : Pane α) (call : ControllerCall α) : p.KeepsAxes (c.after p call).2 := by
  cases call with
  | mouse kind args => exact c.keepsAxes_mouse kind args p
  | touch action args => exact c.keepsAxes_touch action args p
  | tick now => exact c.keepsAxes_tick now p
  | lostCapture => exact c.keepsAxes_lostCapture p

end Controller

end ChartGestures
