import ChartGestures.Gesture.Controller

/-!
# What writes to the axes leave alone

One half of a pane is who holds the pointer and which overlays are on show; the axes and the notifier they publish to
are the other. A gesture reaches the axes through writes, suspensions and scopes of own writes only, and none of these
touches the first half. Pans, zooms, extents and coasting inherit that from here.
-/

namespace ChartGestures

variable {α : Type} [Scalar α] [Decimals α]

namespace Pane

/-- The holder of the pointer and the overlays on show. -/
def holds (p : Pane α) : Option OwnerId × List (OwnerId × OverlayShape α) := (p.capturedBy, p.overlays)

theorem holds_inj {p q : Pane α} (h : q.holds = p.holds) : q.capturedBy = p.capturedBy ∧ q.overlays = p.overlays :=
  Prod.mk.injEq .. ▸ h

@[simp] theorem holds_writeAxis (p : Pane α) (id : String) (write : ChartAxis α → AxisWrite α) :
    (p.writeAxis id write).holds = p.holds := by
  unfold writeAxis
  split
  · rfl
  · dsimp only
    split <;> rfl

theorem holds_foldl {β : Type} {f : Pane α → β → Pane α} (hf : ∀ p b, (f p b).holds = p.holds) (l : List β)
    (p : Pane α) : (l.foldl f p).holds = p.holds := by
  induction l generalizing p with
  | nil => rfl
  | cons b rest ih => rw [List.foldl_cons, ih, hf]

theorem holds_suspended {f : Pane α → Pane α} (hf : ∀ p, (f p).holds = p.holds) (p : Pane α) :
    (p.suspended f).holds = p.holds := by
  have h := hf { p with notifier := p.notifier.suspend }
  exact h

theorem holds_asOwnWrites {f : Pane α → Pane α} (hf : ∀ p, (f p).holds = p.holds) (owner : OwnerId) (p : Pane α) :
    (p.asOwnWrites owner f).holds = p.holds := by
  have h := hf { p with notifier := p.notifier.beginOwnWrites owner }
  exact h

@[simp] theorem holds_takeExternal (p : Pane α) (owner : OwnerId) : (p.takeExternal owner).2.holds = p.holds := rfl

@[simp] theorem holds_startWatch (p : Pane α) (owner : OwnerId) (held : Option SubscriptionId) :
    (p.startWatch owner held).2.holds = p.holds := rfl

@[simp] theorem holds_stopWatch (p : Pane α) (held : Option SubscriptionId) : (p.stopWatch held).holds = p.holds := rfl

@[simp] theorem holds_zoomFamilyToExtents (p : Pane α) (family : AxisFamily) (nanos : Nat) :
    (p.zoomFamilyToExtents family nanos).holds = p.holds :=
  holds_suspended (fun p => holds_foldl (fun _ _ => holds_writeAxis ..) _ p) p

@[simp] theorem holds_zoomToExtents (p : Pane α) (direction : XyDirection) (nanos : Nat) :
    (p.zoomToExtents direction nanos).holds = p.holds := by
  cases direction with
  | x => exact holds_zoomFamilyToExtents ..
  | y => exact holds_zoomFamilyToExtents ..
  | xy => exact holds_suspended (fun p => by simp) p

/-! ### The pointer -/

theorem capture_eq_some {p q : Pane α} {owner : OwnerId} (h : p.capture owner = some q) :
    (p.capturedBy = none ∨ p.capturedBy = some owner) ∧ q = { p with capturedBy := some owner } := by
  unfold capture at h
  split at h
  · next hfree =>
    refine ⟨?_, (Option.some.inj h).symm⟩
    cases hc : p.capturedBy with
    | none => exact .inl rfl
    | some other =>
      rw [hc] at hfree
      simp only [Option.all_some, beq_iff_eq] at hfree
      exact .inr (congrArg some hfree)
  · cases h

@[simp] theorem overlays_release (p : Pane α) (owner : OwnerId) : (p.release owner).overlays = p.overlays := by
  unfold release
  split <;> rfl

theorem capturedBy_release (p : Pane α) (owner : OwnerId) :
    (p.release owner).capturedBy = if p.capturedBy = some owner then none else p.capturedBy := by
  unfold release
  split <;> rfl

@[simp] theorem capturedBy_removeOverlay (p : Pane α) (owner : OwnerId) :
    (p.removeOverlay owner).capturedBy = p.capturedBy := rfl

@[simp] theorem capturedBy_showOverlay (p : Pane α) (owner : OwnerId) (shape : OverlayShape α) :
    (p.showOverlay owner shape).capturedBy = p.capturedBy := rfl

end Pane

/-! ### Gestures on axes -/

@[simp] theorem PanTarget.holds_pan (t : PanTarget) (delta total : Point α) (starts : StartRanges α) (p : Pane α) :
    (t.pan delta total starts p).holds = p.holds :=
  Pane.holds_suspended (fun p => Pane.holds_foldl (fun _ _ => Pane.holds_writeAxis ..) _ p) p

namespace Inertia

@[simp] theorem holds_step (i : Inertia α) (p : Pane α) : (i.step p).2.holds = p.holds := by
  unfold step
  cases i.target with
  | none => rfl
  | some target => exact target.holds_pan ..

@[simp] theorem holds_steps (count : Nat) (i : Inertia α) (p : Pane α) : (steps count i p).2.holds = p.holds := by
  induction count generalizing i p with
  | zero => rfl
  | succ count ih =>
    unfold steps
    dsimp only
    split
    · exact holds_step i p
    · rw [ih, holds_step]

@[simp] theorem holds_tick (i : Inertia α) (now : Nat) (p : Pane α) : (i.tick now p).2.holds = p.holds :=
  holds_steps ..

end Inertia

@[simp] theorem WheelZoom.holds_wheel (c : WheelZoom α) (args : MouseArgs α) (p : Pane α) :
    (c.wheel args p).pane.holds = p.holds := by
  unfold wheel
  split
  · rfl
  · exact Pane.holds_suspended (fun p => Pane.holds_foldl (fun _ _ => Pane.holds_writeAxis ..) _ p) p

@[simp] theorem PinchZoom.holds_flush [Trigonometry α] (c : PinchZoom α) (p : Pane α) :
    (c.flush p).2.holds = p.holds := by
  unfold flush
  dsimp only
  split
  · rfl
  · exact Pane.holds_suspended (fun p => Pane.holds_foldl (fun _ _ => Pane.holds_writeAxis ..) _ p) p

@[simp] theorem RubberBand.holds_zoom (config : RubberBandConfig α) (s : BandSession α) (p : Pane α) :
    (zoom config s p).holds = p.holds := by
  have hfamily (family : AxisFamily) (p : Pane α) : (zoomFamily config s family p).holds = p.holds :=
    Pane.holds_foldl (fun _ _ => Pane.holds_writeAxis ..) _ p
  refine Pane.holds_suspended (fun p => ?_) p
  dsimp only
  split <;> split <;> simp only [Pane.holds_zoomFamilyToExtents, hfamily]

end ChartGestures
