import ChartGestures.Proofs.Pane.Holds
import ChartGestures.Proofs.Pane.Writes

/-!
# Changes made by others

Between the calls of its owner a watch attends: no own write is open, and changes wait only while a suspension is open.
What somebody else then does `Informs` the watch: it has seen a change afterwards if it had before or if a batch was
delivered meanwhile. Writes, suspensions and the scopes of other owners inform the watch, and what is made of such parts
does too.
-/

namespace ChartGestures

variable {α : Type} [Scalar α] [Decimals α]

namespace Notifier

/-- The watch of `owner` is subscribed, has no own write open and has seen a change or not. -/
structure Attends (n : Notifier α) (owner : Nat) (external : Bool) : Prop where
  watch : n.observers.lookup (.watch owner) = some (.watch ⟨0, external⟩)
  subscribed : 0 < n.subscriptionsOf (.watch owner)
  settled : n.depth = 0 → n.pending = []

/-- Without an open suspension nothing waits. -/
def IsSettled (n : Notifier α) : Prop := n.depth = 0 → n.pending = []

variable {n n' n'' : Notifier α} {owner other : Nat} {external : Bool}

theorem Attends.shows (h : n.Attends owner external) :
    n.Shows owner n.depth (!n.pending.isEmpty) ⟨0, external⟩ :=
  ⟨rfl, (Bool.not_not _).symm, h.watch, h.subscribed⟩

theorem attends_iff_shows (hdepth : n.depth = 0) :
    n.Attends owner external ↔ n.Shows owner 0 false ⟨0, external⟩ := by
  constructor
  · intro h
    exact ⟨hdepth, by rw [h.settled hdepth]; rfl, h.watch, h.subscribed⟩
  · intro h
    exact ⟨h.watch, h.subscribed, fun _ => by simpa using h.waiting⟩

/-- From `n` to `n'` the watch of `owner` is told of what was delivered, and nothing comes to wait without a
suspension. -/
structure Informs (owner : Nat) (n n' : Notifier α) : Prop where
  deliveries : n.deliveries ≤ n'.deliveries
  settled : n.IsSettled → n'.IsSettled
  attends : ∀ external, n.Attends owner external →
    n'.Attends owner (external || decide (n.deliveries < n'.deliveries))

namespace Informs

/-- Nothing that a watch could see. -/
theorem quiet (hdeliveries : n'.deliveries = n.deliveries) (hsettled : n.IsSettled → n'.IsSettled)
    (hattends : ∀ external, n.Attends owner external → n'.Attends owner external) : Informs owner n n' where
  deliveries := Nat.le_of_eq hdeliveries.symm
  settled := hsettled
  attends external h := by
    rw [hdeliveries, decide_eq_false (Nat.lt_irrefl _), Bool.or_false]
    exact hattends external h

theorem refl (owner : Nat) (n : Notifier α) : Informs owner n n := .quiet rfl (fun h => h) fun _ h => h

theorem trans (h : Informs owner n n') (h' : Informs owner n' n'') : Informs owner n n'' where
  deliveries := Nat.le_trans h.deliveries h'.deliveries
  settled hn := h'.settled (h.settled hn)
  attends external hn := by
    have hlater := h'.attends _ (h.attends external hn)
    have hsome : decide (n.deliveries < n''.deliveries) =
        (decide (n.deliveries < n'.deliveries) || decide (n'.deliveries < n''.deliveries)) := by
      have hle := h.deliveries
      have hle' := h'.deliveries
      rw [← Bool.decide_or, decide_eq_decide]
      omega
    rw [hsome, ← Bool.or_assoc]
    exact hlater

end Informs

/-! ### Calls on the notifier -/

theorem informs_deliver (owner : Nat) (n : Notifier α) (batch : List (RangeChange α)) :
    Informs owner n (n.deliver batch) := by
  have hcount : (n.deliver batch).deliveries = n.deliveries + 1 := (delivered_deliver n batch).deliveries
  have hsettled : n.IsSettled → (n.deliver batch).IsSettled := by
    rw [IsSettled, IsSettled, depth_deliver, pending_deliver]
    exact fun h => h
  refine ⟨by omega, hsettled, fun external h => ?_⟩
  have hshows := h.shows.deliver batch
  rw [decide_eq_true (by omega), Bool.or_true]
  refine ⟨?_, hshows.subscribed, hsettled h.settled⟩
  have hreceived : (ChangeWatch.mk 0 external).receive = ⟨0, true⟩ := by simp [ChangeWatch.receive]
  rw [← hreceived]
  exact hshows.watch

theorem informs_notify (owner : Nat) (n : Notifier α) (change : RangeChange α) : Informs owner n (n.notify change) := by
  rw [Notifier.notify]
  split
  · next hheld =>
    have hsettled : IsSettled { n with pending := queue n.pending change } :=
      fun hdepth => absurd hdepth (Nat.ne_of_gt hheld)
    exact .quiet rfl (fun _ => hsettled) fun _ h => ⟨h.watch, h.subscribed, hsettled⟩
  · exact informs_deliver owner n [change]

theorem informs_suspend (owner : Nat) (n : Notifier α) : Informs owner n n.suspend := by
  have hsettled : n.suspend.IsSettled := fun hdepth => nomatch hdepth
  exact .quiet rfl (fun _ => hsettled) fun _ h => ⟨h.watch, h.subscribed, hsettled⟩

theorem informs_resume (owner : Nat) (n : Notifier α) : Informs owner n n.resume := by
  obtain hdepth | hdepth | ⟨depth, hdepth⟩ : n.depth = 0 ∨ n.depth = 1 ∨ ∃ depth, n.depth = depth + 2 := by
    rcases n.depth with _ | _ | depth
    · exact .inl rfl
    · exact .inr (.inl rfl)
    · exact .inr (.inr ⟨depth, rfl⟩)
  · rw [resume_of_depth_zero hdepth]
    exact .refl owner n
  · rw [resume_of_depth_one hdepth]
    split
    · next hnone => exact .quiet rfl (fun _ _ => hnone) fun _ h => ⟨h.watch, h.subscribed, fun _ => hnone⟩
    · -- what waited is taken out before it is delivered
      have hclosed : Informs owner n { n with depth := 0, pending := [] } :=
        .quiet rfl (fun _ _ => rfl) fun _ h => ⟨h.watch, h.subscribed, fun _ => rfl⟩
      exact hclosed.trans (informs_deliver ..)
  · rw [resume_of_depth_succ hdepth]
    have hsettled : IsSettled { n with depth := depth + 1 } := fun hzero => nomatch hzero
    exact .quiet rfl (fun _ => hsettled) fun _ h => ⟨h.watch, h.subscribed, hsettled⟩

theorem lookup_updateObserver_of_ne {id updated : ObserverId} (hne : id ≠ updated) (n : Notifier α)
    (f : Observer α → Observer α) : (n.updateObserver updated f).observers.lookup id = n.observers.lookup id := by
  have hmap := lookup_map n.observers (fun name o => if name = updated then f o else o) id
  simp only [if_neg hne, Option.map_id'] at hmap
  exact hmap

/-- What becomes of the watch of another owner. -/
theorem informs_updateWatch (hother : other ≠ owner) (n : Notifier α) (f : ChangeWatch → ChangeWatch) :
    Informs owner n (n.updateWatch other f) := by
  refine .quiet rfl (fun h => h) fun _ h => ⟨?_, h.subscribed, h.settled⟩
  have hne : ObserverId.watch owner ≠ .watch other := fun heq => hother (ObserverId.watch.inj heq).symm
  exact (lookup_updateObserver_of_ne hne n _).trans h.watch

end Notifier

open Notifier (Informs informs_suspend informs_resume informs_updateWatch)

variable {owner other : OwnerId}

namespace Pane

theorem informs_writeAxis (p : Pane α) (id : String) (write : ChartAxis α → AxisWrite α) :
    Informs owner p.notifier (p.writeAxis id write).notifier := by
  rw [notifier_writeAxis]
  cases p.axis? id with
  | none => exact .refl ..
  | some a =>
    rw [Option.elim_some, AxisWrite.publish]
    split
    · exact Notifier.informs_notify ..
    · exact .refl ..

theorem informs_foldl {β : Type} {f : Pane α → β → Pane α} (hf : ∀ p b, Informs owner p.notifier (f p b).notifier)
    (l : List β) (p : Pane α) : Informs owner p.notifier (l.foldl f p).notifier := by
  induction l generalizing p with
  | nil => exact .refl ..
  | cons b rest ih => exact (hf p b).trans (ih (f p b))

theorem informs_writeAxes (p : Pane α) (ids : List String) (write : String → ChartAxis α → AxisWrite α) :
    Informs owner p.notifier (ids.foldl (fun p id => p.writeAxis id (write id)) p).notifier :=
  informs_foldl (fun p id => p.informs_writeAxis id (write id)) ids p

theorem informs_suspended {f : Pane α → Pane α} (hf : ∀ p : Pane α, Informs owner p.notifier (f p).notifier)
    (p : Pane α) : Informs owner p.notifier (p.suspended f).notifier :=
  ((informs_suspend owner p.notifier).trans (hf { p with notifier := p.notifier.suspend })).trans (informs_resume ..)

theorem informs_asOwnWrites (hother : other ≠ owner) {f : Pane α → Pane α}
    (hf : ∀ p : Pane α, Informs owner p.notifier (f p).notifier) (p : Pane α) :
    Informs owner p.notifier (p.asOwnWrites other f).notifier := by
  have hbegun := informs_updateWatch hother p.notifier fun state => { state with ownWrites := state.ownWrites + 1 }
  exact (hbegun.trans (hf { p with notifier := p.notifier.beginOwnWrites other })).trans (informs_updateWatch hother ..)

theorem informs_takeExternal (hother : other ≠ owner) (p : Pane α) :
    Informs owner p.notifier (p.takeExternal other).2.notifier :=
  informs_updateWatch hother p.notifier _

theorem informs_zoomFamilyToExtents (p : Pane α) (family : AxisFamily) (nanos : Nat) :
    Informs owner p.notifier (p.zoomFamilyToExtents family nanos).notifier :=
  informs_suspended (fun p => p.informs_writeAxes ..) p

theorem informs_zoomToExtents (p : Pane α) (direction : XyDirection) (nanos : Nat) :
    Informs owner p.notifier (p.zoomToExtents direction nanos).notifier := by
  cases direction with
  | x => exact p.informs_zoomFamilyToExtents .x nanos
  | y => exact p.informs_zoomFamilyToExtents .y nanos
  | xy =>
    refine informs_suspended (fun p => ?_) p
    exact (p.informs_zoomFamilyToExtents .x nanos).trans (informs_zoomFamilyToExtents ..)

@[simp] theorem notifier_release (p : Pane α) (id : OwnerId) : (p.release id).notifier = p.notifier := by
  unfold release
  split <;> rfl

theorem notifier_capture {p q : Pane α} {id : OwnerId} (h : p.capture id = some q) : q.notifier = p.notifier := by
  obtain ⟨-, rfl⟩ := capture_eq_some h
  rfl

end Pane

theorem PanTarget.informs_pan (t : PanTarget) (delta total : Point α) (starts : StartRanges α) (p : Pane α) :
    Informs owner p.notifier (t.pan delta total starts p).notifier :=
  Pane.informs_suspended (fun p => Pane.informs_foldl (fun p _ => p.informs_writeAxis ..) _ p) p

theorem Inertia.informs_step (i : Inertia α) (p : Pane α) : Informs owner p.notifier (i.step p).2.notifier := by
  unfold step
  cases i.target with
  | none => exact .refl ..
  | some target => exact target.informs_pan ..

theorem Inertia.informs_steps (count : Nat) (i : Inertia α) (p : Pane α) :
    Informs owner p.notifier (steps count i p).2.notifier := by
  induction count generalizing i p with
  | zero => exact .refl ..
  | succ count ih =>
    unfold steps
    dsimp only
    split
    · exact i.informs_step p
    · exact (i.informs_step p).trans (ih ..)

end ChartGestures
