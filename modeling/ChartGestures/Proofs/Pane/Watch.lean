import ChartGestures.Gesture.Reaction
import ChartGestures.Proofs.Pane.Delivery

/-!
# What a watch sees

A controller learns of changes that it did not make through its watch. Of the whole notifier only little matters to one
watch: how many suspensions are open, whether changes wait, and its own state. A pane writes to its axes in scopes that
suspend delivery, so a scope shows the watch one change if any of its writes changed an axis, and none otherwise; and in
a scope of own writes it shows nothing.
-/

namespace ChartGestures

variable {α : Type} [Scalar α] [Decimals α]

/-- A watch after a batch. -/
def ChangeWatch.receive (s : ChangeWatch) : ChangeWatch := { s with external := s.external || s.ownWrites == 0 }

theorem ChangeWatch.receive_receive (s : ChangeWatch) : s.receive.receive = s.receive := by
  simp [receive]

/-- A watch after a scope in which something changed or not. -/
def ChangeWatch.after (s : ChangeWatch) (changed : Bool) : ChangeWatch := if changed then s.receive else s

theorem ChangeWatch.after_after (s : ChangeWatch) (changed more : Bool) :
    (s.after changed).after more = s.after (changed || more) := by
  cases changed with
  | false => rfl
  | true =>
    cases more with
    | false => rfl
    | true => exact s.receive_receive

theorem ChangeWatch.after_ownWrites {s : ChangeWatch} (h : 0 < s.ownWrites) (changed : Bool) : s.after changed = s := by
  rw [after]
  split
  · have hown : (s.ownWrites == 0) = false := by
      rw [beq_eq_false_iff_ne]
      exact Nat.ne_of_gt h
    rw [receive, hown, Bool.or_false]
  · rfl

theorem ChangeWatch.after_free (external changed : Bool) :
    (ChangeWatch.mk 0 external).after changed = ⟨0, external || changed⟩ := by
  cases changed <;> simp [after, receive]

namespace Notifier

/-- The watch of `owner` lives, is subscribed and has the given state, and the notifier has the given number of open
suspensions and holds changes back or not. -/
structure Shows (n : Notifier α) (owner : Nat) (depth : Nat) (waiting : Bool) (state : ChangeWatch) : Prop where
  depth : n.depth = depth
  waiting : n.pending.isEmpty = !waiting
  watch : n.observers.lookup (.watch owner) = some (.watch state)
  subscribed : 0 < n.subscriptionsOf (.watch owner)

variable {n : Notifier α} {owner depth : Nat} {waiting : Bool} {state : ChangeWatch}

theorem lookup_map (l : List (ObserverId × Observer α)) (f : ObserverId → Observer α → Observer α) (id : ObserverId) :
    (l.map fun entry => (entry.1, f entry.1 entry.2)).lookup id = (l.lookup id).map (f id) := by
  induction l with
  | nil => rfl
  | cons entry rest ih =>
    obtain ⟨other, o⟩ := entry
    rw [List.map_cons, List.lookup_cons, List.lookup_cons, ih]
    by_cases h : id = other
    · simp [h]
    · simp [beq_eq_false_iff_ne.2 h]

theorem Shows.isLive (h : n.Shows owner depth waiting state) : n.isLive (.watch owner) = true := by
  rw [Notifier.isLive, h.watch]
  rfl

/-- Any number of copies of a batch is one batch to a watch. -/
theorem iterate_receive (batch : List (RangeChange α)) (state : ChangeWatch) (k : Nat) :
    (Observer.receive batch)^[k + 1] (.watch state) = .watch state.receive := by
  induction k with
  | zero => rfl
  | succ k ih =>
    rw [Function.iterate_succ_apply', ih]
    exact congrArg Observer.watch state.receive_receive

theorem Shows.deliver (h : n.Shows owner depth waiting state) (batch : List (RangeChange α)) :
    (n.deliver batch).Shows owner depth waiting state.receive := by
  have hdelivered := delivered_deliver n batch
  refine ⟨?_, ?_, ?_, ?_⟩
  · rw [depth_deliver, h.depth]
  · rw [pending_deliver, h.waiting]
  · rw [hdelivered.observers, lookup_map, h.watch, Option.map_some, received, List.foldl_cons, List.foldl_nil]
    obtain ⟨k, hk⟩ := Nat.exists_eq_succ_of_ne_zero (Nat.ne_of_gt h.subscribed)
    rw [hk, iterate_receive]
  · rw [hdelivered.subscriptions _ h.isLive]
    exact h.subscribed

theorem Shows.notify (h : n.Shows owner 0 waiting state) (change : RangeChange α) :
    (n.notify change).Shows owner 0 waiting state.receive := by
  rw [Notifier.notify, h.depth, if_neg (Nat.lt_irrefl 0)]
  exact h.deliver [change]

theorem queue_isEmpty (pending : List (RangeChange α)) (change : RangeChange α) :
    (queue pending change).isEmpty = false := by
  rw [queue]
  split
  · next hfound =>
    cases pending with
    | nil => cases hfound
    | cons earlier rest => rfl
  · cases pending <;> rfl

theorem Shows.notify_suspended (h : n.Shows owner (depth + 1) waiting state) (change : RangeChange α) :
    (n.notify change).Shows owner (depth + 1) true state := by
  rw [Notifier.notify, h.depth, if_pos (Nat.succ_pos depth)]
  exact ⟨rfl, queue_isEmpty n.pending change, h.watch, h.subscribed⟩

theorem Shows.suspend (h : n.Shows owner depth waiting state) : n.suspend.Shows owner (depth + 1) waiting state :=
  ⟨congrArg (· + 1) h.depth, h.waiting, h.watch, h.subscribed⟩

theorem Shows.resume (h : n.Shows owner 1 waiting state) : n.resume.Shows owner 0 false (state.after waiting) := by
  rw [resume_of_depth_one h.depth]
  cases waiting with
  | false =>
    have hpending : n.pending = [] := by simpa using h.waiting
    rw [if_pos hpending]
    exact ⟨rfl, h.waiting, h.watch, h.subscribed⟩
  | true =>
    have hpending : n.pending ≠ [] := by simpa using h.waiting
    rw [if_neg hpending]
    have hclosed : { n with depth := 0, pending := [] }.Shows owner 0 false state := ⟨rfl, rfl, h.watch, h.subscribed⟩
    exact hclosed.deliver n.pending

theorem Shows.resume_suspended (h : n.Shows owner (depth + 2) waiting state) :
    n.resume.Shows owner (depth + 1) waiting state := by
  rw [resume_of_depth_succ h.depth]
  exact ⟨rfl, h.waiting, h.watch, h.subscribed⟩

theorem lookup_updateObserver (n : Notifier α) (id : ObserverId) (f : Observer α → Observer α) :
    (n.updateObserver id f).observers.lookup id = (n.observers.lookup id).map f := by
  have hmap := lookup_map n.observers (fun other o => if other = id then f o else o) id
  simp only [if_true] at hmap
  exact hmap

theorem Shows.updateWatch (h : n.Shows owner depth waiting state) (f : ChangeWatch → ChangeWatch) :
    (n.updateWatch owner f).Shows owner depth waiting (f state) :=
  ⟨h.depth, h.waiting, (lookup_updateObserver n _ _).trans (congrArg _ h.watch), h.subscribed⟩

theorem Shows.takeExternal (h : n.Shows owner depth waiting state) :
    (n.takeExternal owner).1 = state.external ∧
      (n.takeExternal owner).2.Shows owner depth waiting { state with external := false } := by
  refine ⟨?_, h.updateWatch _⟩
  rw [Notifier.takeExternal, h.watch]

/-- A watch comes to life with nothing seen. -/
theorem shows_subscribeWatch (hdepth : n.depth = depth) (hwaiting : n.pending.isEmpty = !waiting)
    (hfresh : n.isLive (.watch owner) = false) : (n.subscribeWatch owner).1.Shows owner depth waiting ⟨0, false⟩ := by
  have hlookup : n.observers.lookup (.watch owner) = none := by
    rw [isLive] at hfresh
    simpa using hfresh
  rw [subscribeWatch, addObserver, hfresh, if_neg Bool.false_ne_true, subscribe]
  refine ⟨hdepth, hwaiting, ?_, ?_⟩
  · rw [List.lookup_append, hlookup]
    simp
  · rw [subscriptionsOf, List.countP_append]
    simp

end Notifier

end ChartGestures
