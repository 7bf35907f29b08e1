import ChartGestures.Proofs.Gesture.Polling
import ChartGestures.Proofs.Gesture.Slaves
import ChartGestures.Proofs.Gesture.TouchInput

/-!
# The buffer of a pinch

A change that waits in the buffer of a pinch has a timer that will apply it and a reference it was measured against.
Fingers may come or go in an event that says it moves them, panes may change between the calls, and times may run
backwards: whatever a pinch is called for keeps this, and whenever a finger comes or goes, or the pinch is detached, the
buffer is empty and the reference is there for the fingers that are left.
-/

namespace ChartGestures

/-! ### Whether a poll hands out a tick -/

namespace IntervalTimer

theorem catchUp_pos_iff {interval now room due : Nat} : 0 < (catchUp interval now (room + 1) due).1 ↔ due ≤ now := by
  rw [catchUp]
  split
  · next hdue => exact iff_of_true (Nat.succ_pos _) hdue
  · next hearly => exact iff_of_false (Nat.lt_irrefl 0) hearly

/-- The cap on the ticks of a poll leaves room for one. -/
theorem poll_pos_iff {t : IntervalTimer} {due : Nat} (h : t.nextDue = some due) (now : Nat) :
    0 < (t.poll now).1 ↔ due ≤ now := by
  rw [poll, h]
  exact catchUp_pos_iff

end IntervalTimer

variable {α : Type} [Scalar α] [Decimals α] [Trigonometry α]

namespace PinchZoom

/-! ### Calls -/

/-- What a pinch is called for, with the pane as it is then. -/
inductive Call (α : Type) [Scalar α] [Decimals α] where
  | touch (action : TouchAction) (args : TouchArgs α) (p : Pane α)
  | tick (now : Nat) (p : Pane α)
  | detached (p : Pane α)

def call (c : PinchZoom α) : Call α → PinchZoom α
  | .touch .down args p => (c.touchDown args p).controller
  | .touch .move args p => (c.touchMove args p).controller
  | .touch .up args p => (c.touchUp args p).controller
  | .tick now p => (c.tick now p).1
  | .detached p => (c.detached p).1

def run (c : PinchZoom α) (calls : List (Call α)) : PinchZoom α := calls.foldl call c

/-! ### What holds between the calls -/

/-- A change waits while the timer runs, and was measured against a reference. No finger is tracked twice. -/
structure IsBuffered (c : PinchZoom α) : Prop where
  fingers : (c.touches.map (·.1)).Nodup
  timer : c.pending.isSome = true ↔ c.timer.isRunning = true
  reference : c.pending.isSome = true → c.reference.isSome = true

/-- No change waits, and the fingers have a reference if there are two of them. -/
structure IsSettled (c : PinchZoom α) : Prop where
  pending : c.pending = none
  reference : c.reference.isSome = true ↔ 2 ≤ c.touches.length

variable {c : PinchZoom α}

omit [Scalar α] [Trigonometry α] [Decimals α] in
theorem nodup_trackOne {touches : List (Nat × Point α)} (h : (touches.map (·.1)).Nodup) (m : Manipulator α) :
    ((trackOne touches m).map (·.1)).Nodup := by
  have hothers : ((touches.filter fun touch => touch.1 ≠ m.id).map (·.1)).Nodup :=
    h.sublist (List.filter_sublist.map _)
  have hback : ((touches.filter fun touch => touch.1 ≠ m.id).map (·.1) ++ [m.id]).Nodup := by
    refine hothers.append (List.nodup_singleton _) (List.disjoint_singleton.2 fun hmem => ?_)
    obtain ⟨touch, htouch, hid⟩ := List.mem_map.1 hmem
    exact of_decide_eq_true (List.mem_filter.1 htouch).2 hid
  unfold trackOne
  dsimp only
  split
  · rw [List.map_append]
    exact hback
  · rw [List.map_append]
    exact hback
  · exact hothers

omit [Scalar α] [Trigonometry α] [Decimals α] in
theorem nodup_foldl_trackOne {touches : List (Nat × Point α)} (h : (touches.map (·.1)).Nodup)
    (ms : List (Manipulator α)) : ((ms.foldl trackOne touches).map (·.1)).Nodup := by
  induction ms generalizing touches with
  | nil => exact h
  | cons m rest ih => exact ih (nodup_trackOne h m)

namespace IsBuffered

omit [Scalar α] [Trigonometry α] [Decimals α] in
/-- An empty buffer with its timer stopped. -/
theorem of_empty (hfingers : (c.touches.map (·.1)).Nodup) (hpending : c.pending = none)
    (htimer : c.timer.isRunning = false) : c.IsBuffered where
  fingers := hfingers
  timer := by rw [hpending, htimer]; exact Iff.rfl
  reference hsome := by rw [hpending] at hsome; cases hsome

omit [Trigonometry α] [Scalar α] [Decimals α] in
theorem new (id : OwnerId) (config : PinchZoomConfig α) : (PinchZoom.new id config).IsBuffered :=
  .of_empty List.nodup_nil rfl rfl

theorem flush (h : c.IsBuffered) (p : Pane α) : (c.flush p).1.IsBuffered :=
  .of_empty (by rw [touches_flush]; exact h.fingers) (c.pending_flush p)
    (congrArg IntervalTimer.isRunning (c.timer_flush p))

/-- The fingers that moved may be fewer than two now: the change of before still waits then. -/
theorem touchMove (h : c.IsBuffered) (args : TouchArgs α) (p : Pane α) :
    (c.touchMove args p).controller.IsBuffered := by
  have hfingers : ((c.track args).touches.map (·.1)).Nodup := nodup_foldl_trackOne h.fingers args.manipulators
  unfold PinchZoom.touchMove
  dsimp only
  split
  · next reference current hreference _ =>
    refine ⟨hfingers, iff_of_true rfl ?_, fun _ => congrArg Option.isSome hreference⟩
    dsimp only
    split
    · next hrunning => exact hrunning
    · rfl
  · exact ⟨hfingers, h.timer, h.reference⟩

theorem tick (h : c.IsBuffered) (now : Nat) (p : Pane α) : (c.tick now p).1.IsBuffered := by
  rw [tick_eq]
  split
  · exact h.flush p
  · exact ⟨h.fingers, by rw [IntervalTimer.isRunning_poll]; exact h.timer, h.reference⟩

end IsBuffered

/-! ### Fingers that come or go -/

/-- Fingers are tracked and measured anew once the buffer is flushed. -/
theorem settled_of_flushed (h : c.IsBuffered) (args : TouchArgs α) (p : Pane α) :
    ((c.flush p).1.track args).resetReference.IsBuffered ∧ ((c.flush p).1.track args).resetReference.IsSettled := by
  have hfingers : (((c.flush p).1.track args).touches.map (·.1)).Nodup :=
    nodup_foldl_trackOne (h.flush p).fingers args.manipulators
  have hmeasured : ((c.flush p).1.track args).resetReference.reference.isSome =
      decide (2 ≤ ((c.flush p).1.track args).touches.length) := isPinching_resetReference _
  refine ⟨.of_empty hfingers (c.pending_flush p) (congrArg IntervalTimer.isRunning (c.timer_flush p)),
    c.pending_flush p, ?_⟩
  rw [hmeasured, decide_eq_true_eq]
  exact Iff.rfl

omit [Trigonometry α] in
theorem settled_detached (c : PinchZoom α) (p : Pane α) : (c.detached p).1.IsBuffered ∧ (c.detached p).1.IsSettled :=
  ⟨.of_empty List.nodup_nil rfl rfl, rfl, iff_of_false Bool.false_ne_true (Nat.not_le_of_lt Nat.two_pos)⟩

/-! ### Runs -/

theorem IsBuffered.call (h : c.IsBuffered) (call : Call α) : (c.call call).IsBuffered := by
  cases call with
  | touch action args p =>
    cases action with
    | down => exact (settled_of_flushed h args p).1
    | move => exact h.touchMove args p
    | up => exact (settled_of_flushed h args p).1
  | tick now p => exact h.tick now p
  | detached p => exact (c.settled_detached p).1

theorem IsBuffered.run (h : c.IsBuffered) (calls : List (Call α)) : (c.run calls).IsBuffered := by
  induction calls generalizing c with
  | nil => exact h
  | cons call rest ih => exact ih (h.call call)

/-- A tick empties the buffer from the time on that its timer is due, and not before. -/
theorem pending_tick_iff (h : c.IsBuffered) {due : Nat} (hdue : c.timer.nextDue = some due) (now : Nat) (p : Pane α) :
    (c.tick now p).1.pending = none ↔ due ≤ now := by
  have hwaits : c.pending ≠ none := Option.isSome_iff_ne_none.1 (h.timer.2 (congrArg Option.isSome hdue))
  rw [tick_eq, ← IntervalTimer.poll_pos_iff hdue now]
  split
  · next hticks => exact iff_of_true (c.pending_flush p) hticks
  · next hnone => exact iff_of_false hwaits hnone

/-- Wherever calls lead, a change waits for the timer exactly while it runs, and a tick leaves nothing waiting just if
it comes at the time the timer is due or later. Nothing waits either once a finger came or went, or the pinch is
detached; the fingers that are tracked then have a reference just if there are two of them. -/
theorem strands_nothing (id : OwnerId) (config : PinchZoomConfig α) (calls : List (Call α)) :
    let c := (PinchZoom.new id config).run calls
    c.IsBuffered ∧
      (∀ due, c.timer.nextDue = some due → ∀ now p, (c.tick now p).1.pending = none ↔ due ≤ now) ∧
      ∀ args p, (c.touchDown args p).controller.IsSettled ∧ (c.touchUp args p).controller.IsSettled ∧
        (c.detached p).1.IsSettled := by
  intro c
  have hbuffered : c.IsBuffered := (IsBuffered.new id config).run calls
  refine ⟨hbuffered, fun due hdue now p => pending_tick_iff hbuffered hdue now p, fun args p => ?_⟩
  have hflushed := (settled_of_flushed hbuffered args p).2
  exact ⟨hflushed, hflushed, (c.settled_detached p).2⟩

/-- One of two fingers is gone after a move that says so. What they spread before it still waits, and is applied at the
time it was to be; then there is no reference any more. -/
theorem strands_nothing_lost_finger :
    let p : Pane Float := (Pane.new ⟨0, 0, 400, 300⟩ .cartesian).addAxis .x (.new "x" true (.double (.new 0 100)))
    let calls : List (Call Float) :=
      [.touch .down ⟨[⟨1, ⟨100, 100⟩, .down⟩, ⟨2, ⟨200, 200⟩, .down⟩], true, 0⟩ p,
        .touch .move ⟨[⟨2, ⟨220, 220⟩, .move⟩], true, 5⟩ p, .touch .move ⟨[⟨2, ⟨220, 220⟩, .up⟩], true, 10⟩ p]
    let c := (PinchZoom.new 0 .default).run calls
    (c.timer.nextDue = some 20000005 ∧ c.pending.isSome = true ∧ c.touches.length = 1) ∧ c.IsBuffered ∧
      (c.tick 20000004 p).1.pending ≠ none ∧ (c.tick 20000005 p).1.pending = none ∧
      (c.tick 20000005 p).1.reference.isSome = false := by
  intro p calls c
  have hdue : c.timer.nextDue = some 20000005 := by decide +kernel
  obtain ⟨hbuffered, hticks, -⟩ := strands_nothing 0 .default calls
  subst c
  have hearly := mt (hticks 20000005 hdue 20000004 p).1 (Nat.not_succ_le_self 20000004)
  have happlied := (hticks 20000005 hdue 20000005 p).2 (Nat.le_refl _)
  exact ⟨⟨hdue, by decide +kernel, by decide +kernel⟩, hbuffered, hearly, happlied, by decide +kernel⟩

end PinchZoom

end ChartGestures
