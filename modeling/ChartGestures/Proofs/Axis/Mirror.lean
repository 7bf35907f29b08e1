import ChartGestures.Proofs.Axis.MarginPath
import ChartGestures.Proofs.Pane.Writes
import Mathlib.Data.List.Induction

/-!
# Observers mirror the axis

Every write says whether it changed what the axis shows, and what changed is published. The notifier holds changes back
while it is suspended and then hands on the last of each axis. So an observer that takes the last range it was given for
the range shown is right whenever no suspension is open, however the axis was written to and with whatever it follows.
-/

namespace ChartGestures

variable {α : Type} [Scalar α] [Decimals α]

/-! ### The last change of an axis -/

/-- What the changes tell last of an axis. -/
def lastRange? (id : String) (changes : List (RangeChange α)) : Option (Range α) :=
  (changes.reverse.find? (·.axisId == id)).map (·.range)

variable {id : String}

theorem lastRange?_append (earlier later : List (RangeChange α)) :
    lastRange? id (earlier ++ later) = (lastRange? id later).or (lastRange? id earlier) := by
  rw [lastRange?, List.reverse_append, List.find?_append, Option.map_or]
  rfl

theorem lastRange?_singleton (change : RangeChange α) :
    lastRange? id [change] = if change.axisId = id then some change.range else none := by
  by_cases h : change.axisId = id <;> simp [lastRange?, h]

theorem isSome_lastRange? {changes : List (RangeChange α)} (h : changes.any (·.axisId == id) = true) :
    (lastRange? id changes).isSome = true := by
  rw [lastRange?, Option.isSome_map, List.find?_isSome]
  obtain ⟨change, hmem, hid⟩ := List.any_eq_true.1 h
  exact ⟨change, List.mem_reverse.2 hmem, hid⟩

namespace Notifier

/-- A change that takes the place of an earlier one is as good as one that comes after it. -/
theorem lastRange?_queue (pending : List (RangeChange α)) (change : RangeChange α) :
    lastRange? id (queue pending change) = lastRange? id (pending ++ [change]) := by
  rw [queue]
  split
  · next hwaits =>
    let replace (earlier : RangeChange α) := if earlier.axisId == change.axisId then change else earlier
    have haxis (earlier : RangeChange α) : (replace earlier).axisId = earlier.axisId := by
      by_cases h : earlier.axisId = change.axisId
      · simp [replace, h]
      · simp [replace, h]
    have hfind : lastRange? id (pending.map replace) =
        (pending.reverse.find? (·.axisId == id)).map fun earlier => (replace earlier).range := by
      have hpred : ((fun c : RangeChange α => c.axisId == id) ∘ replace) = fun c => c.axisId == id := by
        funext earlier
        simp only [Function.comp_apply, haxis]
      rw [lastRange?, ← List.map_reverse, List.find?_map, hpred, Option.map_map]
      rfl
    refine hfind.trans ?_
    rw [lastRange?_append, lastRange?_singleton]
    by_cases hid : change.axisId = id
    · have hsome := isSome_lastRange? (hid ▸ hwaits)
      rw [lastRange?, Option.isSome_map] at hsome
      obtain ⟨found, hfound⟩ := Option.isSome_iff_exists.1 hsome
      have hname : found.axisId = id := by simpa using List.find?_some hfound
      rw [hfound, if_pos hid, Option.some_or, Option.map_some]
      simp [replace, hname, hid]
    · rw [if_neg hid, Option.none_or, lastRange?]
      cases hfound : pending.reverse.find? (·.axisId == id) with
      | none => rfl
      | some found =>
        have hname : found.axisId = id := by simpa using List.find?_some hfound
        simp [replace, hname, Ne.symm hid]
  · rfl

theorem lastRange?_latestPerAxis (changes : List (RangeChange α)) :
    lastRange? id (latestPerAxis changes) = lastRange? id changes := by
  induction changes using List.reverseRecOn with
  | nil => rfl
  | append_singleton changes change ih =>
    rw [← queue_latestPerAxis, lastRange?_queue, lastRange?_append, lastRange?_append, ih]

end Notifier

namespace NotifierCall

/-- The changes that calls notify of. -/
def notified (calls : List (NotifierCall α)) : List (RangeChange α) :=
  calls.filterMap fun
    | notify change => some change
    | _ => none

theorem notified_append (earlier later : List (NotifierCall α)) :
    notified (earlier ++ later) = notified earlier ++ notified later := List.filterMap_append ..

end NotifierCall

open NotifierCall (notified)

namespace SuspendedWindow

/-- Nothing waits without a suspension. -/
def IsSettled (w : SuspendedWindow α) : Prop := w.depth = 0 → w.changes = []

variable {w : SuspendedWindow α}

theorem isSettled_after (w : SuspendedWindow α) (call : NotifierCall α) : (w.after call).IsSettled := by
  cases call with
  | suspend => exact fun hzero => absurd hzero (Nat.succ_ne_zero _)
  | resume =>
    rw [after]
    split
    · exact fun _ => rfl
    · next hheld =>
      intro hzero
      change w.depth - 1 = 0 at hzero
      omega
  | notify change =>
    rw [after]
    split
    · exact fun _ => rfl
    · next hheld => exact fun hzero => absurd hzero hheld

theorem lastRange?_after (id : String) (h : w.IsSettled) (call : NotifierCall α) :
    lastRange? id ((w.batches call).flatten ++ (w.after call).changes) = lastRange? id (w.changes ++ notified [call]) := by
  cases call with
  | suspend =>
    rw [show notified [NotifierCall.suspend] = ([] : List (RangeChange α)) from rfl, List.append_nil]
    rfl
  | notify change =>
    rw [batches, after]
    by_cases hfree : w.depth = 0
    · rw [if_pos hfree, if_pos hfree, h hfree]
      rfl
    · rw [if_neg hfree, if_neg hfree]
      rfl
  | resume =>
    rw [show notified [NotifierCall.resume] = ([] : List (RangeChange α)) from rfl, List.append_nil,
      batches, after]
    by_cases hlast : w.depth ≤ 1
    · rw [if_pos hlast]
      by_cases hempty : w.changes = []
      · rw [if_neg fun hwindow => hwindow.2 hempty, hempty]
        rfl
      · have hone : w.depth = 1 := by
          have hpos : w.depth ≠ 0 := fun hzero => hempty (h hzero)
          omega
        rw [if_pos ⟨hone, hempty⟩, List.flatten_cons, List.flatten_nil, List.append_nil]
        exact (congrArg _ (List.append_nil _)).trans (Notifier.lastRange?_latestPerAxis _)
    · rw [if_neg hlast, if_neg fun hwindow => hlast (Nat.le_of_eq hwindow.1)]
      rfl

/-- Whatever was delivered or still waits tells of each axis what was last notified of it. -/
theorem lastRange?_afterAll (id : String) (h : w.IsSettled) (calls : List (NotifierCall α)) :
    lastRange? id ((w.allBatches calls).flatten ++ (w.afterAll calls).changes) =
      lastRange? id (w.changes ++ notified calls) := by
  induction calls generalizing w with
  | nil => exact congrArg _ (List.append_nil _).symm
  | cons call calls ih =>
    have hfirst := lastRange?_after id h call
    have hrest := ih (w.isSettled_after call)
    rw [show notified (call :: calls) = notified [call] ++ notified calls from NotifierCall.notified_append [call] calls]
    change lastRange? id (((w.batches call) ++ (w.after call).allBatches calls).flatten ++
      ((w.after call).afterAll calls).changes) = _
    rw [List.flatten_append, List.append_assoc, lastRange?_append, hrest, lastRange?_append, Option.or_assoc,
      ← lastRange?_append, hfirst, ← lastRange?_append, List.append_assoc]

end SuspendedWindow

/-! ### What an observer got -/

namespace Notifier

theorem iterate_receive_recorder (batch : List (RangeChange α)) (old : List (List (RangeChange α))) (k : Nat) :
    (Observer.receive batch)^[k] (.recorder old) = .recorder (old ++ List.replicate k batch) := by
  induction k with
  | zero => simp
  | succ k ih => rw [Function.iterate_succ_apply', ih, Observer.receive, List.replicate_succ', List.append_assoc]

theorem received_recorder (n : Notifier α) (batches : List (List (RangeChange α))) (id : ObserverId)
    (old : List (List (RangeChange α))) :
    n.received batches id (.recorder old) =
      .recorder (old ++ batches.flatMap (List.replicate (n.subscriptionsOf id))) := by
  rw [received]
  induction batches generalizing old with
  | nil => simp
  | cons batch rest ih =>
    rw [List.foldl_cons, iterate_receive_recorder, ih, List.flatMap_cons, List.append_assoc]

/-- Copies of a batch tell nothing new. -/
theorem lastRange?_copies {k : Nat} (hk : 0 < k) (batches : List (List (RangeChange α))) :
    lastRange? id (batches.flatMap (List.replicate k)).flatten = lastRange? id batches.flatten := by
  have hcopies (batch : List (RangeChange α)) (k : Nat) :
      lastRange? id (List.replicate (k + 1) batch).flatten = lastRange? id batch := by
    induction k with
    | zero => simp
    | succ k ih => rw [List.replicate_succ, List.flatten_cons, lastRange?_append, ih, Option.or_self]
  obtain ⟨k, rfl⟩ := Nat.exists_eq_add_one_of_ne_zero (Nat.ne_of_gt hk)
  induction batches with
  | nil => rfl
  | cons batch rest ih =>
    rw [List.flatMap_cons, List.flatten_append, List.flatten_cons, lastRange?_append, lastRange?_append, ih, hcopies]

end Notifier

/-! ### Writes -/

namespace ChartAxis

variable {a : ChartAxis α}

/-- The write keeps the name of the axis, and what is not published is not seen. -/
structure IsTold (a : ChartAxis α) (w : AxisWrite α) : Prop where
  id : w.axis.id = a.id
  shown : w.changed = false → w.axis.visibleRange = a.visibleRange

theorem isTold_unchanged (a : ChartAxis α) : a.IsTold a.unchanged := ⟨rfl, fun _ => rfl⟩

theorem isTold_setVisible (a : ChartAxis α) (r : Range α) : a.IsTold (a.setVisible r) := by
  refine ⟨id_setVisible a r, ?_⟩
  unfold setVisible
  dsimp only
  repeat' split
  · exact fun hchanged => nomatch hchanged
  · exact fun _ => rfl
  · exact fun _ => rfl
  · exact fun hchanged => nomatch hchanged

/-- Data and margin of an axis that does not follow its data are not seen. -/
theorem isTold_of_visible {b : ChartAxis α} (hid : b.id = a.id) (hauto : b.autoRange = a.autoRange)
    (hvisible : b.visible = a.visible) : a.IsTold ⟨b, a.autoRange == .always⟩ := by
  refine ⟨hid, fun hquiet => ?_⟩
  have hnever : a.autoRange ≠ .always := by
    intro h
    rw [h] at hquiet
    cases hquiet
  rw [visibleRange, visibleRange, hauto, if_neg hnever, if_neg hnever]
  exact hvisible

theorem isTold_setMargin (a : ChartAxis α) (margin : GrowMargin α) : a.IsTold (a.setMargin margin) :=
  isTold_of_visible rfl rfl rfl

theorem isTold_setData (a : ChartAxis α) (data : Range α) : a.IsTold (a.setData data) :=
  isTold_of_visible rfl rfl rfl

theorem isTold_applyRange (a : ChartAxis α) (r : Range α) : a.IsTold (a.applyRange r) := by
  unfold applyRange
  split
  · split
    · exact a.isTold_setMargin _
    · exact a.isTold_unchanged
  · exact a.isTold_setVisible r

theorem isTold_animateTo (a : ChartAxis α) (r : Range α) (nanos : Nat) : a.IsTold (a.animateTo r nanos) := by
  have hwritten := isTold_setVisible (if nanos = 0 then a else { a with lastAnimation := some (r, nanos) }) r
  refine ⟨hwritten.id.trans ?_, fun hquiet => (hwritten.shown hquiet).trans ?_⟩
  · split <;> rfl
  · split <;> rfl

theorem isTold_call (a : ChartAxis α) (c : AxisCall α) : a.IsTold (a.call c) := by
  cases c with
  | setVisible r => exact a.isTold_setVisible r
  | applyRange r => exact a.isTold_applyRange r
  | zoomBy minFraction maxFraction => exact a.isTold_applyRange _
  | scroll pixels mode => exact a.isTold_applyRange _
  | zoomToExtents nanos =>
    change a.IsTold (a.zoomToExtents nanos)
    unfold zoomToExtents
    split
    · exact a.isTold_animateTo a.data nanos
    · exact a.isTold_unchanged

end ChartAxis

/-! ### Runs -/

/-- What may happen to an axis and to the notifier that it publishes to. -/
inductive AxisEvent (α : Type) [Scalar α] [Decimals α] where
  | call (c : AxisCall α)
  | animate (r : Range α) (nanos : Nat)
  | setMargin (margin : GrowMargin α)
  | setData (data : Range α)
  | setBounds (bounds : Rect α)
  | suspend
  | resume
  /-- A change of another axis. -/
  | other (change : RangeChange α)

/-- No event is a change of an axis of the same name. -/
def AxisEvent.spares (id : String) : AxisEvent α → Bool
  | other change => change.axisId != id
  | _ => true

structure ObservedAxis (α : Type) [Scalar α] [Decimals α] where
  axis : ChartAxis α
  notifier : Notifier α

namespace ObservedAxis

/-- The axis is written to, and publishes what changed. -/
def write (s : ObservedAxis α) (w : AxisWrite α) : ObservedAxis α := ⟨w.axis, w.publish s.notifier⟩

def step (s : ObservedAxis α) : AxisEvent α → ObservedAxis α
  | .call c => s.write (s.axis.call c)
  | .animate r nanos => s.write (s.axis.animateTo r nanos)
  | .setMargin margin => s.write (s.axis.setMargin margin)
  | .setData data => s.write (s.axis.setData data)
  | .setBounds bounds => { s with axis := { s.axis with bounds } }
  | .suspend => { s with notifier := s.notifier.suspend }
  | .resume => { s with notifier := s.notifier.resume }
  | .other change => { s with notifier := s.notifier.notify change }

def run (s : ObservedAxis α) (events : List (AxisEvent α)) : ObservedAxis α := events.foldl step s

/-- On the way from `s` to `s'` the notifier got the calls, and they tell what the axis came to show. -/
structure Tells (s s' : ObservedAxis α) (calls : List (NotifierCall α)) : Prop where
  id : s'.axis.id = s.axis.id
  notifier : s'.notifier = s.notifier.run calls
  shown : (lastRange? s.axis.id (notified calls)).getD s.axis.visibleRange = s'.axis.visibleRange

variable {s s' s'' : ObservedAxis α}

theorem Tells.trans {calls later : List (NotifierCall α)} (h : Tells s s' calls) (h' : Tells s' s'' later) :
    Tells s s'' (calls ++ later) where
  id := h'.id.trans h.id
  notifier := by
    rw [h'.notifier, h.notifier]
    exact List.foldl_append.symm
  shown := by
    have hlater := h'.shown
    rw [h.id, ← h.shown] at hlater
    rw [NotifierCall.notified_append, lastRange?_append, ← hlater]
    cases lastRange? s.axis.id (notified later) <;> rfl

theorem tells_write {w : AxisWrite α} (h : s.axis.IsTold w) : ∃ calls, Tells s (s.write w) calls := by
  cases hchanged : w.changed with
  | true =>
    refine ⟨[.notify ⟨w.axis.id, w.axis.visibleRange⟩], h.id, ?_, ?_⟩
    · rw [write, AxisWrite.publish, hchanged, if_pos rfl]
      rfl
    · change (lastRange? s.axis.id [⟨w.axis.id, w.axis.visibleRange⟩]).getD _ = _
      rw [lastRange?_singleton, if_pos h.id]
      rfl
  | false =>
    refine ⟨[], h.id, ?_, (h.shown hchanged).symm⟩
    rw [write, AxisWrite.publish, hchanged, if_neg Bool.false_ne_true]
    rfl

theorem tells_step {e : AxisEvent α} (he : e.spares s.axis.id = true) : ∃ calls, Tells s (s.step e) calls := by
  cases e with
  | call c => exact tells_write (s.axis.isTold_call c)
  | animate r nanos => exact tells_write (s.axis.isTold_animateTo r nanos)
  | setMargin margin => exact tells_write (s.axis.isTold_setMargin margin)
  | setData data => exact tells_write (s.axis.isTold_setData data)
  | setBounds bounds => exact ⟨[], rfl, rfl, rfl⟩
  | suspend => exact ⟨[.suspend], rfl, rfl, rfl⟩
  | resume => exact ⟨[.resume], rfl, rfl, rfl⟩
  | other change =>
    refine ⟨[.notify change], rfl, rfl, ?_⟩
    change (lastRange? s.axis.id [change]).getD _ = _
    rw [lastRange?_singleton, if_neg (bne_iff_ne.1 he)]
    rfl

theorem tells_run {events : List (AxisEvent α)} (hevents : ∀ e ∈ events, e.spares s.axis.id = true) :
    ∃ calls, Tells s (s.run events) calls := by
  induction events generalizing s with
  | nil => exact ⟨[], rfl, rfl, rfl⟩
  | cons e rest ih =>
    obtain ⟨calls, hcalls⟩ := tells_step (hevents e List.mem_cons_self)
    obtain ⟨later, hlater⟩ := ih (s := s.step e) fun e he => hcalls.id ▸ hevents e (List.mem_cons_of_mem _ he)
    exact ⟨calls ++ later, hcalls.trans hlater⟩

/-- Whatever is done to an axis of any kind, and however deliveries are suspended meanwhile, whenever no suspension is
open an observer was told if the axis shows something else than at first, and what it was told last is what the axis
shows. -/
theorem observer_mirrors_axis {s : ObservedAxis α} (hdepth : s.notifier.depth = 0) (hpending : s.notifier.pending = [])
    {recorder : Nat} {old : List (List (RangeChange α))}
    (hlives : s.notifier.observers.lookup (.recorder recorder) = some (.recorder old))
    (hsubscribed : 0 < s.notifier.subscriptionsOf (.recorder recorder)) {events : List (AxisEvent α)}
    (hevents : ∀ e ∈ events, e.spares s.axis.id = true) :
    let t := s.run events
    ∃ batches, t.notifier.observers.lookup (.recorder recorder) = some (.recorder (old ++ batches)) ∧
      (t.notifier.depth = 0 →
        (t.axis.visibleRange ≠ s.axis.visibleRange → ∃ r, lastRange? s.axis.id batches.flatten = some r) ∧
        ∀ r, lastRange? s.axis.id batches.flatten = some r → r = t.axis.visibleRange) := by
  intro t
  obtain ⟨calls, htells⟩ : ∃ calls, Tells s t calls := tells_run hevents
  have hsettled : SuspendedWindow.closed.IsSettled (α := α) := fun _ => rfl
  obtain ⟨htracks, hdelivered⟩ := Notifier.Tracks.run (w := .closed) ⟨hdepth, hpending, hsettled⟩ calls
  rw [← htells.notifier] at htracks hdelivered
  refine ⟨(SuspendedWindow.closed.allBatches calls).flatMap
    (List.replicate (s.notifier.subscriptionsOf (.recorder recorder))), ?_, fun hfree => ?_⟩
  · rw [hdelivered.observers, Notifier.lookup_map, hlives, Option.map_some, Notifier.received_recorder]
  · have hclosed := htracks.free (htracks.depth.symm.trans hfree)
    have hlast := SuspendedWindow.lastRange?_afterAll s.axis.id hsettled calls
    rw [hclosed, List.append_nil] at hlast
    have hmirror := htells.shown
    rw [show notified calls = SuspendedWindow.closed.changes ++ notified calls from rfl, ← hlast] at hmirror
    rw [Notifier.lastRange?_copies hsubscribed]
    refine ⟨fun hmoved => ?_, fun r hr => ?_⟩
    · cases htold : lastRange? s.axis.id (SuspendedWindow.closed.allBatches calls).flatten with
      | none =>
        rw [htold] at hmirror
        exact absurd hmirror.symm hmoved
      | some r => exact ⟨r, rfl⟩
    · rw [hr] at hmirror
      exact hmirror

/-- An axis that follows its data, written to through its margin in one suspension and moved by new data after it. -/
theorem observer_mirrors_axis_following :
    let observed : Notifier Float := ((Notifier.empty.addObserver (.recorder 0) (.recorder [])).subscribe (.recorder 0)).1
    let s : ObservedAxis Float := ⟨{ ChartAxis.new "x" true (.double (.new 0 100)) with autoRange := .always }, observed⟩
    let events : List (AxisEvent Float) :=
      [.suspend, .call (.zoomBy 0.5 0.5), .other ⟨"y", .double (.new 0 1)⟩, .call (.setVisible (.double (.new 10 60))),
        .resume, .setBounds ⟨0, 0, 200, 20⟩, .setData (.double (.new 0 200))]
    let t := s.run events
    (s.notifier.depth = 0 ∧ s.notifier.pending = [] ∧ 0 < s.notifier.subscriptionsOf (.recorder 0) ∧
        ∀ e ∈ events, e.spares s.axis.id = true) ∧
      t.axis.visibleRange ≠ s.axis.visibleRange ∧
      ∃ batches, t.notifier.observers.lookup (.recorder 0) = some (.recorder ([] ++ batches)) ∧
        ∃ r, lastRange? s.axis.id batches.flatten = some r ∧ r = t.axis.visibleRange := by
  intro observed s events t
  have hsubscribed : 0 < s.notifier.subscriptionsOf (.recorder 0) := by decide
  have hevents : ∀ e ∈ events, e.spares s.axis.id = true := by decide
  have hmoved : t.axis.visibleRange ≠ s.axis.visibleRange := by
    intro hsame
    have hbounds := congrArg (fun r : Range Float => Scalar.toRat? r.preciseBounds.1) hsame
    revert hbounds
    decide +kernel
  have hfree : t.notifier.depth = 0 := by decide +kernel
  have hlives : s.notifier.observers.lookup (.recorder 0) = some (.recorder []) := rfl
  obtain ⟨batches, hbatches, htold⟩ := observer_mirrors_axis rfl rfl hlives hsubscribed hevents
  obtain ⟨r, hr⟩ := (htold hfree).1 hmoved
  exact ⟨⟨rfl, rfl, hsubscribed, hevents⟩, hmoved, batches, hbatches, r, hr, (htold hfree).2 r hr⟩

end ObservedAxis

end ChartGestures
