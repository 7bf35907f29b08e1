import ChartGestures.Number.ExactDecimal
import ChartGestures.Pane.Notifier
import Mathlib.Data.List.Basic
import Mathlib.Logic.Function.Iterate

/-!
# What a notifier delivers

A run of suspensions, resumptions and notifications is read as a list of batches: a free notification is a batch of its
own, and a window of suspended ones becomes, when it closes, the latest change of each of its axes. `Delivered` says
that every observer got given batches, once for each of its subscriptions, and that they were counted. The notifier
keeps its waiting changes consolidated as they come in; the reading consolidates a whole window at once.
-/

namespace ChartGestures

variable {α : Type} [Scalar α] [Decimals α]

namespace Notifier

/-! ### Consolidation -/

/-- Each axis once, in the order of the first changes, with its last change. -/
def latestPerAxis (changes : List (RangeChange α)) : List (RangeChange α) :=
  (changes.map (·.axisId)).eraseDups.filterMap fun id => changes.reverse.find? (·.axisId == id)

theorem find?_axisId_isSome {changes : List (RangeChange α)} {id : String} (hid : id ∈ changes.map (·.axisId)) :
    ∃ change, changes.reverse.find? (·.axisId == id) = some change ∧ change.axisId = id := by
  obtain ⟨change, hmem, rfl⟩ := List.mem_map.1 hid
  cases hfound : changes.reverse.find? (·.axisId == change.axisId) with
  | none =>
    have habsent := List.find?_eq_none.1 hfound change (List.mem_reverse.2 hmem)
    simp at habsent
  | some found => exact ⟨found, rfl, by simpa using List.find?_some hfound⟩

theorem map_axisId_latestPerAxis (changes : List (RangeChange α)) :
    (latestPerAxis changes).map (·.axisId) = (changes.map (·.axisId)).eraseDups := by
  rw [latestPerAxis, List.map_filterMap]
  calc
    _ = (changes.map (·.axisId)).eraseDups.filterMap some := by
      refine List.filterMap_congr fun id hid => ?_
      obtain ⟨change, hfound, haxis⟩ := find?_axisId_isSome (List.mem_eraseDups.1 hid)
      rw [hfound, Option.map_some, haxis]
    _ = _ := List.filterMap_some

theorem latestPerAxis_eq_nil {changes : List (RangeChange α)} : latestPerAxis changes = [] ↔ changes = [] := by
  constructor
  · intro h
    have hids := map_axisId_latestPerAxis changes
    rw [h] at hids
    cases changes with
    | nil => rfl
    | cons change rest =>
      rw [List.map_cons, List.eraseDups_cons] at hids
      cases hids
  · rintro rfl
    rfl

/-- A change is the latest of its axis, and leaves the latest of every other axis as it is. -/
theorem find?_reverse_append (changes : List (RangeChange α)) (change : RangeChange α) (id : String) :
    (changes ++ [change]).reverse.find? (·.axisId == id) =
      if change.axisId = id then some change else changes.reverse.find? (·.axisId == id) := by
  rw [List.reverse_append, List.reverse_singleton, List.singleton_append, List.find?_cons]
  by_cases h : change.axisId = id
  · simp [h]
  · simp [h, beq_eq_false_iff_ne.2 h]

theorem latestPerAxis_append (changes : List (RangeChange α)) (change : RangeChange α) :
    latestPerAxis (changes ++ [change]) =
      ((changes.map (·.axisId)).eraseDups ++ if change.axisId ∈ changes.map (·.axisId) then [] else [change.axisId]).filterMap
        fun id => if change.axisId = id then some change else changes.reverse.find? (·.axisId == id) := by
  rw [latestPerAxis, List.map_append, List.eraseDups_append]
  simp only [find?_reverse_append]
  congr 2
  generalize changes.map (·.axisId) = ids
  by_cases h : change.axisId ∈ ids
  · simp [h, List.removeAll]
  · simp [h, List.removeAll, List.eraseDups_cons]

theorem any_latestPerAxis (changes : List (RangeChange α)) (id : String) :
    (latestPerAxis changes).any (·.axisId == id) = true ↔ id ∈ changes.map (·.axisId) := by
  rw [← List.mem_eraseDups, ← map_axisId_latestPerAxis]
  simp

/-- Queueing change by change consolidates the window so far. -/
theorem queue_latestPerAxis (changes : List (RangeChange α)) (change : RangeChange α) :
    queue (latestPerAxis changes) change = latestPerAxis (changes ++ [change]) := by
  rw [latestPerAxis_append, queue]
  by_cases hwaits : change.axisId ∈ changes.map (·.axisId)
  · -- the axis has a place already, and the change takes it
    rw [if_pos ((any_latestPerAxis changes _).2 hwaits), if_pos hwaits, List.append_nil, latestPerAxis,
      List.map_filterMap]
    refine List.filterMap_congr fun id hid => ?_
    obtain ⟨found, hfound, haxis⟩ := find?_axisId_isSome (List.mem_eraseDups.1 hid)
    rw [hfound, Option.map_some]
    by_cases h : change.axisId = id
    · simp [h, haxis]
    · simp [h, haxis, Ne.symm h]
  · rw [if_neg (mt (any_latestPerAxis changes _).1 hwaits), if_neg hwaits, List.filterMap_append]
    congr 1
    · refine List.filterMap_congr fun id hid => ?_
      have hne : change.axisId ≠ id := fun heq => hwaits (heq ▸ List.mem_eraseDups.1 hid)
      rw [if_neg hne]
    · simp

/-! ### Batches at the observers -/

/-- How often an observer is subscribed. -/
def subscriptionsOf (n : Notifier α) (id : ObserverId) : Nat := n.subscriptions.countP (·.2 = id)

/-- An observer after batches, each received as often as the observer is subscribed. -/
def received (n : Notifier α) (batches : List (List (RangeChange α))) (id : ObserverId) (o : Observer α) : Observer α :=
  batches.foldl (fun o batch => (Observer.receive batch)^[n.subscriptionsOf id] o) o

/-- From `n` to `n'` exactly the given batches were handed over. -/
structure Delivered (n n' : Notifier α) (batches : List (List (RangeChange α))) : Prop where
  observers : n'.observers = n.observers.map fun entry => (entry.1, n.received batches entry.1 entry.2)
  deliveries : n'.deliveries = n.deliveries + batches.length
  subscriptions : ∀ id, n.isLive id → n'.subscriptionsOf id = n.subscriptionsOf id

theorem isLive_eq_true {n : Notifier α} {id : ObserverId} : n.isLive id = true ↔ id ∈ n.observers.map (·.1) := by
  rw [isLive, List.lookup_isSome_iff, List.mem_map]
  exact exists_congr fun entry => and_congr_right fun _ => by rw [beq_iff_eq, eq_comm]

theorem Delivered.isLive {n n' : Notifier α} {batches : List (List (RangeChange α))} (h : Delivered n n' batches)
    (id : ObserverId) : n'.isLive id = n.isLive id := by
  rw [Bool.eq_iff_iff, isLive_eq_true, isLive_eq_true, h.observers, List.map_map]
  rfl

/-- Calls that touch neither observers nor subscriptions hand nothing over. -/
theorem Delivered.quiet {n n' : Notifier α} (hobservers : n'.observers = n.observers)
    (hsubscriptions : n'.subscriptions = n.subscriptions) (hdeliveries : n'.deliveries = n.deliveries) :
    Delivered n n' [] where
  observers := by simp [hobservers, received]
  deliveries := by simp [hdeliveries]
  subscriptions id _ := by rw [subscriptionsOf, hsubscriptions, subscriptionsOf]

theorem Delivered.append {n n₁ n₂ : Notifier α} {earlier later : List (List (RangeChange α))}
    (h₁ : Delivered n n₁ earlier) (h₂ : Delivered n₁ n₂ later) : Delivered n n₂ (earlier ++ later) where
  observers := by
    rw [h₂.observers, h₁.observers, List.map_map]
    refine List.map_congr_left fun entry hentry => ?_
    have hlive : n.isLive entry.1 = true := isLive_eq_true.2 (List.mem_map_of_mem hentry)
    simp only [Function.comp_apply, received, h₁.subscriptions entry.1 hlive, List.foldl_append]
  deliveries := by rw [h₂.deliveries, h₁.deliveries, List.length_append, Nat.add_assoc]
  subscriptions id hlive := by rw [h₂.subscriptions id (h₁.isLive id ▸ hlive), h₁.subscriptions id hlive]

theorem foldl_handOver (subscriptions : List (SubscriptionId × ObserverId)) (n : Notifier α)
    (batch : List (RangeChange α)) :
    subscriptions.foldl (fun n entry => n.handOver entry batch) n =
      { n with
        observers := n.observers.map fun entry =>
          (entry.1, (Observer.receive batch)^[subscriptions.countP (·.2 = entry.1)] entry.2)
        handed := n.handed ++ subscriptions.map fun entry => (entry, batch) } := by
  induction subscriptions generalizing n with
  | nil => simp
  | cons subscription rest ih =>
    rw [List.foldl_cons, ih]
    simp only [handOver, updateObserver, List.map_map, List.countP_cons, List.map_cons, List.append_assoc,
      List.singleton_append]
    congr 1
    refine List.map_congr_left fun entry _ => ?_
    by_cases h : subscription.2 = entry.1
    · simp [h]
    · simp [h, Ne.symm h]

theorem subscriptionsOf_prune {n : Notifier α} {id : ObserverId} (hlive : n.isLive id) :
    n.prune.subscriptionsOf id = n.subscriptionsOf id := by
  simp only [subscriptionsOf, prune, List.countP_filter]
  refine List.countP_congr fun entry _ => ?_
  by_cases h : entry.2 = id
  · simp [h, hlive]
  · simp [h]

theorem delivered_deliver (n : Notifier α) (batch : List (RangeChange α)) : Delivered n (n.deliver batch) [batch] := by
  rw [deliver, foldl_handOver]
  refine ⟨List.map_congr_left fun entry hentry => ?_, rfl, fun id hlive => subscriptionsOf_prune hlive⟩
  have hlive : n.isLive entry.1 = true := isLive_eq_true.2 (List.mem_map_of_mem hentry)
  rw [received, ← subscriptionsOf_prune hlive]
  rfl

/-! ### Runs -/

end Notifier

inductive NotifierCall (α : Type) [Scalar α] [Decimals α] where
  | suspend
  | resume
  | notify (change : RangeChange α)

/-- The suspensions that are open, and what was notified since the first of them. -/
structure SuspendedWindow (α : Type) [Scalar α] [Decimals α] where
  depth : Nat
  changes : List (RangeChange α)

namespace SuspendedWindow

def closed : SuspendedWindow α := ⟨0, []⟩

def after (w : SuspendedWindow α) : NotifierCall α → SuspendedWindow α
  | .suspend => { w with depth := w.depth + 1 }
  | .resume => if w.depth ≤ 1 then closed else { w with depth := w.depth - 1 }
  | .notify change => if w.depth = 0 then closed else { w with changes := w.changes ++ [change] }

/-- What a call hands over: a free notification by itself, and the window that it closes unless nothing happened in it. -/
def batches (w : SuspendedWindow α) : NotifierCall α → List (List (RangeChange α))
  | .suspend => []
  | .resume => if w.depth = 1 ∧ w.changes ≠ [] then [Notifier.latestPerAxis w.changes] else []
  | .notify change => if w.depth = 0 then [[change]] else []

def afterAll (w : SuspendedWindow α) (calls : List (NotifierCall α)) : SuspendedWindow α := calls.foldl after w

def allBatches (w : SuspendedWindow α) : List (NotifierCall α) → List (List (RangeChange α))
  | [] => []
  | call :: calls => w.batches call ++ (w.after call).allBatches calls

end SuspendedWindow

namespace Notifier

def apply (n : Notifier α) : NotifierCall α → Notifier α
  | .suspend => n.suspend
  | .resume => n.resume
  | .notify change => n.notify change

def run (n : Notifier α) (calls : List (NotifierCall α)) : Notifier α := calls.foldl apply n

/-- A notifier keeps its window consolidated, and nothing waits while no suspension is open. -/
structure Tracks (n : Notifier α) (w : SuspendedWindow α) : Prop where
  depth : n.depth = w.depth
  pending : n.pending = latestPerAxis w.changes
  free : w.depth = 0 → w.changes = []

theorem depth_deliver (n : Notifier α) (batch : List (RangeChange α)) : (n.deliver batch).depth = n.depth := by
  rw [deliver, foldl_handOver]
  rfl

theorem pending_deliver (n : Notifier α) (batch : List (RangeChange α)) : (n.deliver batch).pending = n.pending := by
  rw [deliver, foldl_handOver]
  rfl

theorem resume_of_depth_zero {n : Notifier α} (h : n.depth = 0) : n.resume = n := by
  rw [resume, h]

/-- Closing a window hands over what waits in it. -/
theorem resume_of_depth_one {n : Notifier α} (h : n.depth = 1) :
    n.resume = if n.pending = [] then { n with depth := 0 }
      else { n with depth := 0, pending := [] }.deliver n.pending := by
  rw [resume, h]
  simp

theorem resume_of_depth_succ {n : Notifier α} {depth : Nat} (h : n.depth = depth + 2) :
    n.resume = { n with depth := depth + 1 } := by
  rw [resume, h]
  simp

theorem Tracks.apply {n : Notifier α} {w : SuspendedWindow α} (h : Tracks n w) (call : NotifierCall α) :
    Tracks (n.apply call) (w.after call) := by
  cases call with
  | suspend => exact ⟨congrArg (· + 1) h.depth, h.pending, fun hzero => absurd hzero (Nat.succ_ne_zero _)⟩
  | notify change =>
    rw [Notifier.apply, notify, SuspendedWindow.after, h.depth]
    by_cases hfree : w.depth = 0
    · rw [if_neg (by omega), if_pos hfree]
      refine ⟨?_, ?_, fun _ => rfl⟩
      · rw [depth_deliver, h.depth, hfree]
        rfl
      · rw [pending_deliver, h.pending, h.free hfree]
        rfl
    · rw [if_pos (by omega), if_neg hfree]
      refine ⟨rfl, ?_, fun hzero => absurd hzero hfree⟩
      change queue n.pending change = _
      rw [h.pending, queue_latestPerAxis]
  | resume =>
    rw [Notifier.apply, SuspendedWindow.after]
    obtain hdepth | hdepth | ⟨depth, hdepth⟩ : n.depth = 0 ∨ n.depth = 1 ∨ ∃ depth, n.depth = depth + 2 := by
      rcases n.depth with _ | _ | depth
      · exact .inl rfl
      · exact .inr (.inl rfl)
      · exact .inr (.inr ⟨depth, rfl⟩)
    · rw [resume_of_depth_zero hdepth, if_pos (by rw [← h.depth, hdepth]; omega)]
      have hfree : w.depth = 0 := h.depth ▸ hdepth
      refine ⟨hdepth, ?_, fun _ => rfl⟩
      rw [h.pending, h.free hfree]
      rfl
    · rw [resume_of_depth_one hdepth, if_pos (show w.depth ≤ 1 from Nat.le_of_eq (h.depth ▸ hdepth))]
      split
      · next hempty => exact ⟨rfl, hempty, fun _ => rfl⟩
      · refine ⟨?_, ?_, fun _ => rfl⟩
        · rw [depth_deliver]
          rfl
        · rw [pending_deliver]
          rfl
    · rw [resume_of_depth_succ hdepth, if_neg (by rw [← h.depth, hdepth]; omega)]
      refine ⟨?_, h.pending, fun hzero => ?_⟩
      · change depth + 1 = w.depth - 1
        rw [← h.depth, hdepth]
        rfl
      · change w.depth - 1 = 0 at hzero
        rw [← h.depth, hdepth] at hzero
        omega

/-- A call hands over what the window says. -/
theorem Tracks.delivered {n : Notifier α} {w : SuspendedWindow α} (h : Tracks n w) (call : NotifierCall α) :
    Delivered n (n.apply call) (w.batches call) := by
  cases call with
  | suspend => exact .quiet rfl rfl rfl
  | notify change =>
    rw [Notifier.apply, notify, SuspendedWindow.batches, h.depth]
    by_cases hfree : w.depth = 0
    · rw [if_neg (by omega), if_pos hfree]
      exact delivered_deliver n [change]
    · rw [if_pos (by omega), if_neg hfree]
      exact .quiet rfl rfl rfl
  | resume =>
    rw [Notifier.apply, SuspendedWindow.batches, ← h.depth]
    obtain hdepth | hdepth | ⟨depth, hdepth⟩ : n.depth = 0 ∨ n.depth = 1 ∨ ∃ depth, n.depth = depth + 2 := by
      rcases n.depth with _ | _ | depth
      · exact .inl rfl
      · exact .inr (.inl rfl)
      · exact .inr (.inr ⟨depth, rfl⟩)
    · rw [resume_of_depth_zero hdepth, if_neg (by omega)]
      exact .quiet rfl rfl rfl
    · rw [resume_of_depth_one hdepth, h.pending]
      by_cases hempty : w.changes = []
      · rw [if_pos (latestPerAxis_eq_nil.2 hempty), if_neg (fun hwindow => hwindow.2 hempty)]
        exact .quiet rfl rfl rfl
      · rw [if_neg (mt latestPerAxis_eq_nil.1 hempty), if_pos ⟨hdepth, hempty⟩]
        -- the window closes before its batch goes out
        have hclosed : Delivered n { n with depth := 0, pending := [] } [] := .quiet rfl rfl rfl
        exact hclosed.append (delivered_deliver _ _)
    · rw [resume_of_depth_succ hdepth, if_neg (by omega)]
      exact .quiet rfl rfl rfl

theorem Tracks.run {n : Notifier α} {w : SuspendedWindow α} (h : Tracks n w) (calls : List (NotifierCall α)) :
    Tracks (n.run calls) (w.afterAll calls) ∧ Delivered n (n.run calls) (w.allBatches calls) := by
  induction calls generalizing n w with
  | nil => exact ⟨h, .quiet rfl rfl rfl⟩
  | cons call calls ih =>
    obtain ⟨htracks, hdelivered⟩ := ih (h.apply call)
    exact ⟨htracks, (h.delivered call).append hdelivered⟩

/-- Over any run, free notifications go out at once, each by itself, nothing goes out while a suspension is open, and the
end of the last suspension hands over the latest change of each axis that was notified, if any was; further ends of
suspensions change nothing. -/
theorem run_delivers {n : Notifier α} (hdepth : n.depth = 0) (hpending : n.pending = [])
    (calls : List (NotifierCall α)) :
    let w := SuspendedWindow.closed.afterAll calls
    let s := n.run calls
    Delivered n s (SuspendedWindow.closed.allBatches calls) ∧ s.depth = w.depth ∧
      Delivered s s.suspend [] ∧
      (w.depth = 0 → s.resume = s ∧ ∀ change, Delivered s (s.notify change) [[change]]) ∧
      (0 < w.depth → ∀ change, Delivered s (s.notify change) []) ∧
      (w.depth = 1 → Delivered s s.resume (if w.changes = [] then [] else [latestPerAxis w.changes])) ∧
      (1 < w.depth → Delivered s s.resume []) := by
  intro w s
  obtain ⟨htracks, hdelivered⟩ : Tracks s w ∧ Delivered n s _ :=
    Tracks.run (w := .closed) ⟨hdepth, hpending, fun _ => rfl⟩ calls
  refine ⟨hdelivered, htracks.depth, htracks.delivered .suspend, fun hfree => ⟨?_, fun change => ?_⟩,
    fun hheld change => ?_, fun hlast => ?_, fun hheld => ?_⟩
  · exact resume_of_depth_zero (htracks.depth.trans hfree)
  · have hcall : Delivered s (s.notify change) _ := htracks.delivered (.notify change)
    rwa [SuspendedWindow.batches, if_pos hfree] at hcall
  · have hcall : Delivered s (s.notify change) _ := htracks.delivered (.notify change)
    rwa [SuspendedWindow.batches, if_neg (Nat.ne_of_gt hheld)] at hcall
  · have hcall : Delivered s s.resume _ := htracks.delivered .resume
    rw [SuspendedWindow.batches] at hcall
    by_cases hempty : w.changes = []
    · rw [if_pos hempty]
      rwa [if_neg (fun hwindow => hwindow.2 hempty)] at hcall
    · rw [if_neg hempty]
      rwa [if_pos ⟨hlast, hempty⟩] at hcall
  · have hcall : Delivered s s.resume _ := htracks.delivered .resume
    rwa [SuspendedWindow.batches, if_neg (fun hwindow => Nat.ne_of_gt hheld hwindow.1)] at hcall

/-- A recorder that subscribed twice gets the free notification and the closed window, each two times. -/
theorem run_delivers_recorded :
    let subscribed (n : Notifier Float) : Notifier Float := (n.subscribe (.recorder 0)).1
    let n := subscribed (subscribed (empty.addObserver (.recorder 0) (.recorder [])))
    let x (max : Int32) : RangeChange Float := ⟨"x", .index (.new 0 max)⟩
    let y : RangeChange Float := ⟨"y", .index (.new 0 9)⟩
    let s := n.run [.notify (x 1), .suspend, .notify (x 2), .notify y, .suspend, .resume, .notify (x 4), .resume, .resume]
    n.depth = 0 ∧ n.pending = [] ∧
      s.observers = [(.recorder 0, .recorder [[x 1], [x 1], [x 4, y], [x 4, y]])] ∧ s.deliveries = 2 := by
  intro subscribed n x y s
  have hdelivered : Delivered n s [[x 1], [x 4, y]] := (run_delivers rfl rfl _).1
  exact ⟨rfl, rfl, hdelivered.observers, hdelivered.deliveries⟩

end Notifier

end ChartGestures
