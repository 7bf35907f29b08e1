import ChartGestures.Proofs.Pane.Subscriptions

/-!
# The accounts of a notifier

Subscriptions come and go by their numbers, with their guards and with their observers, and those of dead observers are
forgotten only when a notifier counts or delivers. Read from the calls alone, a subscription stands until a later call
ends it. However the calls interleave, and whatever waits in a suspension meanwhile, the subscriptions that stand are
the ones counted and the ones handed each batch.
-/

namespace ChartGestures

variable {α : Type} [Scalar α] [Decimals α]

/-! ### Calls -/

/-- What is done at a notifier, and to the observers that may subscribe. -/
inductive RegistryCall (α : Type) [Scalar α] [Decimals α] where
  /-- An observer comes to life. -/
  | observe (id : ObserverId) (o : Observer α)
  | subscribe (id : ObserverId)
  | unsubscribe (number : SubscriptionId)
  | dropGuard (number : SubscriptionId)
  | dropObserver (id : ObserverId)
  | count
  | notifier (call : NotifierCall α)

namespace RegistryCall

/-- The subscription that a call makes under the next number. -/
def made (next : SubscriptionId) : RegistryCall α → List (SubscriptionId × ObserverId)
  | .subscribe id => [(next, id)]
  | _ => []

/-- Whether a call ends an earlier subscription. -/
def ends (entry : SubscriptionId × ObserverId) : RegistryCall α → Bool
  | .unsubscribe number | .dropGuard number => entry.1 = number
  | .dropObserver id => entry.2 = id
  | _ => false

/-- The subscriptions that calls make and no later one of them ends, in their order. -/
def standing (next : SubscriptionId) : List (RegistryCall α) → List (SubscriptionId × ObserverId)
  | [] => []
  | call :: later =>
    (call.made next).filter (fun entry => !later.any (·.ends entry)) ++ standing (next + (call.made next).length) later

theorem le_of_mem_standing {calls : List (RegistryCall α)} {next : SubscriptionId} {entry : SubscriptionId × ObserverId}
    (h : entry ∈ standing next calls) : next ≤ entry.1 := by
  induction calls generalizing next with
  | nil => cases h
  | cons call later ih =>
    rcases List.mem_append.1 h with hmade | hlater
    · cases call with
      | subscribe id =>
        have hentry : entry = (next, id) := List.mem_singleton.1 (List.mem_of_mem_filter hmade)
        exact Nat.le_of_eq (congrArg Prod.fst hentry).symm
      | _ => cases hmade
    · exact Nat.le_trans (Nat.le_add_right ..) (ih hlater)

theorem pairwise_standing (next : SubscriptionId) (calls : List (RegistryCall α)) :
    ((standing next calls).map (·.1)).Pairwise (· < ·) := by
  induction calls generalizing next with
  | nil => exact .nil
  | cons call later ih =>
    rw [standing, List.map_append]
    cases call with
    | subscribe id =>
      refine List.pairwise_append.2 ⟨?_, ih _, fun number hnumber after hafter => ?_⟩
      · exact (List.pairwise_singleton _ next).sublist (List.filter_sublist.map _)
      · obtain ⟨entry, hentry, rfl⟩ := List.mem_map.1 hnumber
        obtain ⟨entry', hentry', rfl⟩ := List.mem_map.1 hafter
        rw [List.mem_singleton.1 (List.mem_of_mem_filter hentry)]
        exact le_of_mem_standing hentry'
    | _ => exact ih _

end RegistryCall

/-! ### What the calls say -/

/-- The observers that ever lived, those that still do, and the suspensions that are open. -/
structure RegistryLog (α : Type) [Scalar α] [Decimals α] where
  known : List ObserverId
  living : List ObserverId
  window : SuspendedWindow α

namespace RegistryLog

def fresh : RegistryLog α := ⟨[], [], .closed⟩

def after (log : RegistryLog α) : RegistryCall α → RegistryLog α
  | .observe id _ => { log with known := log.known ++ [id], living := log.living ++ [id] }
  | .dropObserver id => { log with living := log.living.filter (· ≠ id) }
  | .notifier call => { log with window := log.window.after call }
  | _ => log

def afterAll (log : RegistryLog α) (calls : List (RegistryCall α)) : RegistryLog α := calls.foldl after log

/-- Only a living observer subscribes, and one that comes to life never lived before. -/
def admits (log : RegistryLog α) : RegistryCall α → Bool
  | .observe id _ => id ∉ log.known
  | .subscribe id => id ∈ log.living
  | _ => true

def admitsAll (log : RegistryLog α) : List (RegistryCall α) → Bool
  | [] => true
  | call :: later => log.admits call && (log.after call).admitsAll later

theorem admitsAll_append (log : RegistryLog α) (earlier later : List (RegistryCall α)) :
    log.admitsAll (earlier ++ later) = (log.admitsAll earlier && (log.afterAll earlier).admitsAll later) := by
  induction earlier generalizing log with
  | nil => rfl
  | cons call rest ih =>
    rw [List.cons_append, admitsAll, admitsAll, ih, Bool.and_assoc]
    rfl

end RegistryLog

namespace Notifier

def serve (n : Notifier α) : RegistryCall α → Notifier α
  | .observe id o => n.addObserver id o
  | .subscribe id => (n.subscribe id).1
  | .unsubscribe number | .dropGuard number => n.unsubscribe number
  | .dropObserver id => n.dropObserver id
  | .count => n.prune
  | .notifier call => n.apply call

def serveAll (n : Notifier α) (calls : List (RegistryCall α)) : Notifier α := calls.foldl serve n

theorem serveAll_append (n : Notifier α) (earlier later : List (RegistryCall α)) :
    n.serveAll (earlier ++ later) = (n.serveAll earlier).serveAll later :=
  List.foldl_append

/-- A batch goes to the observers of the subscriptions, one after the other, and no other subscriptions are kept. -/
def handOut (subscriptions : List (SubscriptionId × ObserverId)) (n : Notifier α) (batch : List (RangeChange α)) :
    Notifier α :=
  subscriptions.foldl (fun n entry => n.handOver entry batch)
    { n with subscriptions, deliveries := n.deliveries + 1 }

variable {n : Notifier α} {log : RegistryLog α}

/-! ### Deliveries -/

theorem deliver_eq_handOut (n : Notifier α) (batch : List (RangeChange α)) :
    n.deliver batch = handOut n.prune.subscriptions n batch := rfl

theorem subscriptions_deliver (n : Notifier α) (batch : List (RangeChange α)) :
    (n.deliver batch).subscriptions = n.prune.subscriptions := by
  rw [deliver, foldl_handOver]

theorem nextSubscription_deliver (n : Notifier α) (batch : List (RangeChange α)) :
    (n.deliver batch).nextSubscription = n.nextSubscription := by
  rw [deliver, foldl_handOver]
  rfl

theorem handed_handOut (subscriptions : List (SubscriptionId × ObserverId)) (n : Notifier α)
    (batch : List (RangeChange α)) :
    (handOut subscriptions n batch).handed = n.handed ++ subscriptions.map fun entry => (entry, batch) := by
  rw [handOut, foldl_handOver]

theorem prune_prune (n : Notifier α) : n.prune.prune = n.prune := by
  have htwice : n.prune.prune.subscriptions = n.prune.subscriptions :=
    List.filter_filter.trans (List.filter_congr fun _ _ => Bool.and_self _)
  exact congrArg (fun subscriptions => { n with subscriptions }) htwice

/-- What the window says is handed over, and nothing else changes but the window. -/
theorem Tracks.apply_eq {w : SuspendedWindow α} (h : n.Tracks w) (call : NotifierCall α) :
    n.apply call = (w.batches call).foldl deliver
      { n with depth := (w.after call).depth, pending := latestPerAxis (w.after call).changes } := by
  obtain ⟨hdepth, hpending, -⟩ := h.apply call
  rw [← hdepth, ← hpending]
  cases call with
  | suspend => rfl
  | notify change =>
    rw [Notifier.apply, notify, SuspendedWindow.batches, h.depth]
    by_cases hfree : w.depth = 0
    · rw [if_neg (by omega), if_pos hfree, depth_deliver, pending_deliver]
      rfl
    · rw [if_pos (by omega), if_neg hfree]
      rfl
  | resume =>
    rw [Notifier.apply, SuspendedWindow.batches, ← h.depth]
    rcases hdepth : n.depth with _ | _ | depth
    · rw [resume_of_depth_zero hdepth, if_neg (by omega)]
      rfl
    · rw [resume_of_depth_one hdepth, h.pending]
      by_cases hempty : w.changes = []
      · rw [if_pos (latestPerAxis_eq_nil.2 hempty), if_neg (fun hwindow => hwindow.2 hempty)]
        rfl
      · rw [if_neg (mt latestPerAxis_eq_nil.1 hempty), if_pos ⟨rfl, hempty⟩, depth_deliver, pending_deliver]
        rfl
    · rw [resume_of_depth_succ hdepth, if_neg (by omega)]
      rfl

section Batches

variable (n : Notifier α) (batches : List (List (RangeChange α)))

theorem isLive_deliver (batch : List (RangeChange α)) (id : ObserverId) : (n.deliver batch).isLive id = n.isLive id :=
  (delivered_deliver n batch).isLive id

theorem prune_deliver (batch : List (RangeChange α)) :
    (n.deliver batch).prune.subscriptions = n.prune.subscriptions := by
  simp only [prune, subscriptions_deliver, isLive_deliver, List.filter_filter, Bool.and_self]

theorem subscriptions_foldl_deliver : (batches.foldl deliver n).subscriptions.Sublist n.subscriptions := by
  induction batches generalizing n with
  | nil => exact .refl _
  | cons batch later ih =>
    refine (ih (n.deliver batch)).trans ?_
    rw [subscriptions_deliver]
    exact List.filter_sublist

theorem prune_foldl_deliver : (batches.foldl deliver n).prune.subscriptions = n.prune.subscriptions := by
  induction batches generalizing n with
  | nil => rfl
  | cons batch later ih => exact (ih _).trans (n.prune_deliver batch)

theorem nextSubscription_foldl_deliver : (batches.foldl deliver n).nextSubscription = n.nextSubscription := by
  induction batches generalizing n with
  | nil => rfl
  | cons batch later ih => exact (ih _).trans (n.nextSubscription_deliver batch)

theorem foldl_deliver_eq_handOut :
    batches.foldl deliver n = batches.foldl (handOut n.prune.subscriptions) n := by
  induction batches generalizing n with
  | nil => rfl
  | cons batch later ih =>
    rw [List.foldl_cons, List.foldl_cons, ih, prune_deliver, ← deliver_eq_handOut]

/-- Batch after batch goes round all subscriptions. -/
theorem handed_foldl_handOut (subscriptions : List (SubscriptionId × ObserverId)) :
    (batches.foldl (handOut subscriptions) n).handed =
      n.handed ++ batches.flatMap fun batch => subscriptions.map fun entry => (entry, batch) := by
  induction batches generalizing n with
  | nil => exact (List.append_nil _).symm
  | cons batch later ih => rw [List.foldl_cons, ih, handed_handOut, List.flatMap_cons, List.append_assoc]

end Batches

/-! ### One call -/

theorem prune_unsubscribe (n : Notifier α) (number : SubscriptionId) :
    (n.unsubscribe number).prune.subscriptions = n.prune.subscriptions.filter (·.1 ≠ number) :=
  List.filter_comm ..

theorem isLive_dropObserver (n : Notifier α) (id other : ObserverId) :
    (n.dropObserver id).isLive other = (n.isLive other && decide (other ≠ id)) := by
  rw [Bool.eq_iff_iff, Bool.and_eq_true, isLive_eq_true, isLive_eq_true, decide_eq_true_iff, dropObserver]
  simp only [List.mem_map, List.mem_filter, decide_eq_true_iff]
  constructor
  · rintro ⟨entry, ⟨hentry, hne⟩, rfl⟩
    exact ⟨⟨entry, hentry, rfl⟩, hne⟩
  · rintro ⟨⟨entry, hentry, rfl⟩, hne⟩
    exact ⟨entry, ⟨hentry, hne⟩, rfl⟩

theorem prune_dropObserver (n : Notifier α) (id : ObserverId) :
    (n.dropObserver id).prune.subscriptions = n.prune.subscriptions.filter (·.2 ≠ id) := by
  simp only [prune, isLive_dropObserver, List.filter_filter, Bool.and_comm]
  rfl

/-- A notifier after calls that were logged. -/
structure Follows (n : Notifier α) (log : RegistryLog α) : Prop where
  living : n.observers.map (·.1) = log.living
  known : ∀ id ∈ log.living, id ∈ log.known
  subscribed : ∀ entry ∈ n.subscriptions, entry.2 ∈ log.known
  window : n.Tracks log.window

namespace Follows

variable (h : n.Follows log)

include h

theorem isLive (id : ObserverId) : n.isLive id = decide (id ∈ log.living) := by
  rw [Bool.eq_iff_iff, isLive_eq_true, h.living, decide_eq_true_iff]

theorem addObserver_of_new {id : ObserverId} (hnew : id ∉ log.known) (o : Observer α) :
    n.addObserver id o = { n with observers := n.observers ++ [(id, o)] } := by
  have hdead : n.isLive id = false := by rw [h.isLive, decide_eq_false (mt (h.known id) hnew)]
  rw [addObserver, hdead]
  rfl

/-- Nobody subscribed under an id that never lived. -/
theorem isLive_addObserver_of_new {id : ObserverId} (hnew : id ∉ log.known) (o : Observer α)
    {entry : SubscriptionId × ObserverId} (hentry : entry ∈ n.subscriptions) :
    (n.addObserver id o).isLive entry.2 = n.isLive entry.2 := by
  have hother : entry.2 ≠ id := fun heq => hnew (heq ▸ h.subscribed entry hentry)
  rw [isLive_addObserver, decide_eq_false hother, Bool.or_false]

theorem subscriptions_serve (call : RegistryCall α) :
    (n.serve call).subscriptions.Sublist (n.subscriptions ++ call.made n.nextSubscription) := by
  cases call with
  | observe id o =>
    rw [serve, subscriptions_addObserver]
    exact List.sublist_append_left ..
  | subscribe id => exact .refl _
  | unsubscribe number | dropGuard number => exact List.filter_sublist.trans (List.sublist_append_left ..)
  | dropObserver id => exact List.sublist_append_left ..
  | count => exact List.filter_sublist.trans (List.sublist_append_left ..)
  | notifier call =>
    rw [serve, h.window.apply_eq call]
    exact (subscriptions_foldl_deliver _ _).trans (List.sublist_append_left ..)

theorem nextSubscription_serve (call : RegistryCall α) :
    (n.serve call).nextSubscription = n.nextSubscription + (call.made n.nextSubscription).length := by
  cases call with
  | observe id o => exact n.nextSubscription_addObserver id o
  | notifier call =>
    rw [serve, h.window.apply_eq call]
    exact nextSubscription_foldl_deliver _ _
  | _ => rfl

/-- The subscriptions with living observers, after a call. -/
theorem prune_serve {call : RegistryCall α} (hcall : log.admits call = true) :
    (n.serve call).prune.subscriptions =
      n.prune.subscriptions.filter (fun entry => !call.ends entry) ++ call.made n.nextSubscription := by
  -- of most calls nothing is ended or made, and what is left to show is that the same observers live
  have hkept : n.prune.subscriptions.filter (fun _ => !false) = n.prune.subscriptions :=
    List.filter_eq_self.2 fun _ _ => rfl
  cases call with
  | observe id o =>
    rw [serve, prune, subscriptions_addObserver]
    simp only [RegistryCall.ends, RegistryCall.made, hkept, List.append_nil]
    exact List.filter_congr fun entry hentry => h.isLive_addObserver_of_new (of_decide_eq_true hcall) o hentry
  | subscribe id =>
    have hlive : n.isLive id = true := (h.isLive id).trans hcall
    have hmade : [(n.nextSubscription, id)].filter (fun entry => n.isLive entry.2) = [(n.nextSubscription, id)] := by
      rw [List.filter_singleton, hlive]
      rfl
    exact (List.filter_append ..).trans (congrArg₂ _ hkept.symm hmade)
  | unsubscribe number | dropGuard number =>
    simp only [serve, prune_unsubscribe, RegistryCall.ends, RegistryCall.made, List.append_nil, ne_eq, decide_not]
  | dropObserver id =>
    simp only [serve, prune_dropObserver, RegistryCall.ends, RegistryCall.made, List.append_nil, ne_eq, decide_not]
  | count =>
    simp only [serve, prune_prune, RegistryCall.ends, RegistryCall.made, hkept, List.append_nil]
  | notifier call =>
    rw [serve, h.window.apply_eq call, prune_foldl_deliver]
    simp only [RegistryCall.ends, RegistryCall.made, hkept, List.append_nil]
    rfl

theorem serve {call : RegistryCall α} (hcall : log.admits call = true) : (n.serve call).Follows (log.after call) := by
  cases call with
  | observe id o =>
    rw [Notifier.serve, h.addObserver_of_new (of_decide_eq_true hcall) o]
    refine ⟨?_, fun other hother => ?_, fun entry hentry => List.mem_append_left _ (h.subscribed entry hentry),
      h.window.depth, h.window.pending, h.window.free⟩
    · exact List.map_append.trans (congrArg (· ++ [id]) h.living)
    · rcases List.mem_append.1 hother with hold | hnew
      · exact List.mem_append_left _ (h.known other hold)
      · exact List.mem_append_right _ hnew
  | subscribe id =>
    refine ⟨h.living, h.known, fun entry hentry => ?_, h.window.depth, h.window.pending, h.window.free⟩
    rcases List.mem_append.1 hentry with hold | hnew
    · exact h.subscribed entry hold
    · rw [List.mem_singleton.1 hnew]
      exact h.known id (of_decide_eq_true hcall)
  | unsubscribe number | dropGuard number =>
    exact ⟨h.living, h.known, fun entry hentry => h.subscribed entry (List.mem_of_mem_filter hentry),
      h.window.depth, h.window.pending, h.window.free⟩
  | dropObserver id =>
    refine ⟨?_, fun other hother => h.known other (List.mem_of_mem_filter hother), h.subscribed,
      h.window.depth, h.window.pending, h.window.free⟩
    refine Eq.trans ?_ (congrArg (List.filter (· ≠ id)) h.living)
    rw [List.filter_map]
    rfl
  | count =>
    exact ⟨h.living, h.known, fun entry hentry => h.subscribed entry (List.mem_of_mem_filter hentry),
      h.window.depth, h.window.pending, h.window.free⟩
  | notifier call =>
    refine ⟨?_, h.known, fun entry hentry => ?_, h.window.apply call⟩
    · refine Eq.trans ?_ h.living
      rw [Notifier.serve, (h.window.delivered call).observers, List.map_map]
      rfl
    · have hmem : entry ∈ n.subscriptions ++ [] := (h.subscriptions_serve (.notifier call)).mem hentry
      rw [List.append_nil] at hmem
      exact h.subscribed entry hmem

/-! ### Runs -/

theorem serveAll {calls : List (RegistryCall α)} (hcalls : log.admitsAll calls = true) :
    (n.serveAll calls).Follows (log.afterAll calls) := by
  induction calls generalizing n log with
  | nil => exact h
  | cons call later ih =>
    rw [RegistryLog.admitsAll, Bool.and_eq_true] at hcalls
    exact ih (h.serve hcalls.1) hcalls.2

/-- What stood before stands until a call ends it, and what the calls make comes after it. -/
theorem prune_serveAll {calls : List (RegistryCall α)} (hcalls : log.admitsAll calls = true) :
    (n.serveAll calls).prune.subscriptions =
      n.prune.subscriptions.filter (fun entry => !calls.any (·.ends entry)) ++
        RegistryCall.standing n.nextSubscription calls := by
  induction calls generalizing n log with
  | nil =>
    rw [RegistryCall.standing, List.append_nil]
    exact (List.filter_eq_self.2 fun _ _ => rfl).symm
  | cons call later ih =>
    rw [RegistryLog.admitsAll, Bool.and_eq_true] at hcalls
    have hlater := ih (h.serve hcalls.1) hcalls.2
    rw [h.prune_serve hcalls.1, h.nextSubscription_serve call, List.filter_append, List.filter_filter,
      List.append_assoc] at hlater
    refine hlater.trans (congrArg (· ++ _) (List.filter_congr fun entry _ => ?_))
    rw [List.any_cons, Bool.not_or, Bool.and_comm]

/-- A number that was given out and whose subscription is gone is not given out again. -/
theorem gone_serveAll {calls : List (RegistryCall α)} (hcalls : log.admitsAll calls = true) {number : SubscriptionId}
    (hgiven : number < n.nextSubscription) (hgone : ∀ entry ∈ n.subscriptions, entry.1 ≠ number) :
    ∀ entry ∈ (n.serveAll calls).subscriptions, entry.1 ≠ number := by
  induction calls generalizing n log with
  | nil => exact hgone
  | cons call later ih =>
    rw [RegistryLog.admitsAll, Bool.and_eq_true] at hcalls
    refine ih (h.serve hcalls.1) hcalls.2 ?_ fun entry hentry => ?_
    · rw [h.nextSubscription_serve call]
      exact Nat.lt_add_right _ hgiven
    · rcases List.mem_append.1 ((h.subscriptions_serve call).mem hentry) with hold | hmade
      · exact hgone entry hold
      · cases call with
        | subscribe id =>
          rw [List.mem_singleton.1 hmade]
          exact Nat.ne_of_gt hgiven
        | _ => cases hmade

end Follows

theorem follows_empty : (empty : Notifier α).Follows .fresh :=
  ⟨rfl, nofun, nofun, rfl, rfl, fun _ => rfl⟩

/-- A batch reaches each living observer once for each of its subscriptions among those that are kept. -/
theorem observers_apply {w : SuspendedWindow α} (h : n.Tracks w) (call : NotifierCall α) :
    (n.apply call).observers = n.observers.map fun entry =>
      (entry.1, (w.batches call).foldl
        (fun o batch => (Observer.receive batch)^[n.prune.subscriptions.countP (·.2 = entry.1)] o) entry.2) := by
  rw [(h.delivered call).observers]
  refine List.map_congr_left fun entry hentry => ?_
  have hlive : n.isLive entry.1 = true := isLive_eq_true.2 (List.mem_map_of_mem hentry)
  rw [received, ← subscriptionsOf_prune hlive]
  rfl

theorem unsubscribe_of_gone {number : SubscriptionId} (h : ∀ entry ∈ n.subscriptions, entry.1 ≠ number) :
    n.unsubscribe number = n := by
  have hall : (n.unsubscribe number).subscriptions = n.subscriptions :=
    List.filter_eq_self.2 fun entry hentry => decide_eq_true (h entry hentry)
  exact congrArg (fun subscriptions => { n with subscriptions }) hall

/-- After any calls, the subscriptions that stand are those counted and those a batch is handed to, one after the other
in the order they were made, as the list of hand-overs shows; so each living observer gets it once for each of them that
is its own. The end of one leaves all others standing, and once it is gone, dropping its guard does nothing. -/
theorem serves_standing {calls : List (RegistryCall α)} (hcalls : RegistryLog.fresh.admitsAll calls = true) :
    let log := RegistryLog.fresh.afterAll calls
    let n := (empty : Notifier α).serveAll calls
    let standing := RegistryCall.standing 0 calls
    n.observers.map (·.1) = log.living ∧ (standing.map (·.1)).Pairwise (· < ·) ∧
      n.observerCount = standing.length ∧
      (∀ call,
        n.apply call = (log.window.batches call).foldl (handOut standing)
          { n with depth := (log.window.after call).depth, pending := latestPerAxis (log.window.after call).changes } ∧
        (n.apply call).handed = n.handed ++ (log.window.batches call).flatMap (fun batch =>
          standing.map fun entry => (entry, batch)) ∧
        (n.apply call).observers = n.observers.map fun entry =>
          (entry.1, (log.window.batches call).foldl
            (fun o batch => (Observer.receive batch)^[standing.countP (·.2 = entry.1)] o) entry.2)) ∧
      (∀ number, (n.unsubscribe number).prune.subscriptions = standing.filter (·.1 ≠ number)) ∧
      ∀ earlier later, calls = earlier ++ later → ∀ number < ((empty : Notifier α).serveAll earlier).nextSubscription,
        (∀ entry ∈ ((empty : Notifier α).serveAll earlier).subscriptions, entry.1 ≠ number) →
          n.unsubscribe number = n := by
  intro log n standing
  have hfollows : n.Follows log := follows_empty.serveAll hcalls
  have hstanding : n.prune.subscriptions = standing := follows_empty.prune_serveAll hcalls
  have happly (call : NotifierCall α) := (hfollows.window.apply_eq call).trans (foldl_deliver_eq_handOut _ _)
  refine ⟨hfollows.living, RegistryCall.pairwise_standing 0 calls, congrArg List.length hstanding,
    fun call => ⟨?_, ?_, ?_⟩, fun number => ?_, fun earlier later hsplit number hgiven hgone => ?_⟩
  · rw [← hstanding]
    exact happly call
  · rw [← hstanding, happly]
    exact handed_foldl_handOut _ _ _
  · rw [← hstanding]
    exact observers_apply hfollows.window call
  · rw [← hstanding]
    exact n.prune_unsubscribe number
  · subst hsplit
    rw [RegistryLog.admitsAll_append, Bool.and_eq_true] at hcalls
    have hlater : n = ((empty : Notifier α).serveAll earlier).serveAll later := serveAll_append empty earlier later
    rw [hlater]
    exact unsubscribe_of_gone ((follows_empty.serveAll hcalls.1).gone_serveAll hcalls.2 hgiven hgone)

/-- Of two observers one subscribed twice. While a change waits, one of these subscriptions is ended and the other
observer dies: the batch comes once, to the one subscription that stands, and the guard of the ended one does
nothing. -/
theorem serves_standing_suspended :
    let x : RangeChange Float := ⟨"x", .index (.new 0 1)⟩
    let calls : List (RegistryCall Float) :=
      [.observe (.recorder 0) (.recorder []), .observe (.recorder 1) (.recorder []), .subscribe (.recorder 0),
        .subscribe (.recorder 1), .subscribe (.recorder 0), .notifier .suspend, .notifier (.notify x), .unsubscribe 0,
        .dropObserver (.recorder 1)]
    let n := (empty : Notifier Float).serveAll calls
    RegistryLog.fresh.admitsAll calls = true ∧ n.observerCount = 1 ∧
      (n.apply .resume).handed = [((2, .recorder 0), [x])] ∧
      (n.apply .resume).observers = [(.recorder 0, .recorder [[x]])] ∧ n.unsubscribe 0 = n := by
  intro x calls n
  have hcalls : RegistryLog.fresh.admitsAll calls = true := by decide +kernel
  obtain ⟨-, -, hcount, hdelivers, -, hgone⟩ := serves_standing hcalls
  have hended := hgone (calls.take 8) (calls.drop 8) (List.take_append_drop 8 calls).symm 0 (by decide +kernel)
    (by decide +kernel)
  obtain ⟨-, hhanded, hobservers⟩ := hdelivers .resume
  exact ⟨hcalls, hcount, hhanded, hobservers, hended⟩

end Notifier

end ChartGestures
