import ChartGestures.Gesture.Reaction
import ChartGestures.Proofs.Pane.Delivery
import Mathlib.Data.List.Nodup

/-!
# Subscriptions of watches

Subscriptions are numbered one after the other, and no number is given out twice. So who starts a watch and keeps the
number it gets ends with it exactly that subscription, whatever others subscribed to in between.
-/

namespace ChartGestures

variable {α : Type} [Scalar α] [Decimals α]

namespace Notifier

/-- Every number was given out, and none of them twice. -/
structure IsNumbered (n : Notifier α) : Prop where
  nodup : (n.subscriptions.map (·.1)).Nodup
  below : ∀ entry ∈ n.subscriptions, entry.1 < n.nextSubscription

/-- The subscriptions of an observer, with their numbers. -/
def entriesOf (n : Notifier α) (id : ObserverId) : List (SubscriptionId × ObserverId) :=
  n.subscriptions.filter (·.2 = id)

theorem subscriptionsOf_eq_length (n : Notifier α) (id : ObserverId) : n.subscriptionsOf id = (n.entriesOf id).length :=
  List.countP_eq_length_filter

/-- An observer has just the subscription of a number, or none, and lives while it has one. -/
structure Holds (n : Notifier α) (id : ObserverId) (held : Option SubscriptionId) : Prop where
  entries : n.entriesOf id = (held.map (·, id)).toList
  live : held.isSome = true → n.isLive id = true

variable {n : Notifier α} {id other : ObserverId} {held : Option SubscriptionId}

theorem holds_none_iff : n.Holds id none ↔ n.subscriptionsOf id = 0 := by
  rw [subscriptionsOf_eq_length, List.length_eq_zero_iff]
  exact ⟨fun h => h.entries, fun h => ⟨h, nofun⟩⟩

/-- Of the subscriptions with living observers the observer has one, or none. -/
theorem Holds.subscriptionsOf_prune (h : n.Holds id held) : n.prune.subscriptionsOf id = held.isSome.toNat := by
  cases held with
  | none =>
    have hfewer : n.prune.subscriptionsOf id ≤ n.subscriptionsOf id := List.Sublist.countP_le List.filter_sublist
    rw [holds_none_iff.1 h] at hfewer
    exact Nat.le_zero.1 hfewer
  | some i =>
    rw [Notifier.subscriptionsOf_prune (h.live rfl), subscriptionsOf_eq_length, h.entries]
    rfl

/-! ### Subscribing -/

theorem isNumbered_subscribe (h : n.IsNumbered) (id : ObserverId) : (n.subscribe id).1.IsNumbered where
  nodup := by
    show ((n.subscriptions ++ [(n.nextSubscription, id)]).map (·.1)).Nodup
    rw [List.map_append, List.map_singleton, List.nodup_append]
    refine ⟨h.nodup, List.nodup_singleton _, fun number hnumber next hnext heq => ?_⟩
    obtain ⟨entry, hentry, rfl⟩ := List.mem_map.1 hnumber
    rw [List.mem_singleton.1 hnext] at heq
    exact absurd heq (Nat.ne_of_lt (h.below entry hentry))
  below entry hentry := by
    rcases List.mem_append.1 hentry with hearlier | hlast
    · exact Nat.lt_succ_of_lt (h.below entry hearlier)
    · rw [List.mem_singleton.1 hlast]
      exact Nat.lt_succ_self n.nextSubscription

theorem entriesOf_subscribe (n : Notifier α) (id other : ObserverId) :
    (n.subscribe id).1.entriesOf other = n.entriesOf other ++ if id = other then [(n.nextSubscription, id)] else [] := by
  show (n.subscriptions ++ [(n.nextSubscription, id)]).filter (·.2 = other) = _
  rw [List.filter_append]
  congr 1
  split
  · next heq => simp [heq]
  · next hne => simp [hne]

theorem isLive_addObserver (n : Notifier α) (id other : ObserverId) (o : Observer α) :
    (n.addObserver id o).isLive other = (n.isLive other || decide (other = id)) := by
  unfold addObserver
  split
  · next hlive =>
    by_cases heq : other = id
    · rw [heq, hlive, Bool.true_or]
    · rw [decide_eq_false heq, Bool.or_false]
  · rw [Bool.eq_iff_iff, Bool.or_eq_true, isLive_eq_true, isLive_eq_true, decide_eq_true_iff]
    simp

/-! ### Watches -/

@[simp] theorem subscriptions_addObserver (n : Notifier α) (id : ObserverId) (o : Observer α) :
    (n.addObserver id o).subscriptions = n.subscriptions := by
  unfold addObserver
  split <;> rfl

@[simp] theorem nextSubscription_addObserver (n : Notifier α) (id : ObserverId) (o : Observer α) :
    (n.addObserver id o).nextSubscription = n.nextSubscription := by
  unfold addObserver
  split <;> rfl

theorem isNumbered_subscribeWatch (h : n.IsNumbered) (owner : Nat) : (n.subscribeWatch owner).1.IsNumbered := by
  refine isNumbered_subscribe (n := n.addObserver (.watch owner) _) ⟨?_, ?_⟩ _
  · simpa using h.nodup
  · simpa using h.below

theorem entriesOf_subscribeWatch (n : Notifier α) (owner : Nat) (other : ObserverId) :
    (n.subscribeWatch owner).1.entriesOf other =
      n.entriesOf other ++ if .watch owner = other then [(n.nextSubscription, .watch owner)] else [] := by
  rw [subscribeWatch, entriesOf_subscribe, entriesOf, entriesOf, subscriptions_addObserver, nextSubscription_addObserver]

theorem isLive_subscribeWatch (n : Notifier α) (owner : Nat) (other : ObserverId) :
    (n.subscribeWatch owner).1.isLive other = (n.isLive other || decide (other = .watch owner)) :=
  n.isLive_addObserver (.watch owner) other (.watch ⟨0, false⟩)

/-- The watch of an owner is started, and its owner keeps the number. -/
theorem holds_subscribeWatch {owner : Nat} (h : n.Holds (.watch owner) none) :
    (n.subscribeWatch owner).1.Holds (.watch owner) (some (n.subscribeWatch owner).2) where
  entries := by
    rw [entriesOf_subscribeWatch, h.entries, if_pos rfl, subscribeWatch, subscribe, nextSubscription_addObserver]
    rfl
  live _ := by
    rw [isLive_subscribeWatch, decide_eq_true rfl, Bool.or_true]

theorem Holds.subscribeWatch {owner : Nat} (h : n.Holds other held) (hother : other ≠ .watch owner) :
    (n.subscribeWatch owner).1.Holds other held where
  entries := by
    rw [entriesOf_subscribeWatch, if_neg (Ne.symm hother), List.append_nil]
    exact h.entries
  live hheld := by
    rw [isLive_subscribeWatch, h.live hheld, Bool.true_or]

/-! ### Unsubscribing -/

theorem isNumbered_unsubscribe (h : n.IsNumbered) (i : SubscriptionId) : (n.unsubscribe i).IsNumbered where
  nodup := h.nodup.sublist (List.filter_sublist.map _)
  below entry hentry := h.below entry (List.mem_of_mem_filter hentry)

theorem entriesOf_unsubscribe (n : Notifier α) (i : SubscriptionId) (id : ObserverId) :
    (n.unsubscribe i).entriesOf id = (n.entriesOf id).filter (·.1 ≠ i) :=
  List.filter_comm _ _ n.subscriptions

theorem holds_unsubscribe {i : SubscriptionId} (h : n.Holds id (some i)) : (n.unsubscribe i).Holds id none where
  entries := by
    rw [entriesOf_unsubscribe, h.entries]
    simp
  live := nofun

/-- Numbers are given out once, so that of somebody else's subscription none is lost. -/
theorem Holds.unsubscribe {i : SubscriptionId} (h : n.Holds other held) (hn : n.IsNumbered) (hi : n.Holds id (some i))
    (hother : other ≠ id) : (n.unsubscribe i).Holds other held where
  entries := by
    have hmem : (i, id) ∈ n.subscriptions := by
      have hentry : (i, id) ∈ n.entriesOf id := by
        rw [hi.entries]
        exact List.mem_singleton_self _
      exact List.mem_of_mem_filter hentry
    rw [entriesOf_unsubscribe, List.filter_eq_self.2, h.entries]
    intro entry hentry
    obtain ⟨hsubscribed, howner⟩ := List.mem_filter.1 hentry
    rw [decide_eq_true_iff]
    intro hsame
    have heq : entry = (i, id) := List.inj_on_of_nodup_map hn.nodup hsubscribed hmem hsame
    rw [heq, decide_eq_true_iff] at howner
    exact hother howner.symm
  live := h.live

end Notifier

end ChartGestures
