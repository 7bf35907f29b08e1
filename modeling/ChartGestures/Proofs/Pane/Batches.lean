import ChartGestures.Proofs.Axis.Mirror
import ChartGestures.Proofs.Pane.OthersChanges

/-!
# Scopes hand over one batch

What a pane does inside a suspended scope is a well-nested run of calls on its notifier. Such a run hands nothing over
while the scope is open, and its end hands over one batch, unless nothing was notified. `Hands` says which batches were
handed over between two calls of an owner: every recorder has them, once for each of its subscriptions, no suspension
was left open or closed, and nothing waits. What happened to the watches meanwhile does not matter to it.
-/

namespace ChartGestures

open NotifierCall (notified)

variable {α : Type} [Scalar α] [Decimals α]

/-! ### Well-nested calls -/

/-- Every suspension among the calls is ended among them, and no other. -/
inductive NotifierCall.Nested : List (NotifierCall α) → Prop
  | nil : Nested []
  | notify (change : RangeChange α) {rest : List (NotifierCall α)} (hrest : Nested rest) : Nested (.notify change :: rest)
  | scope {inner rest : List (NotifierCall α)} (hinner : Nested inner) (hrest : Nested rest) :
      Nested (.suspend :: inner ++ .resume :: rest)

open NotifierCall (Nested)

namespace NotifierCall.Nested

variable {calls later : List (NotifierCall α)}

theorem append (h : Nested calls) (hlater : Nested later) : Nested (calls ++ later) := by
  induction h with
  | nil => exact hlater
  | notify change _ ih => exact .notify change ih
  | scope hinner _ _ ih =>
    rw [List.append_assoc]
    exact .scope hinner ih

theorem single_scope (h : Nested calls) : Nested (.suspend :: calls ++ [.resume]) := .scope h .nil

end NotifierCall.Nested

namespace SuspendedWindow

variable {w w' w'' : SuspendedWindow α} {calls later : List (NotifierCall α)}

/-- The calls lead from one window to another and hand nothing over. -/
structure Absorbs (w : SuspendedWindow α) (calls : List (NotifierCall α)) (w' : SuspendedWindow α) : Prop where
  window : w.afterAll calls = w'
  batches : w.allBatches calls = []

theorem allBatches_append (w : SuspendedWindow α) (calls later : List (NotifierCall α)) :
    w.allBatches (calls ++ later) = w.allBatches calls ++ (w.afterAll calls).allBatches later := by
  induction calls generalizing w with
  | nil => rfl
  | cons call rest ih =>
    rw [List.cons_append, allBatches, ih, allBatches, List.append_assoc]
    rfl

theorem afterAll_append (w : SuspendedWindow α) (calls later : List (NotifierCall α)) :
    w.afterAll (calls ++ later) = (w.afterAll calls).afterAll later := List.foldl_append

theorem Absorbs.append (h : w.Absorbs calls w') (h' : w'.Absorbs later w'') : w.Absorbs (calls ++ later) w'' := by
  constructor
  · rw [afterAll_append, h.window, h'.window]
  · rw [allBatches_append, h.batches, h.window, h'.batches, List.append_nil]

theorem absorbs_suspend (w : SuspendedWindow α) : w.Absorbs [.suspend] { w with depth := w.depth + 1 } := ⟨rfl, rfl⟩

/-- The end of an inner scope. -/
theorem absorbs_resume (hopen : 0 < w.depth) : { w with depth := w.depth + 1 }.Absorbs [.resume] w := by
  have hinner : ¬ w.depth + 1 ≤ 1 := by omega
  constructor
  · change SuspendedWindow.after _ .resume = w
    rw [after, if_neg hinner]
    rfl
  · change SuspendedWindow.batches _ .resume ++ [] = []
    rw [SuspendedWindow.batches, if_neg fun hlast => hinner (Nat.le_of_eq hlast.1), List.append_nil]

theorem absorbs_notify (hopen : 0 < w.depth) (change : RangeChange α) :
    w.Absorbs [.notify change] { w with changes := w.changes ++ [change] } := by
  have hheld : w.depth ≠ 0 := Nat.ne_of_gt hopen
  constructor
  · change w.after (.notify change) = _
    rw [after, if_neg hheld]
  · change w.batches (.notify change) ++ [] = []
    rw [SuspendedWindow.batches, if_neg hheld, List.append_nil]

/-- An open window takes in what well-nested calls notify of. -/
theorem absorbs_nested (hcalls : Nested calls) (hopen : 0 < w.depth) :
    w.Absorbs calls { w with changes := w.changes ++ notified calls } := by
  induction hcalls generalizing w with
  | nil => exact ⟨congrArg (SuspendedWindow.mk w.depth) (List.append_nil _).symm, rfl⟩
  | @notify change rest _ ih =>
    have hrest := ih (w := { w with changes := w.changes ++ [change] }) hopen
    have hboth := (absorbs_notify hopen change).append hrest
    rw [List.append_assoc] at hboth
    exact hboth
  | @scope inner rest _ _ ihinner ihrest =>
    have hinner := ihinner (w := { w with depth := w.depth + 1 }) (Nat.succ_pos _)
    have hrest := ihrest (w := { w with changes := w.changes ++ notified inner }) hopen
    have hended := absorbs_resume (w := { w with changes := w.changes ++ notified inner }) hopen
    have hall := (((absorbs_suspend w).append hinner).append hended).append hrest
    rw [List.append_assoc] at hall
    rw [NotifierCall.notified_append, ← List.append_assoc]
    exact hall

/-- A scope of its own is one batch, or none. -/
theorem allBatches_scope (hcalls : Nested calls) :
    (closed (α := α)).allBatches (.suspend :: calls ++ [.resume]) =
      if notified calls = [] then [] else [Notifier.latestPerAxis (notified calls)] := by
  have habsorbed := (absorbs_suspend (closed (α := α))).append (absorbs_nested (w := ⟨1, []⟩) hcalls Nat.one_pos)
  change allBatches _ (([.suspend] ++ calls) ++ [.resume]) = _
  rw [allBatches_append, habsorbed.batches, habsorbed.window]
  change (SuspendedWindow.mk 1 (notified calls)).batches .resume ++ [] = _
  rw [List.append_nil, batches]
  by_cases hnone : notified calls = []
  · rw [if_pos hnone, if_neg fun hwindow => hwindow.2 hnone]
  · rw [if_neg hnone, if_pos ⟨rfl, hnone⟩]

theorem afterAll_scope (hcalls : Nested calls) : (closed (α := α)).afterAll (.suspend :: calls ++ [.resume]) = closed := by
  have habsorbed := (absorbs_suspend (closed (α := α))).append (absorbs_nested (w := ⟨1, []⟩) hcalls Nat.one_pos)
  change afterAll _ (([.suspend] ++ calls) ++ [.resume]) = _
  rw [afterAll_append, habsorbed.window]
  rfl

end SuspendedWindow

/-! ### Batches that were handed over -/

namespace Notifier

/-- No batch is empty or names an axis twice. -/
def Consolidated (batches : List (List (RangeChange α))) : Prop :=
  ∀ batch ∈ batches, batch ≠ [] ∧ (batch.map (·.axisId)).Nodup

theorem consolidated_nil : Consolidated ([] : List (List (RangeChange α))) := fun _ hnone => nomatch hnone

theorem Consolidated.append {batches later : List (List (RangeChange α))} (h : Consolidated batches)
    (h' : Consolidated later) : Consolidated (batches ++ later) := by
  intro batch hbatch
  rcases List.mem_append.1 hbatch with hbatch | hbatch
  · exact h batch hbatch
  · exact h' batch hbatch

theorem nodup_queue {pending : List (RangeChange α)} (h : (pending.map (·.axisId)).Nodup) (change : RangeChange α) :
    ((queue pending change).map (·.axisId)).Nodup := by
  unfold queue
  split
  · have hsame : ((fun c : RangeChange α => c.axisId) ∘ fun earlier =>
        if earlier.axisId == change.axisId then change else earlier) = fun c => c.axisId := by
      funext earlier
      by_cases hid : earlier.axisId = change.axisId <;> simp [hid]
    rw [List.map_map, hsame]
    exact h
  · next hnew =>
    have hout : change.axisId ∉ pending.map (·.axisId) := by simpa using hnew
    rw [List.map_append]
    refine List.nodup_append.2 ⟨h, List.pairwise_singleton .., fun id hid other hother heq => hout ?_⟩
    rw [heq, List.mem_singleton.1 hother] at hid
    exact hid

theorem nodup_latestPerAxis (changes : List (RangeChange α)) : ((latestPerAxis changes).map (·.axisId)).Nodup := by
  induction changes using List.reverseRecOn with
  | nil => exact List.nodup_nil
  | append_singleton changes change ih =>
    rw [← queue_latestPerAxis]
    exact nodup_queue ih change

/-- Between `n` and `n'` exactly the given batches were handed over, and neither is a suspension more or less open nor
does anything more or less wait. -/
structure Hands (n n' : Notifier α) (batches : List (List (RangeChange α))) : Prop where
  depth : n'.depth = n.depth
  pending : n'.pending = n.pending
  deliveries : n'.deliveries = n.deliveries + batches.length
  recorded : ∀ number old, n.observers.lookup (.recorder number) = some (.recorder old) →
    n'.observers.lookup (.recorder number) =
      some (.recorder (old ++ batches.flatMap (List.replicate (n.subscriptionsOf (.recorder number)))))
  subscriptions : ∀ number, n.isLive (.recorder number) →
    n'.isLive (.recorder number) ∧ n'.subscriptionsOf (.recorder number) = n.subscriptionsOf (.recorder number)

namespace Hands

variable {n n' n'' : Notifier α} {batches later : List (List (RangeChange α))}

theorem refl (n : Notifier α) : Hands n n [] where
  depth := rfl
  pending := rfl
  deliveries := rfl
  recorded number old hlives := by rw [hlives, List.flatMap_nil, List.append_nil]
  subscriptions number hlives := ⟨hlives, rfl⟩

theorem trans (h : Hands n n' batches) (h' : Hands n' n'' later) : Hands n n'' (batches ++ later) where
  depth := h'.depth.trans h.depth
  pending := h'.pending.trans h.pending
  deliveries := by rw [h'.deliveries, h.deliveries, List.length_append, Nat.add_assoc]
  recorded number old hlives := by
    have hlive : n.isLive (.recorder number) = true := by
      rw [isLive, hlives]
      rfl
    rw [h'.recorded number _ (h.recorded number old hlives), (h.subscriptions number hlive).2, List.flatMap_append,
      List.append_assoc]
  subscriptions number hlives := by
    obtain ⟨hlives', hcount⟩ := h.subscriptions number hlives
    exact ⟨(h'.subscriptions number hlives').1, (h'.subscriptions number hlives').2.trans hcount⟩

theorem of_delivered (h : Delivered n n' batches) (hdepth : n'.depth = n.depth) (hpending : n'.pending = n.pending) :
    Hands n n' batches where
  depth := hdepth
  pending := hpending
  deliveries := h.deliveries
  recorded number old hlives := by rw [h.observers, lookup_map, hlives, Option.map_some, received_recorder]
  subscriptions number hlives := ⟨(h.isLive _).trans hlives, h.subscriptions _ hlives⟩

end Hands

variable {n : Notifier α}

/-- What becomes of a watch is nothing to a recorder. -/
theorem hands_updateWatch (n : Notifier α) (owner : Nat) (f : ChangeWatch → ChangeWatch) :
    Hands n (n.updateWatch owner f) [] := by
  have hlookup (number : Nat) :
      (n.updateWatch owner f).observers.lookup (.recorder number) = n.observers.lookup (.recorder number) :=
    lookup_updateObserver_of_ne (show ObserverId.recorder number ≠ .watch owner from ObserverId.noConfusion) n _
  refine ⟨rfl, rfl, rfl, fun number old hlives => ?_, fun number hlives => ⟨?_, rfl⟩⟩
  · rw [hlookup, hlives, List.flatMap_nil, List.append_nil]
  · rw [isLive, hlookup]
    exact hlives

/-- The batch of what was notified in one scope. -/
def scopeBatches (changes : List (RangeChange α)) : List (List (RangeChange α)) :=
  if changes = [] then [] else [latestPerAxis changes]

theorem consolidated_scopeBatches (changes : List (RangeChange α)) : Consolidated (scopeBatches changes) := by
  unfold scopeBatches
  split
  · exact consolidated_nil
  · next hsome =>
    intro batch hbatch
    rw [List.mem_singleton.1 hbatch]
    exact ⟨mt latestPerAxis_eq_nil.1 hsome, nodup_latestPerAxis changes⟩

theorem length_scopeBatches (changes : List (RangeChange α)) :
    (scopeBatches changes).length = if changes = [] then 0 else 1 := by
  unfold scopeBatches
  split <;> rfl

/-- No suspension is open and nothing waits. -/
structure IsIdle (n : Notifier α) : Prop where
  depth : n.depth = 0
  pending : n.pending = []

theorem Hands.isIdle {n' : Notifier α} {batches : List (List (RangeChange α))} (h : Hands n n' batches)
    (hidle : n.IsIdle) : n'.IsIdle :=
  ⟨h.depth.trans hidle.depth, h.pending.trans hidle.pending⟩

theorem hands_scope (hidle : n.IsIdle) {calls : List (NotifierCall α)} (hcalls : Nested calls) :
    Hands n (n.run (.suspend :: calls ++ [.resume])) (scopeBatches (notified calls)) := by
  obtain ⟨htracks, hdelivered⟩ :=
    Tracks.run (w := .closed) ⟨hidle.depth, hidle.pending, fun _ => rfl⟩ (.suspend :: calls ++ [.resume])
  rw [SuspendedWindow.afterAll_scope hcalls] at htracks
  rw [SuspendedWindow.allBatches_scope hcalls] at hdelivered
  exact .of_delivered hdelivered (htracks.depth.trans hidle.depth.symm) (htracks.pending.trans hidle.pending.symm)

end Notifier

/-! ### What a pane does in a scope -/

namespace Pane

open Notifier (Hands scopeBatches)

/-- Whatever the pane, what happens on it is a well-nested run of calls on its notifier. -/
def Nests (f : Pane α → Pane α) : Prop := ∀ p, ∃ calls, Nested calls ∧ (f p).notifier = p.notifier.run calls

theorem nests_id : Nests (fun p : Pane α => p) := fun _ => ⟨[], .nil, rfl⟩

theorem Nests.comp {f g : Pane α → Pane α} (hg : Nests g) (hf : Nests f) : Nests fun p => g (f p) := by
  intro p
  obtain ⟨calls, hcalls, hrun⟩ := hf p
  obtain ⟨later, hlater, hrun'⟩ := hg (f p)
  refine ⟨calls ++ later, hcalls.append hlater, ?_⟩
  rw [hrun', hrun]
  exact List.foldl_append.symm

theorem Nests.foldl {β : Type} {f : β → Pane α → Pane α} (hf : ∀ b, Nests (f b)) (l : List β) :
    Nests fun p => l.foldl (fun p b => f b p) p := by
  induction l with
  | nil => exact nests_id
  | cons b rest ih => exact ih.comp (hf b)

/-- The changes that a write publishes. -/
def told (p : Pane α) (id : String) (write : ChartAxis α → AxisWrite α) : List (RangeChange α) :=
  (p.axis? id).elim [] fun a => if (write a).changed then [⟨(write a).axis.id, (write a).axis.visibleRange⟩] else []

theorem notifier_writeAxis_run (p : Pane α) (id : String) (write : ChartAxis α → AxisWrite α) :
    (p.writeAxis id write).notifier = p.notifier.run ((p.told id write).map .notify) := by
  rw [notifier_writeAxis, told]
  cases p.axis? id with
  | none => rfl
  | some a =>
    rw [Option.elim_some, Option.elim_some, AxisWrite.publish]
    split <;> rfl

theorem nested_notify (changes : List (RangeChange α)) : Nested (changes.map .notify) := by
  induction changes with
  | nil => exact .nil
  | cons change rest ih => exact .notify change ih

theorem nests_writeAxis (id : String) (write : ChartAxis α → AxisWrite α) : Nests fun p => p.writeAxis id write :=
  fun p => ⟨_, nested_notify _, p.notifier_writeAxis_run id write⟩

theorem nests_writeAll (writes : AxisWrites α) : Nests (writeAll writes) :=
  Nests.foldl (fun w : String × (ChartAxis α → AxisWrite α) => nests_writeAxis w.1 w.2) writes

theorem notifier_suspended {f : Pane α → Pane α} {p : Pane α} {calls : List (NotifierCall α)}
    (h : (f { p with notifier := p.notifier.suspend }).notifier = p.notifier.suspend.run calls) :
    (p.suspended f).notifier = p.notifier.run (.suspend :: calls ++ [.resume]) := by
  change (f _).notifier.resume = (NotifierCall.suspend :: calls ++ [NotifierCall.resume]).foldl Notifier.apply p.notifier
  rw [h, List.cons_append, List.foldl_cons, List.foldl_append]
  rfl

theorem Nests.suspended {f : Pane α → Pane α} (hf : Nests f) : Nests fun p => p.suspended f := by
  intro p
  obtain ⟨calls, hcalls, hrun⟩ := hf { p with notifier := p.notifier.suspend }
  exact ⟨_, hcalls.single_scope, notifier_suspended hrun⟩

theorem nests_zoomFamilyToExtents (family : AxisFamily) (nanos : Nat) :
    Nests fun p : Pane α => p.zoomFamilyToExtents family nanos := by
  intro p
  refine Nests.suspended (fun p => ?_) p
  exact Nests.foldl (fun id => nests_writeAxis id (·.zoomToExtents nanos)) (p.axisIds family) p

/-- Between two states of a pane so many batches were handed over, each for different axes. -/
def Announces (p q : Pane α) (count : Nat) : Prop :=
  ∃ batches, Hands p.notifier q.notifier batches ∧ Notifier.Consolidated batches ∧ batches.length = count

variable {p q r : Pane α} {count more : Nat}

theorem announces_of_notifier_eq (h : q.notifier = p.notifier) : p.Announces q 0 := by
  refine ⟨[], ?_, Notifier.consolidated_nil, rfl⟩
  rw [h]
  exact .refl _

theorem announces_updateWatch (owner : OwnerId) (f : ChangeWatch → ChangeWatch)
    (h : q.notifier = p.notifier.updateWatch owner f) : p.Announces q 0 := by
  refine ⟨[], ?_, Notifier.consolidated_nil, rfl⟩
  rw [h]
  exact Notifier.hands_updateWatch ..

theorem Announces.trans (h : p.Announces q count) (h' : q.Announces r more) : p.Announces r (count + more) := by
  obtain ⟨batches, hhands, hconsolidated, rfl⟩ := h
  obtain ⟨later, hhands', hconsolidated', rfl⟩ := h'
  exact ⟨batches ++ later, hhands.trans hhands', hconsolidated.append hconsolidated', List.length_append⟩

theorem Announces.isIdle (h : p.Announces q count) (hidle : p.notifier.IsIdle) : q.notifier.IsIdle := by
  obtain ⟨batches, hhands, -, -⟩ := h
  exact hhands.isIdle hidle

theorem announces_scope (hidle : p.notifier.IsIdle) {f : Pane α → Pane α} {calls : List (NotifierCall α)}
    (hcalls : Nested calls)
    (hrun : (f { p with notifier := p.notifier.suspend }).notifier = p.notifier.suspend.run calls) :
    p.Announces (p.suspended f) (if notified calls = [] then 0 else 1) := by
  refine ⟨scopeBatches (notified calls), ?_, Notifier.consolidated_scopeBatches _, Notifier.length_scopeBatches _⟩
  rw [notifier_suspended hrun]
  exact Notifier.hands_scope hidle hcalls

/-- A scope on an idle pane hands over one batch, or none. -/
theorem announces_suspended (hidle : p.notifier.IsIdle) {f : Pane α → Pane α} (hf : Nests f) :
    ∃ count ≤ 1, p.Announces (p.suspended f) count := by
  obtain ⟨calls, hcalls, hrun⟩ := hf { p with notifier := p.notifier.suspend }
  refine ⟨_, ?_, announces_scope hidle hcalls hrun⟩
  split
  · exact Nat.zero_le 1
  · exact Nat.le_refl 1

theorem told_eq_nil {id : String} {write : ChartAxis α → AxisWrite α} :
    p.told id write = [] ↔ p.changes id write = false := by
  rw [told, changes]
  cases p.axis? id with
  | none => exact ⟨fun _ => rfl, fun _ => rfl⟩
  | some a =>
    rw [Option.elim_some, Option.any_some]
    cases (write a).changed with
    | true => exact iff_of_false (List.cons_ne_nil _ _) Bool.noConfusion
    | false => exact ⟨fun _ => rfl, fun _ => rfl⟩

theorem notifier_writeAll_run (writes : AxisWrites α) (p : Pane α) :
    ∃ changes : List (RangeChange α), (p.writeAll writes).notifier = p.notifier.run (changes.map .notify) ∧
      (changes = [] ↔ changedBy writes p = false) := by
  induction writes generalizing p with
  | nil => exact ⟨[], rfl, fun _ => rfl, fun _ => rfl⟩
  | cons w rest ih =>
    obtain ⟨changes, hrun, hnone⟩ := ih (p.writeAxis w.1 w.2)
    refine ⟨p.told w.1 w.2 ++ changes, ?_, ?_⟩
    · refine hrun.trans ?_
      rw [notifier_writeAxis_run, List.map_append]
      exact List.foldl_append.symm
    · rw [changedBy, Bool.or_eq_false_iff, List.append_eq_nil_iff, told_eq_nil, hnone]

theorem notified_map_notify (changes : List (RangeChange α)) : notified (changes.map .notify) = changes := by
  rw [notified, List.filterMap_map]
  exact List.filterMap_some

/-- Writes in a scope are one batch if any of them changed an axis. -/
theorem announces_suspended_writeAll (hidle : p.notifier.IsIdle) (writes : AxisWrites α) :
    p.Announces (p.suspended (writeAll writes)) (changedBy writes p).toNat := by
  obtain ⟨changes, hrun, hnone⟩ := notifier_writeAll_run writes { p with notifier := p.notifier.suspend }
  rw [changedBy_withNotifier] at hnone
  have hscope := announces_scope hidle (nested_notify changes) hrun
  rw [notified_map_notify] at hscope
  cases hchanged : changedBy writes p with
  | true =>
    have hsome : changes ≠ [] := fun hnil => by rw [hnone.1 hnil] at hchanged; cases hchanged
    rw [if_neg hsome] at hscope
    exact hscope
  | false =>
    rw [if_pos (hnone.2 hchanged)] at hscope
    exact hscope

end Pane

end ChartGestures
