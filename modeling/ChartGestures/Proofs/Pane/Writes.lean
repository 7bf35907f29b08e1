import ChartGestures.Proofs.Pane.Holds
import ChartGestures.Proofs.Pane.Watch
import Mathlib.Data.List.Nodup

/-!
# Writes to the axes of a pane

Every gesture reaches the axes through a list of writes, each to the first axis of a name, x axes before y axes. A write
that keeps the name of its axis concerns nothing but that axis, and writes to names of no x axis leave the x axes alone,
whatever else the pane holds. Made in one suspended scope, the writes are one change to a watch, or none.
-/

namespace ChartGestures

variable {α : Type} [Scalar α] [Decimals α]

/-- Writes, each with the name of the axis it goes to. -/
abbrev AxisWrites (α : Type) [Scalar α] [Decimals α] := List (String × (ChartAxis α → AxisWrite α))

/-- An axis keeps its name. -/
def AxisWrites.KeepNames (writes : AxisWrites α) : Prop := ∀ w ∈ writes, ∀ a, (w.2 a).axis.id = a.id

theorem AxisWrites.KeepNames.tail {w : String × (ChartAxis α → AxisWrite α)} {writes : AxisWrites α}
    (h : AxisWrites.KeepNames (w :: writes)) : writes.KeepNames :=
  fun v hv => h v (List.mem_cons_of_mem w hv)

namespace ChartAxis

/-! ### Names -/

@[simp] theorem id_setVisible (a : ChartAxis α) (r : Range α) : (a.setVisible r).axis.id = a.id := by
  unfold setVisible
  dsimp only
  repeat' split
  all_goals rfl

@[simp] theorem id_applyRange (a : ChartAxis α) (r : Range α) : (a.applyRange r).axis.id = a.id := by
  unfold applyRange
  split
  · split <;> rfl
  · exact id_setVisible a r

@[simp] theorem id_animateTo (a : ChartAxis α) (r : Range α) (nanos : Nat) : (a.animateTo r nanos).axis.id = a.id := by
  unfold animateTo
  rw [id_setVisible]
  split <;> rfl

@[simp] theorem id_zoomToExtents (a : ChartAxis α) (nanos : Nat) : (a.zoomToExtents nanos).axis.id = a.id := by
  unfold zoomToExtents
  split
  · exact id_animateTo ..
  · rfl

@[simp] theorem id_zoomAt (a : ChartAxis α) (anchor : Point α) (scale : α) : (a.zoomAt anchor scale).axis.id = a.id := by
  unfold zoomAt
  split
  · exact id_applyRange ..
  · rfl

end ChartAxis

namespace Pane

/-! ### One write -/

/-- The axes after a write to the first of the name. -/
def writeIn (axes : List (ChartAxis α)) (id : String) (write : ChartAxis α → AxisWrite α) : List (ChartAxis α) :=
  match axes.find? (·.id == id) with
  | none => axes
  | some a => replaceAxis id (write a).axis axes

/-- Whether a write publishes a change. -/
def changesIn (axes : List (ChartAxis α)) (id : String) (write : ChartAxis α → AxisWrite α) : Bool :=
  (axes.find? (·.id == id)).any fun a => (write a).changed

variable {axes : List (ChartAxis α)} {id other : String} {write : ChartAxis α → AxisWrite α}

theorem find?_eq_none_of_not_mem (h : id ∉ axes.map (·.id)) : axes.find? (·.id == id) = none := by
  rw [List.find?_eq_none]
  intro a ha hid
  exact h (List.mem_map.2 ⟨a, ha, beq_iff_eq.1 hid⟩)

theorem id_of_find? {a : ChartAxis α} (h : axes.find? (·.id == id) = some a) : a.id = id := by
  simpa using List.find?_some h

theorem exists_find?_of_mem (h : id ∈ axes.map (·.id)) : ∃ a, axes.find? (·.id == id) = some a ∧ a.id = id := by
  obtain ⟨b, hb, hid⟩ := List.mem_map.1 h
  have hfound : (axes.find? (·.id == id)).isSome := List.find?_isSome.2 ⟨b, hb, beq_iff_eq.2 hid⟩
  obtain ⟨a, ha⟩ := Option.isSome_iff_exists.1 hfound
  exact ⟨a, ha, id_of_find? ha⟩

theorem writeIn_of_not_mem (h : id ∉ axes.map (·.id)) : writeIn axes id write = axes := by
  rw [writeIn, find?_eq_none_of_not_mem h]

theorem map_id_replaceAxis {a : ChartAxis α} (ha : a.id = id) (axes : List (ChartAxis α)) :
    (replaceAxis id a axes).map (·.id) = axes.map (·.id) := by
  induction axes with
  | nil => rfl
  | cons b rest ih =>
    rw [replaceAxis]
    split
    · next hb => rw [List.map_cons, List.map_cons, ha, beq_iff_eq.1 hb]
    · rw [List.map_cons, List.map_cons, ih]

theorem map_id_writeIn (hkeep : ∀ a, (write a).axis.id = a.id) : (writeIn axes id write).map (·.id) = axes.map (·.id) := by
  unfold writeIn
  split
  · rfl
  · next a ha => exact map_id_replaceAxis ((hkeep a).trans (id_of_find? ha)) axes

theorem find?_replaceAxis_self {a b : ChartAxis α} (ha : a.id = id) (hb : axes.find? (·.id == id) = some b) :
    (replaceAxis id a axes).find? (·.id == id) = some a := by
  induction axes with
  | nil => cases hb
  | cons c rest ih =>
    rw [replaceAxis]
    split
    · simp [ha]
    · next hc =>
      have hne : c.id ≠ id := fun heq => hc (beq_iff_eq.2 heq)
      have hb' : rest.find? (·.id == id) = some b := by simpa [hne] using hb
      simpa [hne] using ih hb'

theorem find?_replaceAxis_other {a : ChartAxis α} (ha : a.id = id) (hne : other ≠ id) (axes : List (ChartAxis α)) :
    (replaceAxis id a axes).find? (·.id == other) = axes.find? (·.id == other) := by
  induction axes with
  | nil => rfl
  | cons c rest ih =>
    rw [replaceAxis]
    split
    · next hc =>
      simp [ha, beq_iff_eq.1 hc, hne.symm]
    · rw [List.find?_cons, List.find?_cons, ih]

/-- The axis of the name is the written one, and every other name has the axis it had. -/
theorem find?_writeIn (hkeep : ∀ a, (write a).axis.id = a.id) (other : String) :
    (writeIn axes id write).find? (·.id == other) =
      if other = id then (axes.find? (·.id == id)).map fun a => (write a).axis else axes.find? (·.id == other) := by
  unfold writeIn
  split
  · next hnone =>
    split
    · next heq => rw [heq, hnone, Option.map_none]
    · rfl
  · next a ha =>
    have hid : (write a).axis.id = id := (hkeep a).trans (id_of_find? ha)
    split
    · next heq => rw [heq, ha, Option.map_some, find?_replaceAxis_self hid ha]
    · next hne => exact find?_replaceAxis_other hid hne axes

/-! ### On a pane -/

variable {p : Pane α}

theorem axis?_eq (p : Pane α) (id : String) :
    p.axis? id = (p.xAxes.find? (·.id == id)).or (p.yAxes.find? (·.id == id)) := by
  rw [axis?, axes, List.find?_append]

/-- Where the names are distinct, every axis is the first of its own. -/
theorem axis?_of_mem {a : ChartAxis α} (hdistinct : (p.axes.map (·.id)).Nodup) (ha : a ∈ p.axes) :
    p.axis? a.id = some a := by
  obtain ⟨b, hb, hid⟩ := exists_find?_of_mem (List.mem_map_of_mem ha : a.id ∈ p.axes.map (·.id))
  have hsame : b = a := List.inj_on_of_nodup_map hdistinct (List.mem_of_find?_eq_some hb) ha hid
  rw [axis?, hb, hsame]

theorem any_eq_isSome (axes : List (ChartAxis α)) (id : String) :
    axes.any (·.id == id) = (axes.find? (·.id == id)).isSome := by
  rw [Bool.eq_iff_iff, List.find?_isSome, List.any_eq_true]

theorem xAxes_writeAxis (p : Pane α) (id : String) (write : ChartAxis α → AxisWrite α) :
    (p.writeAxis id write).xAxes = writeIn p.xAxes id write := by
  rw [writeAxis, axis?_eq, writeIn, any_eq_isSome]
  cases p.xAxes.find? (·.id == id) with
  | some a => rfl
  | none => cases p.yAxes.find? (·.id == id) <;> rfl

theorem yAxes_writeAxis_of_not_mem (h : id ∉ p.axisIds .x) :
    (p.writeAxis id write).yAxes = writeIn p.yAxes id write := by
  rw [writeAxis, axis?_eq, writeIn, any_eq_isSome, find?_eq_none_of_not_mem h]
  cases p.yAxes.find? (·.id == id) <;> rfl

theorem yAxes_writeAxis_of_mem (h : id ∈ p.axisIds .x) : (p.writeAxis id write).yAxes = p.yAxes := by
  obtain ⟨a, ha, -⟩ := exists_find?_of_mem h
  rw [writeAxis, axis?_eq, any_eq_isSome, ha]
  rfl

@[simp] theorem viewport_writeAxis (p : Pane α) (id : String) (write : ChartAxis α → AxisWrite α) :
    (p.writeAxis id write).viewport = p.viewport := by
  unfold writeAxis
  split
  · rfl
  · dsimp only
    split <;> rfl

theorem axisIds_writeAxis (hkeep : ∀ a, (write a).axis.id = a.id) (family : AxisFamily) :
    (p.writeAxis id write).axisIds family = p.axisIds family := by
  cases family with
  | x => rw [axisIds, xAxes_writeAxis, map_id_writeIn hkeep, axisIds]
  | y =>
    by_cases h : id ∈ p.axisIds .x
    · rw [axisIds, yAxes_writeAxis_of_mem h, axisIds]
    · rw [axisIds, yAxes_writeAxis_of_not_mem h, map_id_writeIn hkeep, axisIds]

theorem axis?_writeAxis (hkeep : ∀ a, (write a).axis.id = a.id) (other : String) :
    (p.writeAxis id write).axis? other =
      if other = id then (p.axis? id).map fun a => (write a).axis else p.axis? other := by
  by_cases h : id ∈ p.axisIds .x
  · obtain ⟨a, ha, -⟩ := exists_find?_of_mem h
    rw [axis?_eq, xAxes_writeAxis, yAxes_writeAxis_of_mem h, find?_writeIn hkeep, axis?_eq, axis?_eq, ha]
    split <;> rfl
  · have hnone := find?_eq_none_of_not_mem h
    rw [axis?_eq, xAxes_writeAxis, writeIn_of_not_mem h, yAxes_writeAxis_of_not_mem h, find?_writeIn hkeep, axis?_eq,
      axis?_eq, hnone]
    split
    · next heq => rw [heq, hnone, Option.none_or, Option.none_or]
    · rfl

/-- Whether a write publishes a change. -/
def changes (p : Pane α) (id : String) (write : ChartAxis α → AxisWrite α) : Bool :=
  (p.axis? id).any fun a => (write a).changed

theorem changes_of_mem (h : id ∈ p.axisIds .x) : p.changes id write = changesIn p.xAxes id write := by
  obtain ⟨a, ha, -⟩ := exists_find?_of_mem h
  rw [changes, axis?_eq, changesIn, ha]
  rfl

theorem changes_of_not_mem (h : id ∉ p.axisIds .x) : p.changes id write = changesIn p.yAxes id write := by
  rw [changes, axis?_eq, changesIn, find?_eq_none_of_not_mem h, Option.none_or]

theorem notifier_writeAxis (p : Pane α) (id : String) (write : ChartAxis α → AxisWrite α) :
    (p.writeAxis id write).notifier = (p.axis? id).elim p.notifier fun a => (write a).publish p.notifier := by
  rw [writeAxis]
  cases p.axis? id with
  | none => rfl
  | some a =>
    dsimp only
    split <;> rfl

/-! ### Lists of writes -/

def writeAll (writes : AxisWrites α) (p : Pane α) : Pane α := writes.foldl (fun p w => p.writeAxis w.1 w.2) p

def writeAllIn (writes : AxisWrites α) (axes : List (ChartAxis α)) : List (ChartAxis α) :=
  writes.foldl (fun axes w => writeIn axes w.1 w.2) axes

/-- Whether any of the writes publishes a change. -/
def changedBy : AxisWrites α → Pane α → Bool
  | [], _ => false
  | w :: rest, p => p.changes w.1 w.2 || changedBy rest (p.writeAxis w.1 w.2)

def changedIn : AxisWrites α → List (ChartAxis α) → Bool
  | [], _ => false
  | w :: rest, axes => changesIn axes w.1 w.2 || changedIn rest (writeIn axes w.1 w.2)

variable {writes : AxisWrites α}

@[simp] theorem viewport_writeAll (writes : AxisWrites α) (p : Pane α) : (p.writeAll writes).viewport = p.viewport := by
  induction writes generalizing p with
  | nil => rfl
  | cons w rest ih => exact (ih (p.writeAxis w.1 w.2)).trans (viewport_writeAxis ..)

@[simp] theorem holds_writeAll (writes : AxisWrites α) (p : Pane α) : (p.writeAll writes).holds = p.holds :=
  holds_foldl (fun _ _ => holds_writeAxis ..) writes p

theorem xAxes_writeAll (writes : AxisWrites α) (p : Pane α) :
    (p.writeAll writes).xAxes = writeAllIn writes p.xAxes := by
  induction writes generalizing p with
  | nil => rfl
  | cons w rest ih =>
    refine (ih (p.writeAxis w.1 w.2)).trans ?_
    rw [xAxes_writeAxis]
    rfl

theorem axisIds_writeAll (hkeep : writes.KeepNames) (p : Pane α) (family : AxisFamily) :
    (p.writeAll writes).axisIds family = p.axisIds family := by
  induction writes generalizing p with
  | nil => rfl
  | cons w rest ih =>
    refine (ih hkeep.tail (p.writeAxis w.1 w.2)).trans ?_
    exact axisIds_writeAxis (hkeep w List.mem_cons_self) family

/-- Writes to other names leave the axes as they are. -/
theorem writeAllIn_of_not_mem (h : ∀ w ∈ writes, w.1 ∉ axes.map (·.id)) : writeAllIn writes axes = axes := by
  induction writes with
  | nil => rfl
  | cons w rest ih =>
    rw [writeAllIn, List.foldl_cons, writeIn_of_not_mem (h w List.mem_cons_self)]
    exact ih fun v hv => h v (List.mem_cons_of_mem w hv)

theorem writeAllIn_append (earlier later : AxisWrites α) (axes : List (ChartAxis α)) :
    writeAllIn (earlier ++ later) axes = writeAllIn later (writeAllIn earlier axes) :=
  List.foldl_append

/-- Writes to other names pass an axis by. -/
theorem writeAllIn_cons {a : ChartAxis α} (h : ∀ w ∈ writes, w.1 ≠ a.id) (axes : List (ChartAxis α)) :
    writeAllIn writes (a :: axes) = a :: writeAllIn writes axes := by
  induction writes generalizing axes with
  | nil => rfl
  | cons w rest ih =>
    have hother : (a.id == w.1) = false := beq_eq_false_iff_ne.2 (h w List.mem_cons_self).symm
    have hhead : writeIn (a :: axes) w.1 w.2 = a :: writeIn axes w.1 w.2 := by
      unfold writeIn
      rw [List.find?_cons, hother]
      cases axes.find? (·.id == w.1) with
      | none => rfl
      | some b => exact if_neg (Bool.eq_false_iff.1 hother)
    rw [writeAllIn, List.foldl_cons, hhead]
    exact ih (fun v hv => h v (List.mem_cons_of_mem w hv)) _

/-- Writes to distinct names, each to an axis of its own. -/
theorem writeAllIn_map (hkeep : ∀ a, (write a).axis.id = a.id) (hnodup : (axes.map (·.id)).Nodup) :
    writeAllIn (axes.map fun a => (a.id, write)) axes = axes.map fun a => (write a).axis := by
  induction axes with
  | nil => rfl
  | cons a rest ih =>
    rw [List.map_cons, List.nodup_cons] at hnodup
    have hhead : writeIn (a :: rest) a.id write = (write a).axis :: rest := by
      rw [writeIn, List.find?_cons, BEq.rfl]
      exact if_pos BEq.rfl
    have hothers : ∀ w ∈ rest.map fun b => (b.id, write), w.1 ≠ (write a).axis.id := by
      intro w hw heq
      obtain ⟨b, hb, rfl⟩ := List.mem_map.1 hw
      exact hnodup.1 (hkeep a ▸ heq ▸ List.mem_map_of_mem hb)
    rw [List.map_cons, List.map_cons, writeAllIn, List.foldl_cons, hhead]
    exact (writeAllIn_cons hothers rest).trans (congrArg _ (ih hnodup.2))

theorem map_id_writeAllIn (hkeep : writes.KeepNames) (axes : List (ChartAxis α)) :
    (writeAllIn writes axes).map (·.id) = axes.map (·.id) := by
  induction writes generalizing axes with
  | nil => rfl
  | cons w rest ih =>
    refine (ih hkeep.tail (writeIn axes w.1 w.2)).trans ?_
    exact map_id_writeIn (hkeep w List.mem_cons_self)

theorem axis?_writeAll_of_not_mem (hkeep : writes.KeepNames) (h : id ∉ writes.map (·.1)) (p : Pane α) :
    (p.writeAll writes).axis? id = p.axis? id := by
  induction writes generalizing p with
  | nil => rfl
  | cons w rest ih =>
    rw [List.map_cons, List.mem_cons, not_or] at h
    refine (ih hkeep.tail h.2 (p.writeAxis w.1 w.2)).trans ?_
    rw [axis?_writeAxis (hkeep w List.mem_cons_self), if_neg h.1]

/-- Of writes to distinct names each has its own axis to itself. -/
theorem axis?_writeAll_of_mem (hkeep : writes.KeepNames) (hnodup : (writes.map (·.1)).Nodup)
    (h : (id, write) ∈ writes) (p : Pane α) :
    (p.writeAll writes).axis? id = (p.axis? id).map fun a => (write a).axis := by
  induction writes generalizing p with
  | nil => cases h
  | cons w rest ih =>
    rw [List.map_cons, List.nodup_cons] at hnodup
    have hhead := hkeep w List.mem_cons_self
    rcases List.mem_cons.1 h with rfl | hrest
    · refine (axis?_writeAll_of_not_mem hkeep.tail hnodup.1 (p.writeAxis id write)).trans ?_
      rw [axis?_writeAxis hhead, if_pos rfl]
    · have hne : id ≠ w.1 := fun heq => hnodup.1 (heq ▸ List.mem_map_of_mem hrest)
      refine (ih hkeep.tail hnodup.2 hrest (p.writeAxis w.1 w.2)).trans ?_
      rw [axis?_writeAxis hhead, if_neg hne]

/-- Without a published change every axis is as it was. -/
theorem axis?_writeAll_of_unchanged (hkeep : writes.KeepNames)
    (hquiet : ∀ w ∈ writes, ∀ a, (w.2 a).changed = false → (w.2 a).axis = a) (h : changedBy writes p = false)
    (id : String) : (p.writeAll writes).axis? id = p.axis? id := by
  induction writes generalizing p with
  | nil => rfl
  | cons w rest ih =>
    rw [changedBy, Bool.or_eq_false_iff] at h
    refine (ih hkeep.tail (fun v hv => hquiet v (List.mem_cons_of_mem w hv)) h.2).trans ?_
    rw [axis?_writeAxis (hkeep w List.mem_cons_self)]
    split
    · next heq =>
      rw [heq]
      rw [changes] at h
      cases hfound : p.axis? w.1 with
      | none => rfl
      | some a =>
        rw [hfound, Option.any_some] at h
        rw [Option.map_some, hquiet w List.mem_cons_self a h.1]
    · rfl

theorem writeAxis_withNotifier (p : Pane α) (n : Notifier α) (id : String) (write : ChartAxis α → AxisWrite α) :
    ∃ n', { p with notifier := n }.writeAxis id write = { p.writeAxis id write with notifier := n' } := by
  have haxis : { p with notifier := n }.axis? id = p.axis? id := rfl
  rw [writeAxis, writeAxis, haxis]
  cases p.axis? id with
  | none => exact ⟨n, rfl⟩
  | some a =>
    dsimp only
    split <;> exact ⟨_, rfl⟩

theorem writeAll_withNotifier (writes : AxisWrites α) (p : Pane α) (n : Notifier α) :
    ∃ n', { p with notifier := n }.writeAll writes = { p.writeAll writes with notifier := n' } := by
  induction writes generalizing p n with
  | nil => exact ⟨n, rfl⟩
  | cons w rest ih =>
    obtain ⟨n', hn'⟩ := writeAxis_withNotifier p n w.1 w.2
    obtain ⟨n'', hn''⟩ := ih (p.writeAxis w.1 w.2) n'
    rw [writeAll, List.foldl_cons, hn']
    exact ⟨n'', hn''⟩

/-- A suspended scope delays what is published, and changes nothing else. -/
theorem suspended_writeAll (writes : AxisWrites α) (p : Pane α) :
    ∃ n, p.suspended (writeAll writes) = { p.writeAll writes with notifier := n } := by
  obtain ⟨n, hn⟩ := writeAll_withNotifier writes p p.notifier.suspend
  rw [suspended, hn]
  exact ⟨n.resume, rfl⟩

/-- Neither the viewport nor the holder of the pointer nor the names of the axes change. -/
structure KeepsLayout (p q : Pane α) : Prop where
  viewport : q.viewport = p.viewport
  capturedBy : q.capturedBy = p.capturedBy
  axisIds : ∀ family, q.axisIds family = p.axisIds family

namespace KeepsLayout

variable {q r : Pane α}

theorem refl (p : Pane α) : p.KeepsLayout p := ⟨rfl, rfl, fun _ => rfl⟩

theorem trans (h : p.KeepsLayout q) (h' : q.KeepsLayout r) : p.KeepsLayout r where
  viewport := h'.viewport.trans h.viewport
  capturedBy := h'.capturedBy.trans h.capturedBy
  axisIds family := (h'.axisIds family).trans (h.axisIds family)

theorem notifier (p : Pane α) (n : Notifier α) : p.KeepsLayout { p with notifier := n } := ⟨rfl, rfl, fun _ => rfl⟩

theorem writeAll (hkeep : writes.KeepNames) (p : Pane α) : p.KeepsLayout (p.writeAll writes) where
  viewport := viewport_writeAll writes p
  capturedBy := (holds_inj (holds_writeAll writes p)).1
  axisIds := axisIds_writeAll hkeep p

theorem suspended_writeAll (hkeep : writes.KeepNames) (p : Pane α) :
    p.KeepsLayout (p.suspended (Pane.writeAll writes)) := by
  obtain ⟨n, hn⟩ := Pane.suspended_writeAll writes p
  rw [hn]
  exact (writeAll hkeep p).trans (notifier _ n)

theorem asOwnWrites {f : Pane α → Pane α} (hf : ∀ q : Pane α, q.KeepsLayout (f q)) (owner : OwnerId) (p : Pane α) :
    p.KeepsLayout (p.asOwnWrites owner f) :=
  ((notifier p _).trans (hf _)).trans (notifier _ _)

end KeepsLayout

/-- A suspended scope of writes to the x axes and then to other axes. -/
theorem xAxes_suspended_writeAll {xWrites yWrites : AxisWrites α} (hkeep : xWrites.KeepNames)
    (hy : ∀ w ∈ yWrites, w.1 ∉ p.axisIds .x) :
    (p.suspended (writeAll (xWrites ++ yWrites))).xAxes = writeAllIn xWrites p.xAxes := by
  obtain ⟨n, hn⟩ := suspended_writeAll (xWrites ++ yWrites) p
  have hout : ∀ w ∈ yWrites, w.1 ∉ (writeAllIn xWrites p.xAxes).map (·.id) := by
    rw [map_id_writeAllIn hkeep]
    exact hy
  rw [hn]
  exact (xAxes_writeAll ..).trans ((writeAllIn_append ..).trans (writeAllIn_of_not_mem hout))

/-! ### What a watch sees of them -/

section Watched

variable {owner depth : Nat} {waiting : Bool} {state : ChangeWatch}

open Notifier (Shows)

theorem shows_writeAxis (h : p.notifier.Shows owner 0 false state) (id : String) (write : ChartAxis α → AxisWrite α) :
    (p.writeAxis id write).notifier.Shows owner 0 false (state.after (p.changes id write)) := by
  rw [notifier_writeAxis, changes]
  cases p.axis? id with
  | none => exact h
  | some a =>
    rw [Option.elim_some, Option.any_some, AxisWrite.publish]
    cases (write a).changed with
    | false => exact h
    | true => exact h.notify _

theorem shows_writeAll (h : p.notifier.Shows owner 0 false state) (writes : AxisWrites α) :
    (p.writeAll writes).notifier.Shows owner 0 false (state.after (changedBy writes p)) := by
  induction writes generalizing p state with
  | nil => exact h
  | cons w rest ih =>
    rw [changedBy, ← ChangeWatch.after_after]
    exact ih (shows_writeAxis h w.1 w.2)

theorem shows_writeAxis_suspended (h : p.notifier.Shows owner (depth + 1) waiting state) (id : String)
    (write : ChartAxis α → AxisWrite α) :
    (p.writeAxis id write).notifier.Shows owner (depth + 1) (waiting || p.changes id write) state := by
  rw [notifier_writeAxis, changes]
  cases p.axis? id with
  | none =>
    rw [Option.elim_none, Option.any_none, Bool.or_false]
    exact h
  | some a =>
    rw [Option.elim_some, Option.any_some, AxisWrite.publish]
    cases (write a).changed with
    | false =>
      rw [Bool.or_false]
      exact h
    | true =>
      rw [Bool.or_true]
      exact h.notify_suspended _

theorem shows_writeAll_suspended (h : p.notifier.Shows owner (depth + 1) waiting state) (writes : AxisWrites α) :
    (p.writeAll writes).notifier.Shows owner (depth + 1) (waiting || changedBy writes p) state := by
  induction writes generalizing p waiting with
  | nil =>
    rw [changedBy, Bool.or_false]
    exact h
  | cons w rest ih =>
    rw [changedBy, ← Bool.or_assoc]
    exact ih (shows_writeAxis_suspended h w.1 w.2)

theorem changedBy_withNotifier (writes : AxisWrites α) (p : Pane α) (n : Notifier α) :
    changedBy writes { p with notifier := n } = changedBy writes p := by
  induction writes generalizing p n with
  | nil => rfl
  | cons w rest ih =>
    obtain ⟨n', hn'⟩ := writeAxis_withNotifier p n w.1 w.2
    rw [changedBy, changedBy, hn', ih]
    rfl

/-- In one scope the writes are one change, or none. -/
theorem shows_suspended_writeAll (h : p.notifier.Shows owner 0 false state) (writes : AxisWrites α) :
    (p.suspended (writeAll writes)).notifier.Shows owner 0 false (state.after (changedBy writes p)) := by
  have hinside : { p with notifier := p.notifier.suspend }.notifier.Shows owner 1 false state := h.suspend
  have hafter := (shows_writeAll_suspended hinside writes).resume
  rw [changedBy_withNotifier, Bool.false_or] at hafter
  exact hafter

/-- Writes in a scope of own writes are no change to the owner. -/
theorem shows_suspended_own (h : p.notifier.Shows owner 0 false state) (hown : 0 < state.ownWrites)
    (writes : AxisWrites α) : (p.suspended (writeAll writes)).notifier.Shows owner 0 false state := by
  have hafter := shows_suspended_writeAll h writes
  rw [ChangeWatch.after_ownWrites hown] at hafter
  exact hafter

end Watched

/-- Writes to x axes and then to names of no x axis concern the x axes and the y axes each for themselves. -/
theorem changedBy_append {xWrites yWrites : AxisWrites α} (hkeep : xWrites.KeepNames) (hkeep' : yWrites.KeepNames)
    (hx : ∀ w ∈ xWrites, w.1 ∈ p.axisIds .x) (hy : ∀ w ∈ yWrites, w.1 ∉ p.axisIds .x) :
    changedBy (xWrites ++ yWrites) p = (changedIn xWrites p.xAxes || changedIn yWrites p.yAxes) := by
  induction xWrites generalizing p with
  | cons w rest ih =>
    have hhead := hkeep w List.mem_cons_self
    have hids : (p.writeAxis w.1 w.2).axisIds .x = p.axisIds .x := axisIds_writeAxis hhead .x
    rw [List.cons_append, changedBy, changes_of_mem (hx w List.mem_cons_self),
      ih hkeep.tail (fun v hv => hids ▸ hx v (List.mem_cons_of_mem w hv)) (fun v hv => hids ▸ hy v hv),
      xAxes_writeAxis, yAxes_writeAxis_of_mem (hx w List.mem_cons_self), changedIn, Bool.or_assoc]
  | nil =>
    rw [List.nil_append, changedIn, Bool.false_or]
    induction yWrites generalizing p with
    | nil => rfl
    | cons w rest ih =>
      have hids : (p.writeAxis w.1 w.2).axisIds .x = p.axisIds .x := axisIds_writeAxis (hkeep' w List.mem_cons_self) .x
      have hout := hy w List.mem_cons_self
      rw [changedBy, changes_of_not_mem hout,
        ih hkeep'.tail (fun v hv => nomatch hv) (fun v hv => hids ▸ hy v (List.mem_cons_of_mem w hv)),
        yAxes_writeAxis_of_not_mem hout, changedIn]

end Pane

end ChartGestures
