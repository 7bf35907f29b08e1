import ChartGestures.Gesture.Group
import Mathlib.Data.List.Perm.Basic

/-!
# Controllers that come and go

A group on its pane, with the controllers that were taken out of it and may be put back. What a removal does is said
once: it takes the first controller of the name out of the group, and detaches it if the group is attached; no call
loses or doubles a controller.
-/

namespace ChartGestures

variable {α κ : Type} [Scalar α] [Decimals α] [GestureController α κ]

namespace ControllerGroup

/-- A removal finds no controller of the name and does nothing, or takes out the first of them. -/
theorem remove_cases (g : ControllerGroup κ) (id : OwnerId) (p : Pane α) :
    ((g.controllers.find? fun c => GestureController.id α c == id) = none ∧ g.remove id p = (none, g, p)) ∨
      ∃ before c after, g.controllers = before ++ c :: after ∧
        (g.controllers.find? fun c => GestureController.id α c == id) = some c ∧
        g.remove id p =
          let left := { g with controllers := before ++ after }
          if g.attached then (some (GestureController.detached c p).1, left, (GestureController.detached c p).2)
          else (some c, left, p) := by
  cases hfound : g.controllers.find? fun c => GestureController.id α c == id with
  | none =>
    have hindex : (g.controllers.findIdx? fun c => GestureController.id α c == id) = none := by
      rw [List.findIdx?_eq_none_iff]
      exact fun c hc => Bool.eq_false_iff.2 (List.find?_eq_none.1 hfound c hc)
    refine .inl ⟨rfl, ?_⟩
    rw [remove, hindex]
  | some c =>
    obtain ⟨hid, before, after, hg, hbefore⟩ := List.find?_eq_some_iff_append.1 hfound
    have hindex : (g.controllers.findIdx? fun c => GestureController.id α c == id) = some before.length := by
      have hnone : (before.findIdx? fun c => GestureController.id α c == id) = none :=
        List.findIdx?_eq_none_iff.2 fun b hb => by simpa using hbefore b hb
      rw [hg, List.findIdx?_append, hnone, List.findIdx?_cons, hid]
      simp
    have htaken : g.controllers[before.length]? = some c := by
      rw [hg, List.getElem?_append_right (Nat.le_refl _), Nat.sub_self, List.getElem?_cons_zero]
    have hleft : g.controllers.eraseIdx before.length = before ++ after := by
      rw [hg, List.eraseIdx_append_of_length_le (Nat.le_refl _), Nat.sub_self, List.eraseIdx_cons_zero]
    refine .inr ⟨before, c, after, hg, rfl, ?_⟩
    rw [remove, hindex]
    dsimp only
    rw [htaken, hleft]

end ControllerGroup

/-- A group on its pane, and the controllers that were taken out of it. -/
structure GroupOnPane (α κ : Type) [Scalar α] [Decimals α] where
  group : ControllerGroup κ
  pane : Pane α
  removed : List κ

/-- What is done to the members of a group. -/
inductive MembershipCall (κ : Type) where
  | add (c : κ)
  /-- Adds a controller that was taken out before. -/
  | putBack (id : OwnerId)
  | attach
  | detach
  | remove (id : OwnerId)

/-- The same call in a group of controllers that are made of others. -/
def MembershipCall.map {κ μ : Type} (f : κ → μ) : MembershipCall κ → MembershipCall μ
  | add c => add (f c)
  | putBack id => putBack id
  | attach => attach
  | detach => detach
  | remove id => remove id

namespace GroupOnPane

/-- No controllers yet. -/
def on (p : Pane α) : GroupOnPane α κ := ⟨.ofList [], p, []⟩

/-- The controllers in the group and those taken out of it. -/
def members (s : GroupOnPane α κ) : List κ := s.group.controllers ++ s.removed

def putBack (s : GroupOnPane α κ) (id : OwnerId) : GroupOnPane α κ :=
  match s.removed.find? fun c => GestureController.id α c == id with
  | none => s
  | some c =>
    { s with
      group := s.group.add c
      removed := s.removed.eraseP fun c => GestureController.id α c == id }

def remove (s : GroupOnPane α κ) (id : OwnerId) : GroupOnPane α κ :=
  let (c?, group, pane) := s.group.remove id s.pane
  ⟨group, pane, s.removed ++ c?.toList⟩

def apply (s : GroupOnPane α κ) : MembershipCall κ → GroupOnPane α κ
  | .add c => { s with group := s.group.add c }
  | .putBack id => s.putBack id
  | .attach => { s with group := (s.group.attach s.pane).1, pane := (s.group.attach s.pane).2 }
  | .detach => { s with group := (s.group.detach s.pane).1, pane := (s.group.detach s.pane).2 }
  | .remove id => s.remove id

/-- Nothing is put back, or the first of the name, at the end of the group. -/
theorem putBack_cases (s : GroupOnPane α κ) (id : OwnerId) :
    ((s.removed.find? fun c => GestureController.id α c == id) = none ∧ s.putBack id = s) ∨
      ∃ before c after, s.removed = before ++ c :: after ∧
        (s.removed.find? fun c => GestureController.id α c == id) = some c ∧
        s.putBack id = ⟨s.group.add c, s.pane, before ++ after⟩ := by
  cases hfound : s.removed.find? fun c => GestureController.id α c == id with
  | none =>
    refine .inl ⟨rfl, ?_⟩
    rw [putBack, hfound]
  | some c =>
    obtain ⟨hid, before, after, hremoved, hbefore⟩ := List.find?_eq_some_iff_append.1 hfound
    refine .inr ⟨before, c, after, hremoved, rfl, ?_⟩
    rw [putBack, hfound]
    dsimp only
    rw [hremoved, List.eraseP_append_right _ (by simpa using hbefore), List.eraseP_cons, hid]
    rfl

end GroupOnPane

end ChartGestures
