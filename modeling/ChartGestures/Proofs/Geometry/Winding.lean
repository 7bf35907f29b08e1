import ChartGestures.Proofs.Geometry.Angles
import Mathlib.Data.List.Forall2

/-!
# Following a path that winds

A coordinate of a polar surface tells its angle up to whole turns. Who follows a path takes each coordinate next to the
one before, and so goes the way of the path itself, over any number of turns and back, as long as no step of the path is
longer than half a turn. The turns by which the first coordinate was off are the turns by which the last one is.
-/

namespace ChartGestures

open Scalar

/-- Two ways shorter than a turn that differ by whole turns are the same way. -/
theorem eq_zero_of_sub_turns {way other : Rat} {turns : Int} (hlower : -180 < way) (hupper : way ≤ 180)
    (hlower' : -180 < other) (hupper' : other ≤ 180) (h : way = other - 360 * turns) : turns = 0 := by
  have hbelow : (turns : Rat) < 1 := by linarith
  have habove : (-1 : Rat) < turns := by linarith
  have hbelow' : turns < 1 := by exact_mod_cast hbelow
  have habove' : -1 < turns := by exact_mod_cast habove
  omega

namespace Point

/-- The coordinate some turns further around. -/
def turned (q : Point Rat) (turns : Int) : Point Rat := ⟨q.x + 360 * turns, q.y⟩

/-- The coordinate as a surface gives it, its angle within one turn. -/
def wrapped (q : Point Rat) : Point Rat := ⟨wrapTurn 360 q.x, q.y⟩

theorem exists_wrapped (q : Point Rat) : ∃ turns : Int, q.wrapped = q.turned turns := by
  have hpositive : 0 < 360 := by decide
  obtain ⟨turns, hwrap, -, -⟩ := exists_wrapTurn hpositive q.x
  have hangle : wrapTurn 360 q.x = q.x + 360 * (-turns : Int) := by
    rw [hwrap]
    push_cast
    ring
  exact ⟨-turns, congrArg (Point.mk · q.y) hangle⟩

/-- At most half a turn on, and less than half a turn back. -/
def IsWithinHalfTurn (p q : Point Rat) : Prop := -180 < q.x - p.x ∧ q.x - p.x ≤ 180

instance (p q : Point Rat) : Decidable (p.IsWithinHalfTurn q) := inferInstanceAs (Decidable (_ ∧ _))

end Point

namespace Coordinates

variable {c : Coordinates Rat} {p q : Point Rat}

/-- One step keeps the turns by which it started off, whatever turns its end is off. -/
theorem follow_turned (hpolar : c.system = .polar) (hstep : p.IsWithinHalfTurn q) (turns others : Int) :
    c.follow (p.turned turns) (q.turned others) = q.turned turns := by
  obtain ⟨rest, hdelta, hlower, hupper⟩ := exists_angleDelta (p.turned turns).x (q.turned others).x
  have hway : angleDelta (p.turned turns).x (q.turned others).x = (q.x - p.x) - 360 * (turns - others + rest : Int) := by
    rw [hdelta, Point.turned, Point.turned]
    push_cast
    ring
  have hnone := eq_zero_of_sub_turns hlower hupper hstep.1 hstep.2 hway
  rw [hnone, Int.cast_zero, mul_zero, sub_zero] at hway
  have hangle : p.x + 360 * turns + (q.x - p.x) = q.x + 360 * turns := by ring
  simp only [follow, hpolar]
  rw [hway]
  exact congrArg (Point.mk · q.y) hangle

theorem foldl_follow_turned (hpolar : c.system = .polar) {path seen : List (Point Rat)}
    (hpath : (p :: path).IsChain Point.IsWithinHalfTurn)
    (hseen : List.Forall₂ (fun q s => ∃ others : Int, s = q.turned others) path seen) (turns : Int) :
    seen.foldl c.follow (p.turned turns) = (path.getLastD p).turned turns := by
  induction hseen generalizing p with
  | nil => rfl
  | @cons q s path seen hs _ ih =>
    obtain ⟨hstep, hrest⟩ := List.isChain_cons_cons.1 hpath
    obtain ⟨others, rfl⟩ := hs
    rw [List.foldl_cons, follow_turned hpolar hstep, ih hrest, List.getLastD_cons]

/-- The way from one angle to another is a way around by at most half a turn. Along a path whose steps are no longer, the
coordinates of the path, each with its angle within one turn, lead as far from the first one as the path does. -/
theorem follow_winds (viewport : Rect Rat) :
    let c : Coordinates Rat := ⟨.polar, viewport⟩
    (∀ start finish : Rat, (-180 < angleDelta start finish ∧ angleDelta start finish ≤ 180) ∧
      ∃ turns : Int, angleDelta start finish = finish - start - 360 * turns) ∧
    ∀ (first : Point Rat) (path : List (Point Rat)), (first :: path).IsChain Point.IsWithinHalfTurn →
      let finish := (path.map Point.wrapped).foldl c.follow first.wrapped
      finish.x - first.wrapped.x = (path.getLastD first).x - first.x ∧ finish.y = (path.getLastD first).y := by
  intro c
  refine ⟨fun start finish => ?_, fun first path hpath => ?_⟩
  · obtain ⟨turns, hdelta, hlower, hupper⟩ := exists_angleDelta start finish
    exact ⟨⟨hlower, hupper⟩, turns, hdelta⟩
  · have hseen : List.Forall₂ (fun q s => ∃ others : Int, s = q.turned others) path (path.map Point.wrapped) := by
      rw [List.forall₂_map_right_iff, List.forall₂_same]
      exact fun q _ => q.exists_wrapped
    obtain ⟨turns, hfirst⟩ := first.exists_wrapped
    intro finish
    have hfinish : finish = (path.getLastD first).turned turns := by
      simp only [finish]
      rw [hfirst, foldl_follow_turned rfl hpath hseen]
    rw [hfinish, hfirst]
    exact ⟨add_sub_add_right_eq_sub .., rfl⟩

/-- Twice around by half turns, and back by less than one. -/
theorem follow_winds_twice :
    let c : Coordinates Rat := ⟨.polar, ⟨0, 0, 400, 400⟩⟩
    let first : Point Rat := ⟨350, 10⟩
    let path : List (Point Rat) := [⟨530, 20⟩, ⟨710, 30⟩, ⟨890, 40⟩, ⟨1070, 50⟩, ⟨900, 60⟩]
    (first :: path).IsChain Point.IsWithinHalfTurn ∧ path.map (·.wrapped.x) = [170, 350, 170, 350, 180] ∧
      ((path.map Point.wrapped).foldl c.follow first.wrapped).x = 900 := by
  intro c first path
  have hpath : (first :: path).IsChain Point.IsWithinHalfTurn := by decide +kernel
  have hsweep : _ = (900 : Rat) - 350 := ((follow_winds ⟨0, 0, 400, 400⟩).2 first path hpath).1
  have hfirst : first.wrapped.x = 350 := by decide +kernel
  rw [hfirst] at hsweep
  exact ⟨hpath, by decide +kernel, sub_left_injective hsweep⟩

end Coordinates

end ChartGestures
