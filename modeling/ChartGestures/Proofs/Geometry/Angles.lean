import ChartGestures.Geometry.Coordinates
import ChartGestures.Number.Exact
import Mathlib.Algebra.Order.Field.Rat
import Mathlib.Data.Rat.Sqrt
import Mathlib.Tactic.Linarith
import Mathlib.Tactic.Ring

/-!
# The way from one angle to another

Over exact numbers a wrapped angle differs from the angle by whole turns, and the way from one angle to another is the
shortest of all that lead there, however many turns apart the two are.
-/

namespace ChartGestures

open Scalar

/-- Lengths that have a rational root, and directions along the two axes. -/
@[reducible] def Trigonometry.alongAxes : Trigonometry Rat where
  length x y := Rat.sqrt (x * x + y * y)
  direction x y := if y = 0 then (if 0 ≤ x then 0 else 180) else if 0 < y then 90 else -90
  cosine degrees := if wrapTurn 360 degrees = 0 then 1 else if wrapTurn 360 degrees = 180 then -1 else 0
  sine degrees := if wrapTurn 360 degrees = 90 then 1 else if wrapTurn 360 degrees = 270 then -1 else 0

/-! ### Whole turns taken away -/

section Turns

variable {turn : Nat}

theorem exists_modTurn (hturn : 0 < turn) (x : Rat) :
    ∃ turns : Int, modTurn turn x = x - turn * turns ∧ -(turn : Rat) < modTurn turn x ∧ modTurn turn x < turn := by
  have hden : (0 : Rat) < x.den := by exact_mod_cast x.den_pos
  have hmod : modTurn turn x = x - turn * (Int.tdiv x.num (x.den * turn) : Int) := by
    simp only [modTurn, toRat?]
    split
    · next hzero => rw [hzero, mul_zero]
    · rfl
  -- The remainder of the numerator, over the denominator.
  have hrest : modTurn turn x = (Int.tmod x.num (x.den * turn) : Int) / x.den := by
    have hdivision : (x.num : Rat) = (x.den * turn) * (Int.tdiv x.num (x.den * turn) : Int) +
        (Int.tmod x.num (x.den * turn) : Int) := by
      exact_mod_cast (Int.mul_tdiv_add_tmod x.num (x.den * turn)).symm
    rw [hmod, eq_div_iff hden.ne', sub_mul, Rat.mul_den_eq_num, hdivision]
    ring
  have hwhole : (0 : Int) < x.den * turn := by positivity
  have hlower : -((x.den : Int) * turn) < Int.tmod x.num (x.den * turn) := Int.lt_tmod_of_pos x.num hwhole
  have hupper : Int.tmod x.num (x.den * turn) < x.den * turn := Int.tmod_lt_of_pos x.num hwhole
  refine ⟨_, hmod, ?_, ?_⟩
  · rw [hrest, lt_div_iff₀ hden]
    have : (-(x.den * turn) : Rat) < (Int.tmod x.num (x.den * turn) : Int) := by exact_mod_cast hlower
    linarith
  · rw [hrest, div_lt_iff₀ hden]
    have : ((Int.tmod x.num (x.den * turn) : Int) : Rat) < x.den * turn := by exact_mod_cast hupper
    linarith

theorem exists_wrapTurn (hturn : 0 < turn) (x : Rat) :
    ∃ turns : Int, wrapTurn turn x = x - turn * turns ∧ 0 ≤ wrapTurn turn x ∧ wrapTurn turn x < turn := by
  obtain ⟨turns, hmod, hlower, hupper⟩ := exists_modTurn hturn x
  unfold wrapTurn
  dsimp only
  split
  · next hneg =>
    have hone : (ofInt turn : Rat) = turn := rfl
    refine ⟨turns - 1, ?_, ?_, ?_⟩
    · rw [hmod, hone]
      push_cast
      ring
    · rw [hone]
      linarith
    · rw [hone]
      linarith
  · next hnonneg => exact ⟨turns, hmod, not_lt.1 hnonneg, hupper⟩

end Turns

/-! ### The way around -/

variable {start finish : Rat}

theorem exists_angleDelta (start finish : Rat) : ∃ turns : Int,
    angleDelta start finish = finish - start - 360 * turns ∧
      -180 < angleDelta start finish ∧ angleDelta start finish ≤ 180 := by
  have hpositive : 0 < 360 := by decide
  obtain ⟨turns, hwrap, hlower, hupper⟩ := exists_wrapTurn hpositive (finish - start)
  push_cast at hwrap hupper
  unfold angleDelta
  dsimp only
  split
  · next hfar =>
    refine ⟨turns + 1, ?_, ?_, ?_⟩
    · rw [hwrap]
      push_cast
      ring
    · linarith
    · linarith
  · next hnear => exact ⟨turns, hwrap, by linarith, not_lt.1 hnear⟩

theorem abs_angleDelta_le_half_turn (start finish : Rat) : |angleDelta start finish| ≤ 180 := by
  obtain ⟨-, -, hlower, hupper⟩ := exists_angleDelta start finish
  exact abs_le.2 ⟨hlower.le, hupper⟩

/-- Taking whole turns off a way brings it no closer to nothing than the rest of a turn does. -/
theorem le_abs_sub_turns {way bound : Rat} (h : bound ≤ |way|) (hrest : bound ≤ 360 - |way|) (turns : Int) :
    bound ≤ |way - 360 * turns| := by
  rcases eq_or_ne turns 0 with rfl | hne
  · rwa [Int.cast_zero, mul_zero, sub_zero]
  · have hwhole : (1 : Rat) ≤ |(turns : Rat)| := by exact_mod_cast Int.one_le_abs hne
    have hturn : (360 : Rat) ≤ |360 * (turns : Rat)| := by
      rw [abs_mul, abs_of_pos (by norm_num : (0 : Rat) < 360)]
      linarith
    have hsplit := abs_sub way (way - 360 * turns)
    rw [sub_sub_cancel] at hsplit
    linarith

/-- No other way between the two angles is shorter. -/
theorem abs_angleDelta_le (start finish : Rat) (turns : Int) :
    |angleDelta start finish| ≤ |finish - start - 360 * turns| := by
  obtain ⟨best, hbest, -, -⟩ := exists_angleDelta start finish
  have hhalf := abs_angleDelta_le_half_turn start finish
  have hway : finish - start - 360 * turns = angleDelta start finish - 360 * (turns - best : Int) := by
    rw [hbest]
    push_cast
    ring
  rw [hway]
  exact le_abs_sub_turns le_rfl (by linarith) _

theorem abs_angleDelta_lt_iff {bound : Rat} :
    |angleDelta start finish| < bound ↔ ∃ turns : Int, |finish - start - 360 * turns| < bound := by
  constructor
  · intro h
    obtain ⟨turns, hturns, -, -⟩ := exists_angleDelta start finish
    exact ⟨turns, hturns ▸ h⟩
  · rintro ⟨turns, h⟩
    exact (abs_angleDelta_le start finish turns).trans_lt h

end ChartGestures
