import ChartGestures.Number.ExactDecimal
import ChartGestures.Proofs.Axis.RoundedMargins

/-!
# Shifting whole numbers

A shift of a range of whole numbers rounds each bound by itself, and away from zero where the bound is halfway between
two whole numbers. Both bounds are halfway at once, by a shift that is halfway itself. On one side of zero they then go
the same way, and on either side of it they go apart: such a shift widens the range by one, and every other shift keeps
its width. So a range pulled to and fro across zero grows at each pull, and none ever shrinks.
-/

namespace ChartGestures

open Scalar

/-! ### Rounding what a shift leads to -/

/-- In the middle between two whole numbers. -/
def IsHalfway (q : ℚ) : Prop := ∃ n : Int, q = n + 1 / 2

theorem isHalfway_iff_floor {q : ℚ} : IsHalfway q ↔ (⌊q + 1 / 2⌋ : ℚ) = q + 1 / 2 := by
  constructor
  · rintro ⟨n, rfl⟩
    have hnext : (n : ℚ) + 1 / 2 + 1 / 2 = ((n + 1 : Int) : ℚ) := by
      push_cast
      ring
    rw [hnext, Int.floor_intCast]
  · intro h
    refine ⟨⌊q + 1 / 2⌋ - 1, ?_⟩
    push_cast
    linarith

instance (q : ℚ) : Decidable (IsHalfway q) := decidable_of_iff _ isHalfway_iff_floor.symm

theorem add_ne_zero_of_isHalfway {shift : ℚ} (n : Int) (h : IsHalfway shift) : (n : ℚ) + shift ≠ 0 := by
  obtain ⟨k, rfl⟩ := h
  intro hzero
  have hodd : ((2 * (n + k) + 1 : Int) : ℚ) = 0 := by
    push_cast
    linarith
  have hodd' := Int.cast_eq_zero.1 hodd
  omega

/-- A whole number that is shifted goes along with the shift, except that it goes back by one where it is halfway below
zero. -/
theorem roundHalfAway_shift (n : Int) (shift : ℚ) :
    roundHalfAway (n + shift) = n + ⌊shift + 1 / 2⌋ - if IsHalfway shift ∧ (n : ℚ) + shift < 0 then 1 else 0 := by
  rw [roundHalfAway_eq]
  by_cases hneg : (n : ℚ) + shift < 0
  · have hmirror : ⌊-((n : ℚ) + shift) + 1 / 2⌋ = -n + ⌊1 / 2 - shift⌋ := by
      rw [← Int.floor_intCast_add]
      congr 1
      push_cast
      ring
    rw [if_pos hneg, hmirror]
    by_cases hhalf : IsHalfway shift
    · obtain ⟨k, rfl⟩ := hhalf
      have hbelow : ⌊(1 : ℚ) / 2 - (k + 1 / 2)⌋ = -k := by
        rw [Int.floor_eq_iff]
        push_cast
        constructor <;> linarith
      have habove : ⌊(k : ℚ) + 1 / 2 + 1 / 2⌋ = k + 1 := by
        rw [Int.floor_eq_iff]
        push_cast
        constructor <;> linarith
      rw [if_pos ⟨⟨k, rfl⟩, hneg⟩, hbelow, habove]
      omega
    · have hne := isHalfway_iff_floor.not.1 hhalf
      have hle := Int.floor_le (shift + 1 / 2)
      have hlt := Int.lt_floor_add_one (shift + 1 / 2)
      have hturned : ⌊1 / 2 - shift⌋ = -⌊shift + 1 / 2⌋ := by
        rw [Int.floor_eq_iff]
        push_cast
        constructor
        · linarith
        · linarith [lt_of_le_of_ne hle hne]
      rw [if_neg fun h => hhalf h.1, hturned]
      omega
  · have hsum : ⌊(n : ℚ) + shift + 1 / 2⌋ = n + ⌊shift + 1 / 2⌋ := by
      rw [add_assoc, Int.floor_intCast_add]
    rw [if_neg hneg, if_neg fun h => hneg h.2, hsum, sub_zero]

theorem toInt_ofCanonical_inside {x : Rat} (hlower : Int32.minValue.toInt ≤ roundHalfAway x)
    (hupper : roundHalfAway x ≤ Int32.maxValue.toInt) :
    ((Domain.int32 (α := Rat)).ofCanonical x).toInt = roundHalfAway x := by
  rw [Domain.toInt_int32_ofCanonical]
  change max Int32.minValue.toInt (min Int32.maxValue.toInt (roundHalfAway x)) = _
  rw [min_eq_right hupper, max_eq_right hlower]

namespace Interval

variable {v : Interval (Domain.int32 (α := Rat))} {shift : Rat} {shifts : List Rat}

/-- The range with both bounds shifted and rounded. -/
def shiftedBy (v : Interval (Domain.int32 (α := Rat))) (shift : Rat) : Interval (Domain.int32 (α := Rat)) :=
  .ofCanonical (v.canonicalMin + shift) (v.canonicalMax + shift)

/-- Neither shifted bound is one that the domain has to hold back. -/
structure StaysInside (v : Interval (Domain.int32 (α := Rat))) (shift : Rat) : Prop where
  lower : Int32.minValue.toInt ≤ roundHalfAway (v.min.toInt + shift)
  upper : roundHalfAway (v.max.toInt + shift) ≤ Int32.maxValue.toInt

instance (v : Interval (Domain.int32 (α := Rat))) (shift : Rat) : Decidable (v.StaysInside shift) :=
  decidable_of_iff (_ ∧ _) ⟨fun h => ⟨h.1, h.2⟩, fun h => ⟨h.1, h.2⟩⟩

/-- The shifted bounds are halfway, on either side of zero. -/
def Splits (v : Interval (Domain.int32 (α := Rat))) (shift : Rat) : Prop :=
  IsHalfway shift ∧ (v.min.toInt : Rat) + shift < 0 ∧ 0 < (v.max.toInt : Rat) + shift

instance (v : Interval (Domain.int32 (α := Rat))) (shift : Rat) : Decidable (v.Splits shift) :=
  inferInstanceAs (Decidable (_ ∧ _))

/-- Each shift keeps the range that it meets inside the domain. -/
def StaysInsideAll (v : Interval (Domain.int32 (α := Rat))) : List Rat → Prop
  | [] => True
  | shift :: shifts => v.StaysInside shift ∧ (v.shiftedBy shift).StaysInsideAll shifts

/-- How many of the shifts split the range that they meet. -/
def splits (v : Interval (Domain.int32 (α := Rat))) : List Rat → Nat
  | [] => 0
  | shift :: shifts => (if v.Splits shift then 1 else 0) + (v.shiftedBy shift).splits shifts

/-! ### One shift -/

/-- Bounds that are inside before they are rounded are so after it. -/
theorem staysInside_of_le (hlower : (Int32.minValue.toInt : Rat) ≤ v.min.toInt + shift)
    (hupper : v.max.toInt + shift ≤ Int32.maxValue.toInt) : v.StaysInside shift := by
  constructor
  · rw [← roundHalfAway_intCast Int32.minValue.toInt]
    exact roundHalfAway_mono _ _ hlower
  · rw [← roundHalfAway_intCast Int32.maxValue.toInt]
    exact roundHalfAway_mono _ _ hupper

theorem le_of_ordered (hv : v.min ≤ v.max) : (v.min.toInt : Rat) ≤ v.max.toInt := by
  exact_mod_cast Int32.le_iff_toInt_le.1 hv

theorem toInt_shiftedBy (hv : v.min ≤ v.max) (h : v.StaysInside shift) :
    (v.shiftedBy shift).min.toInt = roundHalfAway (v.min.toInt + shift) ∧
      (v.shiftedBy shift).max.toInt = roundHalfAway (v.max.toInt + shift) := by
  have hle : (v.min.toInt : Rat) + shift ≤ v.max.toInt + shift := by linarith [le_of_ordered hv]
  have hrounded := roundHalfAway_mono _ _ hle
  have hshifted : v.shiftedBy shift = ⟨_, _⟩ := Range.ofCanonical_int32 hle
  rw [hshifted]
  exact ⟨toInt_ofCanonical_inside h.lower (hrounded.trans h.upper),
    toInt_ofCanonical_inside (h.lower.trans hrounded) h.upper⟩

theorem ordered_shiftedBy (hv : v.min ≤ v.max) (h : v.StaysInside shift) :
    (v.shiftedBy shift).min ≤ (v.shiftedBy shift).max := by
  obtain ⟨hmin, hmax⟩ := toInt_shiftedBy hv h
  rw [Int32.le_iff_toInt_le, hmin, hmax]
  apply roundHalfAway_mono
  linarith [le_of_ordered hv]

/-- Bounds that are halfway are not at zero, so they go apart just if one is below zero and the other is not. -/
theorem diff_shiftedBy (hv : v.min ≤ v.max) (h : v.StaysInside shift) :
    (v.shiftedBy shift).diff = v.diff + if v.Splits shift then 1 else 0 := by
  obtain ⟨hmin, hmax⟩ := toInt_shiftedBy hv h
  have hdiff : (v.shiftedBy shift).diff =
      ((roundHalfAway (v.max.toInt + shift) - roundHalfAway (v.min.toInt + shift) : Int) : Rat) := by
    rw [Int.cast_sub, ← hmin, ← hmax]
    rfl
  have hold : v.diff = ((v.max.toInt - v.min.toInt : Int) : Rat) := (Int.cast_sub ..).symm
  have hbounds := le_of_ordered hv
  rw [hdiff, hold, roundHalfAway_shift, roundHalfAway_shift]
  by_cases hhalf : IsHalfway shift
  · by_cases hlow : (v.min.toInt : Rat) + shift < 0
    · by_cases hhigh : (v.max.toInt : Rat) + shift < 0
      · have hsame : ¬ v.Splits shift := fun hsplits => hsplits.2.2.not_gt hhigh
        rw [if_pos ⟨hhalf, hhigh⟩, if_pos ⟨hhalf, hlow⟩, if_neg hsame]
        push_cast
        ring
      · have hpositive := lt_of_le_of_ne (not_lt.1 hhigh) (add_ne_zero_of_isHalfway v.max.toInt hhalf).symm
        have hsplits : v.Splits shift := ⟨hhalf, hlow, hpositive⟩
        rw [if_neg fun hboth => hhigh hboth.2, if_pos ⟨hhalf, hlow⟩, if_pos hsplits]
        push_cast
        ring
    · have hhigh : ¬ (v.max.toInt : Rat) + shift < 0 := by linarith
      rw [if_neg fun hboth => hhigh hboth.2, if_neg fun hboth => hlow hboth.2, if_neg fun hsplits => hlow hsplits.2.1]
      push_cast
      ring
  · rw [if_neg fun hboth => hhalf hboth.1, if_neg fun hboth => hhalf hboth.1, if_neg fun hsplits => hhalf hsplits.1]
    push_cast
    ring

/-! ### Shift after shift -/

/-- Shifts that are not halfway never split a range. -/
theorem splits_eq_zero (h : ∀ shift ∈ shifts, ¬ IsHalfway shift) : v.splits shifts = 0 := by
  induction shifts generalizing v with
  | nil => rfl
  | cons shift shifts ih =>
    have hkeeps : ¬ v.Splits shift := fun hsplits => h shift List.mem_cons_self hsplits.1
    rw [splits, if_neg hkeeps, ih fun other hother => h other (List.mem_cons_of_mem shift hother)]

theorem diff_foldl_shiftedBy (hv : v.min ≤ v.max) (h : v.StaysInsideAll shifts) :
    (shifts.foldl shiftedBy v).diff = v.diff + v.splits shifts := by
  induction shifts generalizing v with
  | nil => simp [splits]
  | cons shift shifts ih =>
    obtain ⟨hfirst, hrest⟩ := h
    rw [List.foldl_cons, ih (ordered_shiftedBy hv hfirst) hrest, diff_shiftedBy hv hfirst, splits]
    push_cast
    ring

end Interval

namespace Range

section

variable [Decimals Rat] {v : Interval (Domain.int32 (α := Rat))} {shifts : List Rat}

theorem foldl_translate_int32 (v : Interval (Domain.int32 (α := Rat))) (shifts : List Rat) :
    shifts.foldl translate (int32 v) = int32 (shifts.foldl Interval.shiftedBy v) := by
  induction shifts generalizing v with
  | nil => rfl
  | cons shift shifts ih => exact ih (v.shiftedBy shift)

/-- A shift that the domain has room for widens a range of whole numbers by one if it splits the range, and keeps its
width otherwise. Many of them widen it by as many as split what they meet. -/
theorem translates_widening (hv : v.min ≤ v.max) :
    (∀ shift, v.StaysInside shift →
      ((int32 v).translate shift).diff = (int32 v).diff + if v.Splits shift then 1 else 0) ∧
    ∀ shifts, v.StaysInsideAll shifts →
      (shifts.foldl translate (int32 v)).diff = (int32 v).diff + v.splits shifts ∧
        ((∀ shift ∈ shifts, ¬ IsHalfway shift) → (shifts.foldl translate (int32 v)).diff = (int32 v).diff) := by
  refine ⟨fun shift h => Interval.diff_shiftedBy hv h, fun shifts h => ?_⟩
  have hrun : (shifts.foldl translate (int32 v)).diff = (int32 v).diff + v.splits shifts := by
    rw [foldl_translate_int32]
    exact Interval.diff_foldl_shiftedBy hv h
  refine ⟨hrun, fun hshifts => ?_⟩
  rw [hrun, Interval.splits_eq_zero hshifts, Nat.cast_zero, add_zero]

end

/-- From -3 and 5 by two and a half, which splits them, and then back in quarters, which keeps what they have become. -/
theorem translates_widening_over_zero :
    let v : Interval (Domain.int32 (α := Rat)) := ⟨-3, 5⟩
    ((int32 v).translate 2.5).diff = 9 ∧ ([2.5, -1.25, 0.75].foldl translate (int32 v)).diff = 9 ∧
      ([-1.25, 0.75].foldl translate (int32 v)).diff = 8 := by
  intro v
  obtain ⟨hone, hall⟩ := translates_widening (v := v) (by decide)
  have hfirst : v.StaysInside 2.5 := Interval.staysInside_of_le (by decide +kernel) (by decide +kernel)
  have hthree : v.StaysInsideAll [2.5, -1.25, 0.75] :=
    ⟨by decide +kernel, by decide +kernel, by decide +kernel, trivial⟩
  have htwo : v.StaysInsideAll [-1.25, 0.75] := ⟨by decide +kernel, by decide +kernel, trivial⟩
  refine ⟨?_, ?_, ?_⟩
  · rw [hone 2.5 hfirst]
    decide +kernel
  · rw [(hall _ hthree).1]
    decide +kernel
  · rw [(hall _ htwo).2 (by decide +kernel)]
    decide +kernel

/-- To and fro by a half: -1 and 1 get farther apart each time. -/
theorem translates_apart_by_halves :
    let v : Interval (Domain.int32 (α := Rat)) := ⟨-1, 1⟩
    v.StaysInside 0.5 ∧ ((int32 v).translate 0.5).preciseBounds = (-1, 2) ∧
      ((int32 v).translate 0.5).diff ≠ (int32 v).diff ∧
      ([0.5, -0.5, 0.5, -0.5].foldl translate (int32 v)).preciseBounds = (-3, 3) := by
  intro v
  refine ⟨?_, ?_, ?_, ?_⟩ <;> decide +kernel

end Range

end ChartGestures
