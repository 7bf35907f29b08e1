import ChartGestures.Number.Exact
import Mathlib.Data.Rat.Floor
import Mathlib.Order.WithBot

/-!
# The order of numbers

A number that is not NaN stands somewhere on the rational line between the two infinities: its rank. `LawfulScalar α`
says that the comparisons of `α` are those of the ranks, that NaN is below and above nothing, and that a whole number of
up to 53 bits is held exactly, which is all that ordering and truncation ask of a number type.
-/

namespace ChartGestures

open Scalar

/-! ### Truncation -/

theorem truncate_eq (q : ℚ) : truncate q = if q < 0 then ⌈q⌉ else ⌊q⌋ := rfl

theorem truncate_intCast (n : Int) : truncate n = n := by
  rw [truncate_eq, Int.ceil_intCast, Int.floor_intCast, ite_self]

theorem truncate_lt_add_one (q : ℚ) : (truncate q : ℚ) < q + 1 := by
  rw [truncate_eq]
  split
  · exact Int.ceil_lt_add_one q
  · exact (Int.floor_le q).trans_lt (lt_add_one q)

theorem sub_one_lt_truncate (q : ℚ) : q - 1 < truncate q := by
  rw [truncate_eq]
  split
  · exact (sub_one_lt q).trans_le (Int.le_ceil q)
  · exact Int.sub_one_lt_floor q

theorem truncate_mono (p q : ℚ) (h : p ≤ q) : truncate p ≤ truncate q := by
  rw [truncate_eq, truncate_eq]
  by_cases hq : q < 0
  · rw [if_pos (h.trans_lt hq), if_pos hq]
    exact Int.ceil_le_ceil h
  · rw [if_neg hq]
    split
    · next hp =>
      calc ⌈p⌉ ≤ 0 := Int.ceil_le.2 (by exact_mod_cast hp.le)
        _ ≤ ⌊q⌋ := Int.floor_nonneg.2 (not_lt.1 hq)
    · exact Int.floor_le_floor h

theorem roundHalfAway_eq (q : ℚ) : roundHalfAway q = if q < 0 then -⌊-q + 1 / 2⌋ else ⌊q + 1 / 2⌋ := rfl

theorem roundHalfAway_intCast (n : Int) : roundHalfAway n = n := by
  have hfloor : ∀ m : Int, ⌊(m : ℚ) + 1 / 2⌋ = m := by
    intro m
    rw [Int.floor_intCast_add]
    norm_num
  rw [roundHalfAway_eq]
  split
  · rw [← Int.cast_neg, hfloor, neg_neg]
  · exact hfloor n

theorem roundHalfAway_mono (p q : ℚ) (h : p ≤ q) : roundHalfAway p ≤ roundHalfAway q := by
  rw [roundHalfAway_eq, roundHalfAway_eq]
  by_cases hq : q < 0
  · rw [if_pos (h.trans_lt hq), if_pos hq]
    exact neg_le_neg (Int.floor_le_floor (by linarith))
  · rw [if_neg hq]
    have hright : 0 ≤ ⌊q + 1 / 2⌋ := Int.floor_nonneg.2 (by linarith)
    split
    · have hleft : 0 ≤ ⌊-p + 1 / 2⌋ := Int.floor_nonneg.2 (by linarith)
      exact (neg_nonpos.2 hleft).trans hright
    · exact Int.floor_le_floor (by linarith)

/-! ### Ranks -/

/-- The exact value, or the infinity on the side of the number. -/
def Scalar.rank {α : Type} [Scalar α] (x : α) : WithBot (WithTop ℚ) :=
  match toRat? x with
  | some q => ((q : WithTop ℚ) : WithBot (WithTop ℚ))
  | none => if x < 0 then ⊥ else ((⊤ : WithTop ℚ) : WithBot (WithTop ℚ))

class LawfulScalar (α : Type) [Scalar α] : Prop where
  lt_iff_rank_lt {x y : α} : isNaN x = false → isNaN y = false → (x < y ↔ rank x < rank y)
  le_iff_rank_le {x y : α} : isNaN x = false → isNaN y = false → (x ≤ y ↔ rank x ≤ rank y)
  isNaN_of_lt {x y : α} : x < y → isNaN x = false ∧ isNaN y = false
  toRat?_of_isNaN {x : α} : isNaN x = true → toRat? x = none
  toRat?_ofInt {n : Int} : n.natAbs ≤ 2 ^ 53 → toRat? (ofInt n : α) = some (n : ℚ)

namespace Scalar

export LawfulScalar (lt_iff_rank_lt le_iff_rank_le isNaN_of_lt toRat?_of_isNaN toRat?_ofInt)

variable {α : Type} [Scalar α] {x y : α}

/-- An infinity goes to a limit that no value passes. -/
theorem toIntWithin_mono {round : ℚ → Int} (hround : ∀ p q : ℚ, p ≤ q → round p ≤ round q) {lo hi : Int}
    (hlohi : lo ≤ hi) (hx : isNaN x = false) (hy : isNaN y = false) (hxy : rank x ≤ rank y) :
    toIntWithin round lo hi x ≤ toIntWithin round lo hi y := by
  rw [toIntWithin, toIntWithin, hx, hy]
  rw [rank, rank] at hxy
  cases hp : toRat? x with
  | some p =>
    cases hq : toRat? y with
    | some q =>
      rw [hp, hq] at hxy
      have hpq : p ≤ q := by simpa using hxy
      have hrounds := hround p q hpq
      simp only
      omega
    | none =>
      rw [hp, hq] at hxy
      by_cases hneg : y < 0
      · simp [hneg] at hxy
      · simp only [hneg, if_false, Bool.false_eq_true]
        omega
  | none =>
    by_cases hneg : x < 0
    · simp only [hneg, if_true, if_false, Bool.false_eq_true]
      split
      · omega
      · split
        · exact le_rfl
        · exact hlohi
    · rw [hp, if_neg hneg] at hxy
      cases hq : toRat? y with
      | some q => rw [hq] at hxy; simp at hxy
      | none =>
        rw [hq] at hxy
        by_cases hneg' : y < 0
        · simp [hneg'] at hxy
        · simp [hneg, hneg']

variable [LawfulScalar α]

theorem not_lt_iff_le (hx : isNaN x = false) (hy : isNaN y = false) : ¬ x < y ↔ y ≤ x := by
  rw [lt_iff_rank_lt hx hy, le_iff_rank_le hy hx, not_lt]

protected theorem le_of_lt (hx : isNaN x = false) (hy : isNaN y = false) (h : x < y) : x ≤ y :=
  (le_iff_rank_le hx hy).2 ((lt_iff_rank_lt hx hy).1 h).le

protected theorem lt_irrefl (x : α) : ¬ x < x := by
  intro h
  obtain ⟨hx, -⟩ := isNaN_of_lt h
  exact lt_irrefl _ ((lt_iff_rank_lt hx hx).1 h)

protected theorem lt_trans {z : α} (hxy : x < y) (hyz : y < z) : x < z := by
  obtain ⟨hx, hy⟩ := isNaN_of_lt hxy
  obtain ⟨-, hz⟩ := isNaN_of_lt hyz
  exact (lt_iff_rank_lt hx hz).2 (((lt_iff_rank_lt hx hy).1 hxy).trans ((lt_iff_rank_lt hy hz).1 hyz))

protected theorem le_rfl (hx : isNaN x = false) : x ≤ x := (le_iff_rank_le hx hx).2 (le_refl _)

protected theorem le_trans {z : α} (hx : isNaN x = false) (hy : isNaN y = false) (hz : isNaN z = false) (hxy : x ≤ y)
    (hyz : y ≤ z) : x ≤ z :=
  (le_iff_rank_le hx hz).2 (((le_iff_rank_le hx hy).1 hxy).trans ((le_iff_rank_le hy hz).1 hyz))

theorem isNaN_of_toRat? {q : ℚ} (h : toRat? x = some q) : isNaN x = false := by
  cases hx : isNaN x with
  | false => rfl
  | true => rw [toRat?_of_isNaN hx] at h; cases h

omit [LawfulScalar α] in
theorem rank_of_toRat? {q : ℚ} (h : toRat? x = some q) : rank x = ((q : WithTop ℚ) : WithBot (WithTop ℚ)) := by
  rw [rank, h]

/-- Finite numbers compare as their exact values. -/
theorem lt_iff_of_toRat? {p q : ℚ} (hx : toRat? x = some p) (hy : toRat? y = some q) : x < y ↔ p < q := by
  rw [lt_iff_rank_lt (isNaN_of_toRat? hx) (isNaN_of_toRat? hy), rank_of_toRat? hx, rank_of_toRat? hy, WithBot.coe_lt_coe,
    WithTop.coe_lt_coe]

/-- Between two finite numbers is no infinity. -/
theorem isFinite_of_between {lo hi : α} (hx : isNaN x = false) (hlo : isFinite lo = true) (hhi : isFinite hi = true)
    (h : ¬ x < lo) (h' : ¬ hi < x) : isFinite x = true := by
  obtain ⟨p, hp⟩ := Option.isSome_iff_exists.1 hlo
  obtain ⟨q, hq⟩ := Option.isSome_iff_exists.1 hhi
  have hp' := isNaN_of_toRat? hp
  have hq' := isNaN_of_toRat? hq
  rw [not_lt_iff_le hx hp', le_iff_rank_le hp' hx, rank, rank, hp] at h
  rw [not_lt_iff_le hq' hx, le_iff_rank_le hx hq', rank, rank, hq] at h'
  rw [isFinite]
  cases hvalue : toRat? x with
  | some v => rfl
  | none =>
    rw [hvalue] at h h'
    by_cases hneg : x < 0
    · simp [hneg] at h
    · simp [hneg] at h'

theorem isFinite_clamp {lo hi : α} (hx : isNaN x = false) (hlo : isFinite lo = true) (hhi : isFinite hi = true) :
    isFinite (clamp x lo hi) = true := by
  unfold clamp
  split
  · exact hlo
  · next hlow =>
    split
    · exact hhi
    · next hhigh => exact isFinite_of_between hx hlo hhi hlow hhigh

omit [LawfulScalar α] in
theorem isNaN_clamp {lo hi : α} (hx : isNaN x = false) (hlo : isNaN lo = false) (hhi : isNaN hi = false) :
    isNaN (clamp x lo hi) = false := by
  unfold clamp
  split
  · exact hlo
  · split
    · exact hhi
    · exact hx

/-! ### Whole numbers -/

theorem isNaN_ofInt {n : Int} (hn : n.natAbs ≤ 2 ^ 53) : isNaN (ofInt n : α) = false :=
  isNaN_of_toRat? (toRat?_ofInt hn)

end Scalar

instance : LawfulScalar Rat where
  lt_iff_rank_lt _ _ := by simp [rank, toRat?]
  le_iff_rank_le _ _ := by simp [rank, toRat?]
  isNaN_of_lt _ := by simp [isNaN]
  toRat?_of_isNaN hx := by simp [isNaN] at hx
  toRat?_ofInt _ := rfl

end ChartGestures
