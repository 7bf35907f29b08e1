import ChartGestures.Number.Binary
import ChartGestures.Proofs.Number.Order
import Mathlib

/-!
# Binary numbers are exact

What a stored binary number stands for. Two numbers in canonical form compare as their values do, exponent first, and
the number nearest to a value of the format is that value again, so every comparison of binary numbers can be read on
the exact values.
-/

namespace ChartGestures

open Float.Model (Format UnpackedFloat totalExponent)
open Float.Model.UnpackedFloat (Sign)

theorem dyadic_eq (m e : Int) : dyadic m e = m * (2 : ℚ) ^ e := by
  rw [dyadic]
  split
  · next he =>
    obtain ⟨k, rfl⟩ := Int.eq_ofNat_of_zero_le he
    simp
  · next he =>
    obtain ⟨k, hk⟩ := Int.eq_ofNat_of_zero_le (Int.neg_nonneg.2 (Int.not_le.1 he).le)
    obtain rfl : e = -(k : Int) := by omega
    rw [Rat.mkRat_eq_div]
    simp [div_eq_mul_inv]

namespace Binary

/-! ### Canonical form -/

/-- The form in which a stored number comes apart: a mantissa of 53 bits, or the least exponent. -/
def Canonical : UnpackedFloat → Prop
  | .finite _ m e _ => m < 2 ^ 53 ∧ -1074 ≤ e ∧ (2 ^ 52 ≤ m ∨ e = -1074)
  | _ => True

theorem toNat_implicit_append (m : BitVec 52) : (1#1 ++ m).toNat = 2 ^ 52 + m.toNat := by
  rw [BitVec.toNat_append, ← Nat.shiftLeft_add_eq_or_of_lt m.isLt]
  rfl

theorem canonical_unpack (x : Float.Model) : Canonical x.unpack := by
  rw [Float.Model.unpack]
  generalize x.toBits.toBitVec = b
  fun_cases UnpackedFloat.unpack with
  | case1 => trivial
  | case2 => trivial
  | case3 => trivial
  | case4 mantissa exponent offset signBit sign hfinite hzero hmantissa =>
    have hoffset : offset = -1075 := by
      simp only [offset, hzero]
      rfl
    exact ⟨mantissa.isLt.trans (by norm_num), by omega, .inr (by omega)⟩
  | case5 mantissa exponent offset signBit sign hfinite hnonzero =>
    have hpos : 0 < exponent.toNat := BitVec.toNat_pos_of_ne_zero hnonzero
    have hmantissa := mantissa.isLt
    have hbits : (1#1 ++ mantissa).toNat = 2 ^ 52 + mantissa.toNat := toNat_implicit_append mantissa
    have hoffset : offset = exponent.toNat - 1075 := rfl
    refine ⟨?_, by omega, .inl ?_⟩
    · rw [hbits]
      change mantissa.toNat < 2 ^ 52 at hmantissa
      omega
    · rw [hbits]
      exact Nat.le_add_right _ _

theorem lt_of_exponent_lt {m₁ m₂ : Nat} {e₁ e₂ : Int} (h₁ : m₁ < 2 ^ 53) (he₁ : -1074 ≤ e₁)
    (h₂ : 2 ^ 52 ≤ m₂ ∨ e₂ = -1074) (he : e₁ < e₂) : (m₁ : ℚ) * 2 ^ e₁ < m₂ * 2 ^ e₂ := by
  have hm₁ : (m₁ : ℚ) < 2 ^ 53 := by exact_mod_cast h₁
  have hm₂ : (2 : ℚ) ^ 52 ≤ m₂ := by exact_mod_cast h₂.resolve_right (by omega)
  have hpow : (2 : ℚ) ^ (e₁ + 1) ≤ 2 ^ e₂ := zpow_le_zpow_right₀ (by norm_num) (by omega)
  calc (m₁ : ℚ) * 2 ^ e₁ < 2 ^ 53 * 2 ^ e₁ := mul_lt_mul_of_pos_right hm₁ (by positivity)
    _ = 2 ^ 52 * 2 ^ (e₁ + 1) := by rw [zpow_add_one₀ (by norm_num)]; ring
    _ ≤ m₂ * 2 ^ e₂ := mul_le_mul hm₂ hpow (by positivity) (by positivity)

/-- In canonical form the exponents decide, and the mantissas between equal ones. -/
theorem compare_magnitudes {m₁ m₂ : Nat} {e₁ e₂ : Int} (h₁ : m₁ < 2 ^ 53 ∧ -1074 ≤ e₁ ∧ (2 ^ 52 ≤ m₁ ∨ e₁ = -1074))
    (h₂ : m₂ < 2 ^ 53 ∧ -1074 ≤ e₂ ∧ (2 ^ 52 ≤ m₂ ∨ e₂ = -1074)) :
    (compare e₁ e₂).then (compare m₁ m₂) = compare ((m₁ : ℚ) * 2 ^ e₁) (m₂ * 2 ^ e₂) := by
  rcases lt_trichotomy e₁ e₂ with he | rfl | he
  · rw [compare_lt_iff_lt.2 he, compare_lt_iff_lt.2 (lt_of_exponent_lt h₁.1 h₁.2.1 h₂.2.2 he)]
    rfl
  · have hpos : (0 : ℚ) < 2 ^ e₁ := by positivity
    rw [compare_eq_iff_eq.2 rfl, Ordering.eq_then]
    rcases lt_trichotomy m₁ m₂ with hm | rfl | hm
    · rw [compare_lt_iff_lt.2 hm, compare_lt_iff_lt.2 (mul_lt_mul_of_pos_right (by exact_mod_cast hm) hpos)]
    · rw [compare_eq_iff_eq.2 rfl, compare_eq_iff_eq.2 rfl]
    · rw [compare_gt_iff_gt.2 hm, compare_gt_iff_gt.2 (mul_lt_mul_of_pos_right (by exact_mod_cast hm) hpos)]
  · rw [compare_gt_iff_gt.2 he, compare_gt_iff_gt.2 (lt_of_exponent_lt h₂.1 h₂.2.1 h₁.2.2 he)]
    rfl

/-! ### Order -/

/-- Where an unpacked number stands. -/
def rank : UnpackedFloat → WithBot (WithTop ℚ)
  | .infinity .negative => ⊥
  | .infinity .positive => ((⊤ : WithTop ℚ) : WithBot (WithTop ℚ))
  | .zero _ | .notANumber => ((0 : ℚ) : WithTop ℚ)
  | .finite sign m e _ => ((dyadic (sign.apply m) e : ℚ) : WithTop ℚ)

theorem compare_coe (p q : ℚ) :
    compare ((p : WithTop ℚ) : WithBot (WithTop ℚ)) ((q : WithTop ℚ) : WithBot (WithTop ℚ)) = compare p q := by
  rcases lt_trichotomy p q with h | rfl | h
  · rw [compare_lt_iff_lt.2 h, compare_lt_iff_lt.2 (by simpa using h)]
  · rw [compare_eq_iff_eq.2 rfl, compare_eq_iff_eq.2 rfl]
  · rw [compare_gt_iff_gt.2 h, compare_gt_iff_gt.2 (by simpa using h)]

theorem compare_neg_neg (p q : ℚ) : compare (-p) (-q) = (compare p q).swap := by
  rcases lt_trichotomy p q with h | rfl | h
  · rw [compare_lt_iff_lt.2 h, compare_gt_iff_gt.2 (neg_lt_neg h)]
    rfl
  · rw [compare_eq_iff_eq.2 rfl, compare_eq_iff_eq.2 rfl]
    rfl
  · rw [compare_gt_iff_gt.2 h, compare_lt_iff_lt.2 (neg_lt_neg h)]
    rfl

theorem dyadic_positive (m : Nat) (e : Int) : dyadic (Sign.positive.apply m) e = m * 2 ^ e := by
  rw [dyadic_eq, Sign.apply, Int.cast_natCast]

theorem dyadic_negative (m : Nat) (e : Int) : dyadic (Sign.negative.apply m) e = -(m * 2 ^ e) := by
  rw [dyadic_eq, Sign.apply, Int.cast_neg, Int.cast_natCast, neg_mul]

theorem magnitude_pos {m : Nat} (e : Int) (hm : 0 < m) : (0 : ℚ) < m * 2 ^ e :=
  mul_pos (by exact_mod_cast hm) (by positivity)

theorem rank_between {a : UnpackedFloat} (ha : ∀ sign, a ≠ .infinity sign) :
    rank (.infinity .negative) < rank a ∧ rank a < rank (.infinity .positive) := by
  cases a with
  | infinity sign => exact absurd rfl (ha sign)
  | notANumber => exact ⟨WithBot.bot_lt_coe _, WithBot.coe_lt_coe.2 (WithTop.coe_lt_top _)⟩
  | zero sign => exact ⟨WithBot.bot_lt_coe _, WithBot.coe_lt_coe.2 (WithTop.coe_lt_top _)⟩
  | finite sign m e hm => exact ⟨WithBot.bot_lt_coe _, WithBot.coe_lt_coe.2 (WithTop.coe_lt_top _)⟩

theorem compare_eq_compare_rank {a b : UnpackedFloat} (ha : Canonical a) (hb : Canonical b) (ha' : a ≠ .notANumber)
    (hb' : b ≠ .notANumber) : a.compare b = some (compare (rank a) (rank b)) := by
  fun_cases UnpackedFloat.compare a b with
  | case1 => exact absurd rfl ha'
  | case2 => exact absurd rfl hb'
  | case3 s₁ s₂ =>
    cases s₁ with
    | negative =>
      cases s₂ with
      | negative => rw [compare_eq_iff_eq.2 rfl]; rfl
      | positive => rw [compare_lt_iff_lt.2 (by simp [rank])]; rfl
    | positive =>
      cases s₂ with
      | negative => rw [compare_gt_iff_gt.2 (by simp [rank])]; rfl
      | positive => rw [compare_eq_iff_eq.2 rfl]; rfl
  | case4 _ _ hfinite => rw [compare_gt_iff_gt.2 (rank_between hfinite).2]
  | case5 _ _ hfinite => rw [compare_lt_iff_lt.2 (rank_between hfinite).1]
  | case6 _ _ hfinite => rw [compare_lt_iff_lt.2 (rank_between hfinite).2]
  | case7 _ _ hfinite => rw [compare_gt_iff_gt.2 (rank_between hfinite).1]
  | case8 m e hm => rw [rank, rank, compare_coe, dyadic_positive, compare_gt_iff_gt.2 (magnitude_pos e hm)]
  | case9 m e hm =>
    rw [rank, rank, compare_coe, dyadic_negative, compare_lt_iff_lt.2 (neg_neg_of_pos (magnitude_pos e hm))]
  | case10 sign m e hm => rw [rank, rank, compare_coe, dyadic_positive, compare_lt_iff_lt.2 (magnitude_pos e hm)]
  | case11 sign m e hm =>
    rw [rank, rank, compare_coe, dyadic_negative, compare_gt_iff_gt.2 (neg_neg_of_pos (magnitude_pos e hm))]
  | case12 => rw [rank, rank, compare_coe, compare_eq_iff_eq.2 rfl]
  | case13 m₁ e₁ _ m₂ e₂ _ =>
    rw [rank, rank, compare_coe, dyadic_negative, dyadic_negative, compare_magnitudes ha hb, compare_neg_neg]
  | case14 m₁ e₁ h₁ m₂ e₂ h₂ =>
    have hlt := (neg_neg_of_pos (magnitude_pos e₁ h₁)).trans (magnitude_pos e₂ h₂)
    rw [rank, rank, compare_coe, dyadic_negative, dyadic_positive, compare_lt_iff_lt.2 hlt]
  | case15 m₁ e₁ h₁ m₂ e₂ h₂ =>
    have hgt := (neg_neg_of_pos (magnitude_pos e₂ h₂)).trans (magnitude_pos e₁ h₁)
    rw [rank, rank, compare_coe, dyadic_positive, dyadic_negative, compare_gt_iff_gt.2 hgt]
  | case16 m₁ e₁ _ m₂ e₂ _ =>
    rw [rank, rank, compare_coe, dyadic_positive, dyadic_positive, compare_magnitudes ha hb]

theorem lt_iff_unpack (x y : Float) : x < y ↔ x.toModel.unpack.lt y.toModel.unpack = true := decide_eq_true_iff

theorem le_iff_unpack (x y : Float) : x ≤ y ↔ x.toModel.unpack.le y.toModel.unpack = true := decide_eq_true_iff

theorem isNaN_iff_unpack (x : Float) : Scalar.isNaN x = true ↔ x.toModel.unpack = .notANumber := by
  have hself : Scalar.isNaN x = !(x.toModel.unpack.compare x.toModel.unpack == some .eq) := rfl
  rw [hself]
  constructor
  · intro h
    by_contra hnumber
    have hcanonical := canonical_unpack x.toModel
    rw [compare_eq_compare_rank hcanonical hcanonical hnumber hnumber, compare_eq_iff_eq.2 rfl] at h
    exact absurd h (by decide)
  · intro h
    rw [h]
    rfl

theorem unpack_ne_notANumber {x : Float} (hx : Scalar.isNaN x = false) : x.toModel.unpack ≠ .notANumber := by
  intro h
  rw [(isNaN_iff_unpack x).2 h] at hx
  cases hx

theorem lt_iff {x y : Float} (hx : Scalar.isNaN x = false) (hy : Scalar.isNaN y = false) :
    x < y ↔ rank x.toModel.unpack < rank y.toModel.unpack := by
  rw [lt_iff_unpack, UnpackedFloat.lt, compare_eq_compare_rank (canonical_unpack _) (canonical_unpack _)
    (unpack_ne_notANumber hx) (unpack_ne_notANumber hy), beq_iff_eq, Option.some_inj, compare_lt_iff_lt]

theorem le_iff {x y : Float} (hx : Scalar.isNaN x = false) (hy : Scalar.isNaN y = false) :
    x ≤ y ↔ rank x.toModel.unpack ≤ rank y.toModel.unpack := by
  rw [le_iff_unpack, UnpackedFloat.le, compare_eq_compare_rank (canonical_unpack _) (canonical_unpack _)
    (unpack_ne_notANumber hx) (unpack_ne_notANumber hy), Option.any_some, Ordering.isLE_iff_ne_gt]
  exact compare_le_iff_le

theorem beq_iff {x y : Float} (hx : Scalar.isNaN x = false) (hy : Scalar.isNaN y = false) :
    (x == y) = true ↔ rank x.toModel.unpack = rank y.toModel.unpack := by
  have hcompare : (x == y) = (x.toModel.unpack.compare y.toModel.unpack == some .eq) := rfl
  rw [hcompare, compare_eq_compare_rank (canonical_unpack _) (canonical_unpack _) (unpack_ne_notANumber hx)
    (unpack_ne_notANumber hy), beq_iff_eq, Option.some_inj, compare_eq_iff_eq]

theorem isNaN_of_lt {x y : Float} (h : x < y) : Scalar.isNaN x = false ∧ Scalar.isNaN y = false := by
  rw [lt_iff_unpack] at h
  constructor
  · by_contra hx
    rw [Bool.not_eq_false, isNaN_iff_unpack] at hx
    rw [hx] at h
    cases h
  · by_contra hy
    rw [Bool.not_eq_false, isNaN_iff_unpack] at hy
    rw [hy] at h
    cases hunpack : x.toModel.unpack <;> rw [hunpack] at h <;> cases h

theorem isNaN_of_beq {x y : Float} (h : (x == y) = true) : Scalar.isNaN x = false ∧ Scalar.isNaN y = false := by
  have hcompare : (x == y) = (x.toModel.unpack.compare y.toModel.unpack == some .eq) := rfl
  rw [hcompare] at h
  constructor
  · by_contra hx
    rw [Bool.not_eq_false, isNaN_iff_unpack] at hx
    rw [hx] at h
    cases h
  · by_contra hy
    rw [Bool.not_eq_false, isNaN_iff_unpack] at hy
    rw [hy] at h
    cases hunpack : x.toModel.unpack <;> rw [hunpack] at h <;> cases h

theorem rank_eq_rank_unpack {x : Float} (hx : Scalar.isNaN x = false) : Scalar.rank x = rank x.toModel.unpack := by
  have hvalue : Scalar.toRat? x = value? x := rfl
  have hnegative : x < 0 ↔ x.toModel.unpack.lt (.zero .positive) = true := lt_iff_unpack x 0
  rw [Scalar.rank, hvalue, value?]
  cases hunpack : x.toModel.unpack with
  | notANumber => exact absurd hunpack (unpack_ne_notANumber hx)
  | zero sign => rfl
  | finite sign m e hm => rfl
  | infinity sign =>
    rw [hunpack] at hnegative
    cases sign with
    | negative => exact if_pos (hnegative.2 rfl)
    | positive => exact if_neg fun h => Bool.false_ne_true (hnegative.1 h)

/-! ### Rounding keeps what the format holds -/

theorem targetExponent_eq (t : Int) : Format.binary64.targetExponent t = max (t - 53) (-1074) := rfl

theorem log2_mul_two_pow {m : Nat} (hm : 0 < m) (k : Nat) : (m * 2 ^ k).log2 = m.log2 + k := by
  rw [Nat.log2_eq_iff (by positivity)]
  constructor
  · rw [pow_add]
    exact Nat.mul_le_mul_right _ (Nat.log2_self_le hm.ne')
  · rw [Nat.add_right_comm, pow_add]
    exact Nat.mul_lt_mul_of_pos_right Nat.lt_log2_self (by positivity)

theorem targetExponent_of_canonical {m : Nat} {e : Int} {hm : 0 < m} {sign : Sign}
    (h : Canonical (.finite sign m e hm)) (k : Nat) :
    Format.binary64.targetExponent (totalExponent (m * 2 ^ k) (e - k)) = e := by
  obtain ⟨hmantissa, hleast, hfull⟩ := h
  have hlog : m.log2 < 53 := (Nat.log2_lt hm.ne').2 hmantissa
  rw [targetExponent_eq, totalExponent, log2_mul_two_pow hm]
  rcases hfull with hfull | hleast'
  · have hlog' : 52 ≤ m.log2 := (Nat.le_log2 hm.ne').2 hfull
    omega
  · omega

open Float.Model.UnpackedFloat (ExtendedMantissa shiftToTargetExponent shiftToExponent roundWithAccuracy divCore)

theorem shiftRight_exact (m k : Nat) :
    (ExtendedMantissa.mk (m * 2 ^ k) false false) >>> k = ⟨m, false, false⟩ := by
  induction k generalizing m with
  | zero => simp [HShiftRight.hShiftRight, Nat.repeat]
  | succ k ih =>
    have hdouble : m * 2 ^ (k + 1) = 2 * m * 2 ^ k := by ring
    rw [hdouble]
    change ((ExtendedMantissa.mk (2 * m * 2 ^ k) false false) >>> k).shiftRightOne = _
    rw [ih, ExtendedMantissa.shiftRightOne]
    simp

theorem shiftToTargetExponent_exact {m : Nat} {e : Int} {hm : 0 < m} {sign : Sign}
    (h : Canonical (.finite sign m e hm)) (k : Nat) :
    shiftToTargetExponent Format.binary64 (m * 2 ^ k) (e - k) .exact = (⟨m, false, false⟩, e) := by
  have hshift : (e - (e - k)).toNat = k := by omega
  rw [shiftToTargetExponent, targetExponent_of_canonical h, shiftToExponent, hshift]
  exact Prod.ext (shiftRight_exact m k) (by simp)

theorem roundWithAccuracy_exact {m : Nat} {e : Int} {hm : 0 < m} {sign : Sign}
    (h : Canonical (.finite sign m e hm)) (k : Nat) :
    roundWithAccuracy Format.binary64 sign (m * 2 ^ k) (e - k) .exact = .finite sign m e hm := by
  have hagain : shiftToTargetExponent Format.binary64 m e .exact = (⟨m, false, false⟩, e) := by
    simpa using shiftToTargetExponent_exact h 0
  have hrounded : (ExtendedMantissa.mk m false false).roundedMantissa = m := rfl
  simp only [roundWithAccuracy, shiftToTargetExponent_exact h, hrounded, hagain, hm.ne', dite_false]

/-- A quotient that the format holds leaves no remainder at the exponent where it is taken. -/
theorem divCore_exact {m n d : Nat} {e : Int} {hm : 0 < m} {sign : Sign} (h : Canonical (.finite sign m e hm))
    (hd : 0 < d) (hvalue : (n : ℚ) = m * 2 ^ e * d) :
    ∃ k : Nat, divCore Format.binary64 n 0 d 0 = (m * 2 ^ k, e - k, .exact) := by
  obtain ⟨hmantissa, hleast, -⟩ := h
  have hd' : (0 : ℚ) < d := by exact_mod_cast hd
  have hn : 0 < n := by
    have : (0 : ℚ) < n := hvalue ▸ mul_pos (magnitude_pos e hm) hd'
    exact_mod_cast this
  -- the quotient has at most the 53 binary places of its mantissa
  have hplaces : (n.log2 : Int) - d.log2 ≤ 53 + e := by
    have hlower : (2 : ℚ) ^ (n.log2 : Int) ≤ n := by exact_mod_cast Nat.log2_self_le hn.ne'
    have hupper : (d : ℚ) < 2 ^ ((d.log2 : Int) + 1) := by exact_mod_cast Nat.lt_log2_self
    have hm' : (m : ℚ) < 2 ^ (53 : Int) := by exact_mod_cast hmantissa
    have hlt : (2 : ℚ) ^ (n.log2 : Int) < 2 ^ (53 + e + (d.log2 + 1)) :=
      calc (2 : ℚ) ^ (n.log2 : Int) ≤ m * 2 ^ e * d := hvalue ▸ hlower
        _ < 2 ^ (53 : Int) * 2 ^ e * 2 ^ ((d.log2 : Int) + 1) := by gcongr
        _ = 2 ^ (53 + e + (d.log2 + 1)) := by rw [zpow_add₀ (by norm_num) (53 + e), zpow_add₀ (by norm_num) 53]
    have := (zpow_lt_zpow_iff_right₀ (by norm_num)).1 hlt
    omega
  set t : Int := min (0 - 0) (Format.binary64.targetExponent (totalExponent n 0 - totalExponent d 0)) with ht
  have hte : t ≤ e := by
    rw [ht, targetExponent_eq, totalExponent, totalExponent]
    omega
  refine ⟨(e - t).toNat, ?_⟩
  have hshifted : n <<< (0 - 0 - t).toNat = m * 2 ^ (e - t).toNat * d := by
    have hup : ((0 - 0 - t).toNat : Int) = -t := by omega
    have hdown : ((e - t).toNat : Int) = e + -t := by omega
    generalize (0 - 0 - t).toNat = up at hup
    generalize (e - t).toNat = down at hdown
    have hcast : ((n <<< up : Nat) : ℚ) = (m * 2 ^ down * d : Nat) := by
      rw [Nat.shiftLeft_eq]
      push_cast
      rw [← zpow_natCast, ← zpow_natCast, hup, hdown, zpow_add₀ (by norm_num), hvalue]
      ring
    exact_mod_cast hcast
  have hexponent : e - (e - t).toNat = t := by omega
  change ((n <<< (0 - 0 - t).toNat) / d, t, UnpackedFloat.accuracyOfFraction (n <<< (0 - 0 - t).toNat % d) d) = _
  rw [hshifted, Nat.mul_div_cancel _ hd, Nat.mul_mod_left, hexponent]
  rfl

/-! ### Storing -/

theorem unpack_normal (sign : Sign) {exponent : BitVec 11} (hzero : exponent ≠ 0#_) (hfinite : exponent ≠ -1#_)
    (mantissa : BitVec 52) :
    UnpackedFloat.unpack Format.binary64 (UnpackedFloat.packComponents Format.binary64 sign exponent mantissa) =
      .finite sign (1#1 ++ mantissa).toNat (exponent.toNat - 1075) (by rw [toNat_implicit_append]; omega) := by
  simp only [UnpackedFloat.unpack, UnpackedFloat.unpackExponent_packComponents,
    UnpackedFloat.unpackMantissa_packComponents, UnpackedFloat.unpackSign_packComponents,
    UnpackedFloat.Sign.ofBitVec_toBitVec]
  rw [if_neg hfinite, if_neg hzero]
  rfl

theorem unpack_subnormal (sign : Sign) {mantissa : BitVec 52} (h : mantissa ≠ 0#_) :
    UnpackedFloat.unpack Format.binary64 (UnpackedFloat.packComponents Format.binary64 sign 0#_ mantissa) =
      .finite sign mantissa.toNat (-1074) (BitVec.toNat_pos_of_ne_zero h) := by
  simp only [UnpackedFloat.unpack, UnpackedFloat.unpackExponent_packComponents,
    UnpackedFloat.unpackMantissa_packComponents, UnpackedFloat.unpackSign_packComponents,
    UnpackedFloat.Sign.ofBitVec_toBitVec]
  rw [if_neg (by decide), if_pos trivial, dif_neg h]
  rfl

theorem unpack_pack {m : Nat} {e : Int} {hm : 0 < m} {sign : Sign} (h : Canonical (.finite sign m e hm))
    (he : e ≤ 971) : (Float.Model.pack (.finite sign m e hm)).unpack = .finite sign m e hm := by
  obtain ⟨hmantissa, hleast, hfull⟩ := h
  have hbias : e + (Format.binary64.exponentBias : Int) + (52 : Nat) = e + 1075 := by
    change e + 1023 + 52 = e + 1075
    omega
  have hroom : ¬ 2 ^ 11 ≤ (e + 1075).toNat + 1 := by omega
  have hpacked : UnpackedFloat.pack Format.binary64 (.finite sign m e hm) =
      if m.log2 + 1 = 53 then
        UnpackedFloat.packComponents Format.binary64 sign (BitVec.ofNat 11 (e + 1075).toNat) (BitVec.ofNat 52 m)
      else UnpackedFloat.packComponents Format.binary64 sign 0#11 (BitVec.ofNat 52 m) := by
    simp only [UnpackedFloat.pack, hbias]
    rw [if_neg hroom]
    rfl
  change UnpackedFloat.unpack Format.binary64 (UnpackedFloat.pack Format.binary64 (.finite sign m e hm)) = _
  rw [hpacked]
  split
  · next hlog =>
    have hlower : 2 ^ 52 ≤ m := (Nat.le_log2 hm.ne').1 (by omega)
    have hbits : (BitVec.ofNat 11 (e + 1075).toNat).toNat = (e + 1075).toNat := by
      rw [BitVec.toNat_ofNat, Nat.mod_eq_of_lt (by omega)]
    have hzero : BitVec.ofNat 11 (e + 1075).toNat ≠ 0#_ := by
      intro heq
      have := congrArg BitVec.toNat heq
      rw [hbits, BitVec.toNat_zero] at this
      omega
    have hfinite : BitVec.ofNat 11 (e + 1075).toNat ≠ -1#_ := by
      intro heq
      have := congrArg BitVec.toNat heq
      rw [hbits] at this
      change _ = 2047 at this
      omega
    rw [unpack_normal sign hzero hfinite]
    simp only [UnpackedFloat.finite.injEq, true_and]
    rw [toNat_implicit_append, hbits, BitVec.toNat_ofNat]
    omega
  · next hlog =>
    have hsmall : m < 2 ^ 52 := (Nat.log2_lt hm.ne').1 (by have := (Nat.log2_lt hm.ne').2 hmantissa; omega)
    have hbits : (BitVec.ofNat 52 m).toNat = m := by rw [BitVec.toNat_ofNat, Nat.mod_eq_of_lt hsmall]
    have hnonzero : BitVec.ofNat 52 m ≠ 0#_ := by
      intro heq
      have := congrArg BitVec.toNat heq
      rw [hbits, BitVec.toNat_zero] at this
      omega
    rw [unpack_subnormal sign hnonzero]
    simp only [UnpackedFloat.finite.injEq, true_and]
    rw [hbits]
    omega

/-- The largest exponent that is stored. -/
theorem exponent_le {x : Float.Model} {sign : Sign} {m : Nat} {e : Int} {hm : 0 < m}
    (h : x.unpack = .finite sign m e hm) : e ≤ 971 := by
  rw [Float.Model.unpack] at h
  generalize x.toBits.toBitVec = b at h
  revert h
  fun_cases UnpackedFloat.unpack Format.binary64 b with
  | case4 mantissa exponent offset signBit sign hfinite hzero hmantissa =>
    intro h
    have hoffset : offset = -1075 := by
      simp only [offset, hzero]
      rfl
    have hexponent : offset + 1 = e := (UnpackedFloat.finite.inj h).2.2
    omega
  | case5 mantissa exponent offset signBit sign hfinite hnonzero =>
    intro h
    have hoffset : offset = exponent.toNat - 1075 := rfl
    have hbound : exponent.toNat < 2 ^ 11 := exponent.isLt
    have hne : exponent.toNat ≠ 2047 := fun heq => hfinite (BitVec.eq_of_toNat_eq heq)
    have hexponent : offset = e := (UnpackedFloat.finite.inj h).2.2
    omega
  | _ => exact fun h => nomatch h

theorem unpack_neg {x : Float} {sign : Sign} {m : Nat} {e : Int} {hm : 0 < m}
    (h : x.toModel.unpack = .finite sign m e hm) : (-x).toModel.unpack = .finite (-sign) m e hm := by
  have hcanonical := canonical_unpack x.toModel
  have hneg : (-x).toModel.unpack = (Float.Model.pack x.toModel.unpack.neg).unpack := rfl
  rw [h] at hcanonical
  rw [hneg, h]
  exact unpack_pack hcanonical (exponent_le h)

/-! ### The nearest number to an exact value -/

/-- A number of the format is below every power of two that its largest number is below. -/
theorem not_limit_le {m n d k : Nat} {e : Int} {hm : 0 < m} {sign : Sign} (h : Canonical (.finite sign m e hm))
    (he : e ≤ 971) (hd : 0 < d) (hvalue : (n : ℚ) = m * 2 ^ e * d) (hk : 1024 ≤ k) : ¬ Nat.pow 2 k * d ≤ n := by
  have hd' : (0 : ℚ) < d := by exact_mod_cast hd
  have hm' : (m : ℚ) < 2 ^ (53 : Int) := by exact_mod_cast h.1
  have hlt : (m : ℚ) * 2 ^ e < 2 ^ (k : Int) :=
    calc (m : ℚ) * 2 ^ e < 2 ^ (53 : Int) * 2 ^ e := mul_lt_mul_of_pos_right hm' (by positivity)
      _ = 2 ^ (53 + e) := (zpow_add₀ two_ne_zero 53 e).symm
      _ ≤ 2 ^ (k : Int) := zpow_le_zpow_right₀ (by norm_num) (by omega)
  have hpow : ((Nat.pow 2 k : Nat) : ℚ) = 2 ^ (k : Int) := by
    rw [zpow_natCast]
    exact Nat.cast_pow 2 k
  rw [← Nat.cast_le (α := ℚ), Nat.cast_mul, hvalue, hpow, not_le]
  exact mul_lt_mul_of_pos_right hlt hd'

theorem nearestTo_exact {m : Nat} {e : Int} {hm : 0 < m} {sign : Sign} (h : Canonical (.finite sign m e hm))
    (he : e ≤ 971) :
    nearestTo (dyadic (sign.apply m) e) = .ofModel (Float.Model.pack (.finite sign m e hm)) := by
  generalize hq : dyadic (sign.apply m) e = q
  have hmagnitude := magnitude_pos e hm
  have hden : (0 : ℚ) < q.den := by exact_mod_cast q.den_pos
  have hsign : (if q.num < 0 then Sign.negative else .positive) = sign := by
    cases sign with
    | negative =>
      rw [dyadic_negative] at hq
      exact if_pos (Rat.num_neg.2 (hq ▸ neg_neg_of_pos hmagnitude))
    | positive =>
      rw [dyadic_positive] at hq
      exact if_neg (not_lt.2 (Rat.num_nonneg.2 (hq ▸ hmagnitude.le)))
  have habs : |q| = m * 2 ^ e := by
    cases sign with
    | negative => rw [← hq, dyadic_negative, abs_neg, abs_of_pos hmagnitude]
    | positive => rw [← hq, dyadic_positive, abs_of_pos hmagnitude]
  have hvalue : (q.num.natAbs : ℚ) = m * 2 ^ e * q.den := by
    rw [← habs, Nat.cast_natAbs, Int.cast_abs, ← Rat.mul_den_eq_num, abs_mul, abs_of_pos hden]
  have hnum : q.num ≠ 0 := by
    intro hzero
    rw [Rat.num_eq_zero.1 hzero, abs_zero] at habs
    exact hmagnitude.ne habs
  obtain ⟨k, hk⟩ := divCore_exact h q.den_pos hvalue
  rw [nearestTo, dif_neg hnum, if_neg (not_limit_le h he q.den_pos hvalue le_rfl)]
  congr 2
  simp only [UnpackedFloat.div, hk, hsign]
  cases sign with
  | negative => exact roundWithAccuracy_exact h k
  | positive => exact roundWithAccuracy_exact h k

theorem value?_nearestTo {m : Nat} {e : Int} {hm : 0 < m} {sign : Sign} (h : Canonical (.finite sign m e hm))
    (he : e ≤ 971) : value? (nearestTo (dyadic (sign.apply m) e)) = some (dyadic (sign.apply m) e) := by
  rw [nearestTo_exact h he, value?, unpack_pack h he]

/-- Every whole number up to 53 bits is a number of the format. -/
theorem exists_canonical {n : Nat} (hn : 0 < n) (hbits : n ≤ 2 ^ 53) (sign : Sign) :
    ∃ (m : Nat) (e : Int) (hm : 0 < m), Canonical (.finite sign m e hm) ∧ e ≤ 971 ∧ (m : ℚ) * 2 ^ e = n := by
  rcases hbits.lt_or_eq with hlt | rfl
  · have hlog : n.log2 < 53 := (Nat.log2_lt hn.ne').2 hlt
    have hpos : 0 < n * 2 ^ (52 - n.log2) := by positivity
    have hlog' : (n * 2 ^ (52 - n.log2)).log2 = 52 := by
      rw [log2_mul_two_pow hn]
      omega
    refine ⟨n * 2 ^ (52 - n.log2), -(52 - n.log2 : Nat), hpos, ⟨?_, by omega, .inl ?_⟩, by omega, ?_⟩
    · exact (Nat.log2_lt hpos.ne').1 (by omega)
    · exact (Nat.le_log2 hpos.ne').1 hlog'.ge
    · rw [Nat.cast_mul, Nat.cast_pow, Nat.cast_ofNat, mul_assoc, ← zpow_natCast, ← zpow_add₀ (by norm_num)]
      simp
  · exact ⟨2 ^ 52, 1, by norm_num, ⟨by norm_num, by norm_num, .inl le_rfl⟩, by norm_num, by norm_num⟩

theorem value?_nearestTo_intCast {n : Int} (hn : n.natAbs ≤ 2 ^ 53) : value? (nearestTo n) = some (n : ℚ) := by
  rcases lt_trichotomy n 0 with hneg | rfl | hpos
  · obtain ⟨m, e, hm, hcanonical, he, hvalue⟩ := exists_canonical (by omega) hn .negative
    have hq : dyadic (Sign.negative.apply m) e = n := by
      rw [dyadic_negative, hvalue, Nat.cast_natAbs, abs_of_neg hneg, Int.cast_neg, neg_neg]
    rw [← hq]
    exact value?_nearestTo hcanonical he
  · rfl
  · obtain ⟨m, e, hm, hcanonical, he, hvalue⟩ := exists_canonical (by omega) hn .positive
    have hq : dyadic (Sign.positive.apply m) e = n := by
      rw [dyadic_positive, hvalue, Nat.cast_natAbs, abs_of_pos hpos]
    rw [← hq]
    exact value?_nearestTo hcanonical he

end Binary

instance : LawfulScalar Float where
  lt_iff_rank_lt hx hy := by
    rw [Binary.lt_iff hx hy, Binary.rank_eq_rank_unpack hx, Binary.rank_eq_rank_unpack hy]
  le_iff_rank_le hx hy := by
    rw [Binary.le_iff hx hy, Binary.rank_eq_rank_unpack hx, Binary.rank_eq_rank_unpack hy]
  isNaN_of_lt := Binary.isNaN_of_lt
  toRat?_of_isNaN {x} hx := by
    change Binary.value? x = none
    rw [Binary.value?, (Binary.isNaN_iff_unpack x).1 hx]
  toRat?_ofInt := Binary.value?_nearestTo_intCast

/-- Zeros of either sign are equal, and a value that is no number is equal to nothing. -/
instance partialEquivBEq : PartialEquivBEq Float where
  symm {x y} h := by
    obtain ⟨hx, hy⟩ := Binary.isNaN_of_beq h
    exact (Binary.beq_iff hy hx).2 ((Binary.beq_iff hx hy).1 h).symm
  trans {x y z} hxy hyz := by
    obtain ⟨hx, hy⟩ := Binary.isNaN_of_beq hxy
    obtain ⟨-, hz⟩ := Binary.isNaN_of_beq hyz
    exact (Binary.beq_iff hx hz).2 (((Binary.beq_iff hx hy).1 hxy).trans ((Binary.beq_iff hy hz).1 hyz))

end ChartGestures
