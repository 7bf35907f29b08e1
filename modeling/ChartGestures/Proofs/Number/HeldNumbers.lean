import ChartGestures.Proofs.Number.SinglePrecision

/-!
# Numbers that a format holds

Rounding leaves a number alone that the format holds already: the grid on which it is rounded is no coarser than its own,
so its mantissa there is a whole number. In the widest format a number other than zero is the only one with its value,
and a zero keeps its sign through a product with zero, so what comes back from its exact value is the same number and not
only an equal one.
-/

namespace ChartGestures

open Float.Model (Format UnpackedFloat)
open Float.Model.UnpackedFloat (Sign)

theorem roundHalfEven_intCast (n : Int) : roundHalfEven n = n :=
  roundHalfEven_eq_iff.2 ⟨⟨by linarith, by linarith⟩, fun h => by rcases h with h | h <;> linarith⟩

namespace BinaryFormat

/-- A number as the format stores it: a whole mantissa on a grid. -/
def Holds (format : BinaryFormat) (q : ℚ) : Prop :=
  ∃ m e : Int, m.natAbs < 2 ^ format.precision ∧ format.leastExponent ≤ e ∧ q = dyadic m e

variable {format : BinaryFormat} {q : ℚ}

theorem Holds.neg (h : format.Holds q) : format.Holds (-q) := by
  obtain ⟨m, e, hm, he, rfl⟩ := h
  refine ⟨-m, e, by rwa [Int.natAbs_neg], he, ?_⟩
  rw [dyadic_eq, dyadic_eq, Int.cast_neg, neg_mul]

/-- The grid on which a number of the format is rounded is no coarser than its own. -/
theorem gridExponent_le {m : Nat} {e : Int} (hq : 0 < q) (hm : m < 2 ^ format.precision)
    (he : format.leastExponent ≤ e) (hvalue : q = m * 2 ^ e) : format.gridExponent q ≤ e := by
  obtain ⟨-, -, hgrid⟩ := gridExponent_bounds format hq
  rcases hgrid with hleast | hleading
  · exact hleast.trans_le he
  · have hm' : (m : ℚ) < 2 ^ (format.precision : Int) := by exact_mod_cast hm
    have hlt : (2 : ℚ) ^ (format.gridExponent q + format.precision - 1) < 2 ^ (format.precision + e) :=
      calc (2 : ℚ) ^ (format.gridExponent q + format.precision - 1) ≤ m * 2 ^ e := hvalue ▸ hleading
        _ < 2 ^ (format.precision : Int) * 2 ^ e := mul_lt_mul_of_pos_right hm' (by positivity)
        _ = 2 ^ (format.precision + e) := (zpow_add₀ two_ne_zero _ _).symm
    have hexponents := (zpow_lt_zpow_iff_right₀ (one_lt_two (α := ℚ))).1 hlt
    omega

/-- A number of the format is nearest to itself. -/
theorem Holds.nearest (h : format.Holds q) : format.nearest q = q := by
  have hpositive : ∀ p : ℚ, 0 < p → format.Holds p → format.nearest p = p := by
    rintro p hp ⟨m, e, hm, he, hvalue⟩
    have hpow : (0 : ℚ) < 2 ^ e := by positivity
    have hmantissa : 0 < m := by
      rw [dyadic_eq] at hvalue
      rw [hvalue] at hp
      exact_mod_cast pos_of_mul_pos_left hp hpow.le
    obtain ⟨k, rfl⟩ := Int.eq_ofNat_of_zero_le hmantissa.le
    rw [dyadic_eq, Int.cast_natCast] at hvalue
    have hgrid := gridExponent_le hp hm he hvalue
    generalize hg : format.gridExponent p = g at hgrid
    obtain ⟨shift, hshift⟩ := Int.eq_ofNat_of_zero_le (Int.sub_nonneg.2 hgrid)
    have hscaled : p / 2 ^ g = ((k * 2 ^ shift : Nat) : Int) := by
      rw [hvalue, mul_div_assoc, ← zpow_sub₀ two_ne_zero, hshift]
      push_cast
      rw [zpow_natCast]
    rw [nearest_of_pos hp, hg, hscaled, roundHalfEven_intCast, ← hscaled, div_mul_cancel₀ p (by positivity)]
  rcases lt_trichotomy q 0 with hneg | rfl | hpos
  · have hmirrored := hpositive (-q) (neg_pos.2 hneg) h.neg
    rwa [nearest_neg, neg_inj] at hmirrored
  · rfl
  · exact hpositive q hpos h

end BinaryFormat

namespace Binary

variable {x : Float} {q : ℚ}

theorem pack_unpack (x : Float.Model) : Float.Model.pack x.unpack = x := by
  obtain ⟨⟨bits⟩, hvalid⟩ := x
  have hbits : UnpackedFloat.pack Format.binary64 (UnpackedFloat.unpack Format.binary64 bits) = bits := by
    rw [UnpackedFloat.pack_unpack]
    split
    · next hnan =>
      obtain ⟨hexponent, hmantissa⟩ := of_decide_eq_true hnan
      exact (hvalid.eq_packedNaN hexponent hmantissa).symm
    · rfl
  simp only [Float.Model.pack, Float.Model.unpack, hbits]

/-- A number other than zero is the only one with its value. -/
theorem nearestTo_value (h : value? x = some q) (hq : q ≠ 0) : nearestTo q = x := by
  rw [value?] at h
  cases hunpack : x.toModel.unpack with
  | finite sign m e hm =>
    have hcanonical := canonical_unpack x.toModel
    rw [hunpack] at h hcanonical
    obtain rfl := Option.some_inj.1 h
    rw [nearestTo_exact hcanonical (exponent_le hunpack), ← hunpack, pack_unpack]
  | zero sign =>
    rw [hunpack] at h
    exact absurd (Option.some_inj.1 h).symm hq
  | infinity sign => rw [hunpack] at h; cases h
  | notANumber => rw [hunpack] at h; cases h

/-- A zero keeps its sign when it is multiplied by zero. -/
theorem mul_zero_of_value (h : value? x = some 0) : x * 0 = x := by
  have hproduct : x * 0 =
      .ofModel (Float.Model.pack (UnpackedFloat.mul Format.binary64 x.toModel.unpack (.zero .positive))) := rfl
  rw [value?] at h
  cases hunpack : x.toModel.unpack with
  | zero sign =>
    have hsign : sign * .positive = sign := by cases sign <;> rfl
    rw [hproduct, hunpack]
    simp only [UnpackedFloat.mul, hsign]
    rw [← hunpack, pack_unpack]
  | finite sign m e hm =>
    rw [hunpack] at h
    have hpos := magnitude_pos e hm
    have hzero := Option.some_inj.1 h
    cases sign with
    | positive => rw [dyadic_positive] at hzero; exact absurd hzero hpos.ne'
    | negative => rw [dyadic_negative] at hzero; exact absurd (neg_eq_zero.1 hzero) hpos.ne'
  | infinity sign => rw [hunpack] at h; cases h
  | notANumber => rw [hunpack] at h; cases h

end Binary

end ChartGestures
