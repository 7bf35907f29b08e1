import ChartGestures.Proofs.Number.HeldNumbers

/-!
# The nearest number keeps order

Rounding to a format does not exchange numbers: on one grid the nearest points stand in the order of the numbers, and a
coarser grid starts where a finer one ends. The bits that are cut off a wide whole number tell on which side of the
middle it lies, so what is stored for a whole number of 64 bits is its nearest number of 53 bits, and larger whole
numbers are stored as numbers that are no smaller.
-/

namespace ChartGestures

open Float.Model.UnpackedFloat (ExtendedMantissa)

theorem roundHalfEven_mono {p q : ℚ} (h : p ≤ q) : roundHalfEven p ≤ roundHalfEven q := by
  obtain ⟨⟨hp, -⟩, -⟩ := roundHalfEven_eq_iff.1 (rfl : roundHalfEven p = _)
  obtain ⟨⟨-, hq⟩, -⟩ := roundHalfEven_eq_iff.1 (rfl : roundHalfEven q = _)
  by_contra hless
  have hapart : (roundHalfEven q : ℚ) + 1 ≤ roundHalfEven p := by exact_mod_cast not_le.1 hless
  -- only a shared middle would leave room, and there both are the same number
  obtain rfl : p = q := by linarith
  exact hless le_rfl

namespace BinaryFormat

variable {format : BinaryFormat} {p q : ℚ}

theorem leadingExponent_mono (hp : 0 < p) (h : p ≤ q) : leadingExponent p ≤ leadingExponent q := by
  obtain ⟨hlower, -⟩ := leadingExponent_bounds hp
  obtain ⟨-, hupper⟩ := leadingExponent_bounds (hp.trans_le h)
  have hexponents := (zpow_lt_zpow_iff_right₀ (one_lt_two (α := ℚ))).1 ((hlower.trans h).trans_lt hupper)
  omega

theorem nearest_nonneg (hq : 0 ≤ q) : 0 ≤ format.nearest q := by
  rcases hq.eq_or_lt with rfl | hpos
  · rfl
  · have hmantissa : 0 ≤ roundHalfEven (q / 2 ^ format.gridExponent q) :=
      le_roundHalfEven (by exact_mod_cast (div_pos hpos (by positivity)).le)
    rw [nearest_of_pos hpos]
    exact mul_nonneg (by exact_mod_cast hmantissa) (by positivity)

/-- A number is not rounded past the end of its grid. -/
theorem nearest_le_gridEnd (hp : 0 < p) : format.nearest p ≤ 2 ^ (format.gridExponent p + format.precision) := by
  obtain ⟨hend, -, -⟩ := gridExponent_bounds format hp
  have hpow : (0 : ℚ) < 2 ^ format.gridExponent p := by positivity
  have hmantissa : roundHalfEven (p / 2 ^ format.gridExponent p) ≤ 2 ^ format.precision := by
    refine roundHalfEven_le ?_
    rw [div_le_iff₀ hpow]
    push_cast
    rw [← zpow_natCast, ← zpow_add₀ two_ne_zero, add_comm]
    exact hend.le
  rw [nearest_of_pos hp, add_comm, zpow_add₀ two_ne_zero, zpow_natCast]
  exact mul_le_mul_of_nonneg_right (by exact_mod_cast hmantissa) hpow.le

/-- Above the finest grid a number is not rounded below the start of its own. -/
theorem gridStart_le_nearest (hprecision : 0 < format.precision) (hq : 0 < q)
    (hcoarse : format.leastExponent < format.gridExponent q) :
    2 ^ (format.gridExponent q + format.precision - 1) ≤ format.nearest q := by
  obtain ⟨-, -, hstart⟩ := gridExponent_bounds format hq
  have hpow : (0 : ℚ) < 2 ^ format.gridExponent q := by positivity
  have hexponent : format.gridExponent q + format.precision - 1 =
      ((format.precision - 1 : Nat) : Int) + format.gridExponent q := by omega
  have hmantissa : 2 ^ (format.precision - 1) ≤ roundHalfEven (q / 2 ^ format.gridExponent q) := by
    refine le_roundHalfEven ?_
    rw [le_div_iff₀ hpow]
    push_cast
    rw [← zpow_natCast, ← zpow_add₀ two_ne_zero, ← hexponent]
    exact hstart.resolve_left hcoarse.ne'
  rw [nearest_of_pos hq, hexponent, zpow_add₀ two_ne_zero, zpow_natCast]
  exact mul_le_mul_of_nonneg_right (by exact_mod_cast hmantissa) hpow.le

theorem nearest_mono_of_pos (hprecision : 0 < format.precision) (hp : 0 < p) (h : p ≤ q) :
    format.nearest p ≤ format.nearest q := by
  have hq := hp.trans_le h
  have hgrids : format.gridExponent p ≤ format.gridExponent q := by
    have hleading := leadingExponent_mono hp h
    rw [gridExponent_eq, gridExponent_eq]
    omega
  rcases hgrids.eq_or_lt with hsame | hfiner
  · have hpow : (0 : ℚ) < 2 ^ format.gridExponent q := by positivity
    have hscaled := roundHalfEven_mono (div_le_div_of_nonneg_right h hpow.le)
    rw [nearest_of_pos hp, nearest_of_pos hq, hsame]
    exact mul_le_mul_of_nonneg_right (by exact_mod_cast hscaled) hpow.le
  · obtain ⟨-, hleast, -⟩ := gridExponent_bounds format hp
    calc format.nearest p ≤ 2 ^ (format.gridExponent p + format.precision) := nearest_le_gridEnd hp
      _ ≤ 2 ^ (format.gridExponent q + format.precision - 1) := zpow_le_zpow_right₀ one_le_two (by omega)
      _ ≤ format.nearest q := gridStart_le_nearest hprecision hq (hleast.trans_lt hfiner)

theorem nearest_mono (hprecision : 0 < format.precision) (h : p ≤ q) : format.nearest p ≤ format.nearest q := by
  rcases lt_or_ge 0 p with hp | hp
  · exact nearest_mono_of_pos hprecision hp h
  · rcases lt_or_ge q 0 with hq | hq
    · have hmirrored := nearest_mono_of_pos hprecision (neg_pos.2 hq) (neg_le_neg h)
      rwa [nearest_neg, nearest_neg, neg_le_neg_iff] at hmirrored
    · have hbelow : 0 ≤ format.nearest (-p) := nearest_nonneg (neg_nonneg.2 hp)
      rw [nearest_neg, neg_nonneg] at hbelow
      exact hbelow.trans (nearest_nonneg hq)

theorem gridExponent_natCast {n : Nat} (hn : 0 < n) :
    double.gridExponent (n : ℚ) = max (-1074) ((n.log2 : Int) - 52) := by
  have hlower : ¬ (n : ℚ) < 2 ^ (n.log2 : Int) := by
    rw [not_lt, zpow_natCast]
    exact_mod_cast Nat.log2_self_le hn.ne'
  have hleading : leadingExponent (n : ℚ) = n.log2 := by
    have hone : Nat.log2 1 = 0 := rfl
    simp only [leadingExponent, Rat.num_natCast, Rat.den_natCast, Int.natAbs_natCast, hone, Nat.cast_zero, sub_zero,
      dyadic_eq, Int.cast_one, one_mul, if_neg hlower]
  rw [gridExponent_eq, hleading]
  change max (-1074) ((n.log2 : Int) + 1 - (53 : Nat)) = _
  congr 1
  omega

/-- A whole number of up to 53 bits is its own mantissa, the power of two above them on the next grid. -/
theorem holds_intCast {n : Int} (h : n.natAbs ≤ 2 ^ 53) : double.Holds n := by
  rcases h.lt_or_eq with hlt | hlast
  · exact ⟨n, 0, hlt, by decide, by rw [dyadic_eq, zpow_zero, mul_one]⟩
  · refine ⟨n / 2, 1, ?_, by decide, ?_⟩
    · change (n / 2).natAbs < 2 ^ 53
      omega
    · have hhalves : n = n / 2 * 2 := by omega
      rw [dyadic_eq, zpow_one]
      exact_mod_cast hhalves

end BinaryFormat

namespace Binary

/-- What the two bits behind the mantissa say of the part that is cut off. -/
theorem shiftRight_bits (n k : Nat) :
    ((ExtendedMantissa.mk n false false >>> k).roundBit = true ↔ 2 ^ k ≤ 2 * (n % 2 ^ k)) ∧
      ((ExtendedMantissa.mk n false false >>> k).stickyBit = true ↔ n % 2 ^ k ≠ 0 ∧ 2 * (n % 2 ^ k) ≠ 2 ^ k) := by
  induction k with
  | zero =>
    have hshift : ExtendedMantissa.mk n false false >>> 0 = ⟨n, false, false⟩ := rfl
    rw [hshift]
    simp [Nat.mod_one]
  | succ k ih =>
    obtain ⟨hround, hsticky⟩ := ih
    have hrest := Nat.mod_lt n (Nat.two_pow_pos k)
    have hmantissa := mantissa_shiftRight ⟨n, false, false⟩ k
    rw [shiftRight_succ, ExtendedMantissa.shiftRightOne, Nat.mod_pow_succ, pow_succ]
    dsimp only
    rw [Bool.or_eq_true, hround, hsticky, hmantissa, bne_iff_ne]
    dsimp only
    rcases Nat.mod_two_eq_zero_or_one (n / 2 ^ k) with hbit | hbit
    · rw [hbit, Nat.mul_zero]
      omega
    · rw [hbit, Nat.mul_one]
      omega

/-- The bits behind a mantissa decide as the part that they stand for: to the nearest, a half to the even one. -/
theorem roundHalfEven_of_bits {x : ExtendedMantissa} {part : ℚ} (hnonneg : 0 ≤ part) (hbelow : part < 1)
    (hround : x.roundBit = true ↔ 1 / 2 ≤ part) (hsticky : x.stickyBit = true ↔ part ≠ 0 ∧ part ≠ 1 / 2) :
    roundHalfEven (x.mantissa + part) = x.roundedMantissa := by
  obtain ⟨m, round, sticky⟩ := x
  dsimp only at hround hsticky ⊢
  rw [roundHalfEven_eq_iff]
  cases round with
  | false =>
    have hsmall : part < 1 / 2 := by simpa using hround
    have hrounded : (ExtendedMantissa.mk m false sticky).roundedMantissa = m := by cases sticky <;> rfl
    rw [hrounded, Int.cast_natCast]
    refine ⟨⟨by linarith, by linarith⟩, fun h => ?_⟩
    rcases h with h | h <;> linarith
  | true =>
    have hlarge : 1 / 2 ≤ part := hround.1 rfl
    cases sticky with
    | false =>
      have hmiddle : part = 1 / 2 := by
        by_contra hne
        exact absurd (hsticky.2 ⟨by linarith, hne⟩) Bool.false_ne_true
      have hrounded : (ExtendedMantissa.mk m true false).roundedMantissa = m + m % 2 := rfl
      have hparity : m % 2 = 0 ∨ m % 2 = 1 := Nat.mod_two_eq_zero_or_one m
      rw [hrounded, hmiddle, Int.cast_natCast]
      refine ⟨?_, fun _ => by omega⟩
      rcases hparity with h | h
      · rw [h, Nat.add_zero]
        exact ⟨by linarith, by linarith⟩
      · rw [h]
        push_cast
        exact ⟨by linarith, by linarith⟩
    | true =>
      have hne : part ≠ 1 / 2 := (hsticky.1 rfl).2
      have hmore : 1 / 2 < part := lt_of_le_of_ne hlarge (Ne.symm hne)
      have hrounded : (ExtendedMantissa.mk m true true).roundedMantissa = m + 1 := rfl
      rw [hrounded]
      push_cast
      refine ⟨⟨by linarith, by linarith⟩, fun h => ?_⟩
      rcases h with h | h <;> linarith

/-- Bits that are cut off are rounded away to the nearest mantissa. -/
theorem roundedMantissa_shiftRight (n k : Nat) :
    ((ExtendedMantissa.mk n false false >>> k).roundedMantissa : Int) = roundHalfEven ((n : ℚ) / 2 ^ k) := by
  obtain ⟨hround, hsticky⟩ := shiftRight_bits n k
  have hmantissa := mantissa_shiftRight ⟨n, false, false⟩ k
  have hpow : (0 : ℚ) < 2 ^ k := by positivity
  obtain ⟨part, hpart⟩ : ∃ part : ℚ, part = (n % 2 ^ k : Nat) / 2 ^ k := ⟨_, rfl⟩
  have hvalue : (n : ℚ) / 2 ^ k = (n / 2 ^ k : Nat) + part := by
    have hsplit : ((2 ^ k * (n / 2 ^ k) + n % 2 ^ k : Nat) : ℚ) = n := congrArg Nat.cast (Nat.div_add_mod n (2 ^ k))
    rw [← hsplit, hpart]
    push_cast
    field_simp
  have hbelow : part < 1 := by
    rw [hpart, div_lt_one hpow]
    exact_mod_cast Nat.mod_lt n (Nat.two_pow_pos k)
  have hnonneg : 0 ≤ part := hpart ▸ by positivity
  have hhalf : 2 ^ k ≤ 2 * (n % 2 ^ k) ↔ 1 / 2 ≤ part := by
    rw [hpart, le_div_iff₀ hpow, ← Nat.cast_le (α := ℚ)]
    push_cast
    constructor <;> intro h <;> linarith
  have hnone : n % 2 ^ k = 0 ↔ part = 0 := by
    rw [hpart, div_eq_zero_iff, or_iff_left hpow.ne', Nat.cast_eq_zero]
  have hmiddle : 2 * (n % 2 ^ k) = 2 ^ k ↔ part = 1 / 2 := by
    rw [hpart, div_eq_iff hpow.ne', ← Nat.cast_inj (R := ℚ)]
    push_cast
    constructor <;> intro h <;> linarith
  rw [hhalf] at hround
  rw [ne_eq, ne_eq, hnone, hmiddle] at hsticky
  rw [hvalue, ← hmantissa, roundHalfEven_of_bits hnonneg hbelow hround hsticky]

theorem nearest_wide {n : Nat} (h : 53 ≤ n.log2) : BinaryFormat.double.nearest (n : ℚ) =
    (ExtendedMantissa.mk n false false >>> (n.log2 - 52)).roundedMantissa * 2 ^ ((n.log2 - 52 : Nat) : Int) := by
  have hn : 0 < n := by
    refine Nat.pos_of_ne_zero ?_
    rintro rfl
    rw [Nat.log2_zero] at h
    omega
  have hgrid : BinaryFormat.double.gridExponent (n : ℚ) = ((n.log2 - 52 : Nat) : Int) := by
    rw [BinaryFormat.gridExponent_natCast hn]
    omega
  rw [BinaryFormat.nearest_of_pos (by exact_mod_cast hn), hgrid, zpow_natCast, ← roundedMantissa_shiftRight,
    Int.cast_natCast]

/-- A whole number of 64 bits is stored as the nearest number of the format. -/
theorem value?_nearestTo_whole {n : Int} (h : n.natAbs ≤ 2 ^ 64) :
    value? (nearestTo (n : ℚ)) = some (BinaryFormat.double.nearest n) := by
  rcases Nat.lt_or_ge (2 ^ 53) n.natAbs with hwide | hsmall
  · have hlog : 53 ≤ n.natAbs.log2 := (Nat.le_log2 (by omega)).2 hwide.le
    have hlog' := log2_le_of_bits h
    have hnearest := nearest_wide hlog
    rw [value?_nearestTo_wide hlog (by omega)]
    refine congrArg some ?_
    split
    · next hneg =>
      have hmagnitude : (n : ℚ) = -(n.natAbs : ℚ) := by
        rw [Nat.cast_natAbs, abs_of_neg hneg, Int.cast_neg, neg_neg]
      rw [dyadic_negative, hmagnitude, BinaryFormat.nearest_neg, hnearest]
    · next hpos =>
      have hmagnitude : (n : ℚ) = (n.natAbs : ℚ) := by rw [Nat.cast_natAbs, abs_of_nonneg (not_lt.1 hpos)]
      rw [dyadic_positive, hmagnitude, hnearest]
  · rw [value?_nearestTo_intCast hsmall, (BinaryFormat.holds_intCast hsmall).nearest]

end Binary

/-- Whole numbers of 64 bits are projected in order. -/
theorem Scalar.ofInt_mono {n m : Int} (hn : n.natAbs ≤ 2 ^ 64) (hm : m.natAbs ≤ 2 ^ 64) (h : n ≤ m) :
    (Scalar.ofInt n : Float) ≤ Scalar.ofInt m := by
  have hn' : Scalar.toRat? (Scalar.ofInt n : Float) = some (BinaryFormat.double.nearest n) :=
    Binary.value?_nearestTo_whole hn
  have hm' : Scalar.toRat? (Scalar.ofInt m : Float) = some (BinaryFormat.double.nearest m) :=
    Binary.value?_nearestTo_whole hm
  have hnearest : BinaryFormat.double.nearest n ≤ BinaryFormat.double.nearest m :=
    BinaryFormat.nearest_mono (by decide) (by exact_mod_cast h)
  rw [Scalar.le_iff_rank_le (Scalar.isNaN_of_toRat? hn') (Scalar.isNaN_of_toRat? hm'), Scalar.rank_of_toRat? hn',
    Scalar.rank_of_toRat? hm', WithBot.coe_le_coe, WithTop.coe_le_coe]
  exact hnearest

end ChartGestures
