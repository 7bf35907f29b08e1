import ChartGestures.Proofs.Number.Binary

/-!
# Rounded numbers

A whole number of more than 53 bits is stored as a neighbour of 53 bits, so it stays finite. Arithmetic is followed only
as far as to see that it does not lead from finite numbers to NaN.
-/

namespace ChartGestures

open Float.Model (Format UnpackedFloat totalExponent)
open Float.Model.UnpackedFloat (Sign ExtendedMantissa shiftToTargetExponent shiftToExponent roundWithAccuracy divCore)

namespace Binary

/-! ### Cutting off low bits -/

theorem shiftRight_succ (x : ExtendedMantissa) (k : Nat) : x >>> (k + 1) = (x >>> k).shiftRightOne := rfl

theorem mantissa_shiftRight (x : ExtendedMantissa) (k : Nat) : (x >>> k).mantissa = x.mantissa / 2 ^ k := by
  induction k with
  | zero => exact (Nat.div_one _).symm
  | succ k ih =>
    rw [shiftRight_succ, ExtendedMantissa.shiftRightOne, ih, Nat.div_div_eq_div_mul, pow_succ]

theorem roundedMantissa_bounds (x : ExtendedMantissa) :
    x.mantissa ≤ x.roundedMantissa ∧ x.roundedMantissa ≤ x.mantissa + 1 := by
  obtain ⟨m, round, sticky⟩ := x
  cases round <;> cases sticky <;>
    (simp [ExtendedMantissa.roundedMantissa, ExtendedMantissa.accuracy,
      Float.Model.UnpackedFloat.Accuracy.roundToNearestEven]; try omega)

/-! ### Whole numbers -/

/-- What is left of a number of more than 53 bits has 53 bits again, or is the power of two above them. -/
theorem roundedMantissa_whole {n : Nat} (h : 53 ≤ n.log2) :
    let m := (ExtendedMantissa.mk n false false >>> (n.log2 - 52)).roundedMantissa
    2 ^ 52 ≤ m ∧ m ≤ 2 ^ 53 := by
  intro m
  have hn : n ≠ 0 := by
    rintro rfl
    rw [Nat.log2_zero] at h
    omega
  have hmantissa := mantissa_shiftRight ⟨n, false, false⟩ (n.log2 - 52)
  obtain ⟨hlower, hupper⟩ := roundedMantissa_bounds (ExtendedMantissa.mk n false false >>> (n.log2 - 52))
  rw [hmantissa] at hlower hupper
  have hleast : 2 ^ 52 ≤ n / 2 ^ (n.log2 - 52) := by
    rw [Nat.le_div_iff_mul_le (by positivity), ← pow_add, show 52 + (n.log2 - 52) = n.log2 by omega]
    exact Nat.log2_self_le hn
  have hmost : n / 2 ^ (n.log2 - 52) < 2 ^ 53 := by
    rw [Nat.div_lt_iff_lt_mul (by positivity), ← pow_add, show 53 + (n.log2 - 52) = n.log2 + 1 by omega]
    exact Nat.lt_log2_self
  exact ⟨hleast.trans hlower, hupper.trans hmost⟩

theorem divCore_one {n : Nat} (h : 53 ≤ n.log2) : divCore Format.binary64 n 0 1 0 = (n, 0, .exact) := by
  have htarget : min (0 - 0) (Format.binary64.targetExponent (totalExponent n 0 - totalExponent 1 0)) = 0 := by
    rw [targetExponent_eq, totalExponent, totalExponent, show Nat.log2 1 = 0 from rfl]
    omega
  simp only [divCore, htarget]
  simp [Float.Model.UnpackedFloat.accuracyOfFraction, Nat.mod_one]

theorem shiftToTargetExponent_whole {n : Nat} (h : 53 ≤ n.log2) :
    shiftToTargetExponent Format.binary64 n 0 .exact =
      (ExtendedMantissa.mk n false false >>> (n.log2 - 52), ((n.log2 - 52 : Nat) : Int)) := by
  have htarget : Format.binary64.targetExponent (totalExponent n 0) = ((n.log2 - 52 : Nat) : Int) := by
    rw [targetExponent_eq, totalExponent]
    omega
  rw [shiftToTargetExponent, htarget, shiftToExponent, Int.sub_zero, Int.toNat_natCast, Int.zero_add]
  rfl

/-- Rounding up to a power of two moves the exponent on. -/
theorem roundWithAccuracy_whole {n : Nat} (h : 53 ≤ n.log2) (hlog : n.log2 ≤ 1000) (sign : Sign) :
    ∃ (m : Nat) (e : Int) (hm : 0 < m), Canonical (.finite sign m e hm) ∧ e ≤ 971 ∧
      (m : ℚ) * 2 ^ e =
        (ExtendedMantissa.mk n false false >>> (n.log2 - 52)).roundedMantissa * 2 ^ ((n.log2 - 52 : Nat) : Int) ∧
      roundWithAccuracy Format.binary64 sign n 0 .exact = .finite sign m e hm := by
  obtain ⟨hlower, hupper⟩ := roundedMantissa_whole h
  have hfirst := shiftToTargetExponent_whole h
  have hexponent : ((n.log2 - 52 : Nat) : Int) ≤ 948 := by omega
  generalize n.log2 - 52 = k at *
  generalize hrounded : (ExtendedMantissa.mk n false false >>> k).roundedMantissa = m at *
  rcases hupper.lt_or_eq with hlt | rfl
  · have hpos : 0 < m := Nat.lt_of_lt_of_le (by norm_num) hlower
    have hcanonical : Canonical (.finite sign m k hpos) := ⟨hlt, by omega, .inl hlower⟩
    have hsecond : shiftToTargetExponent Format.binary64 m k .exact = (⟨m, false, false⟩, (k : Int)) := by
      simpa using shiftToTargetExponent_exact hcanonical 0
    refine ⟨m, k, hpos, hcanonical, by omega, rfl, ?_⟩
    simp only [roundWithAccuracy, hfirst, hrounded, hsecond, hpos.ne', dite_false]
  · have hcanonical : Canonical (.finite sign (2 ^ 52) (k + 1) (by norm_num)) :=
      ⟨by norm_num, by omega, .inl le_rfl⟩
    have hsecond : shiftToTargetExponent Format.binary64 (2 ^ 53) k .exact =
        (⟨2 ^ 52, false, false⟩, (k : Int) + 1) := by
      simpa using shiftToTargetExponent_exact hcanonical 1
    have hvalue : ((2 ^ 52 : Nat) : ℚ) * 2 ^ ((k : Int) + 1) = (2 ^ 53 : Nat) * 2 ^ (k : Int) := by
      rw [zpow_add_one₀ two_ne_zero]
      push_cast
      ring
    refine ⟨2 ^ 52, k + 1, by norm_num, hcanonical, by omega, hvalue, ?_⟩
    simp only [roundWithAccuracy, hfirst, hrounded, hsecond]
    rfl

/-- A whole number of more than 53 bits keeps its leading ones, rounded by those that are cut off. -/
theorem value?_nearestTo_wide {n : Int} (h : 53 ≤ n.natAbs.log2) (hlog : n.natAbs.log2 ≤ 1000) :
    value? (nearestTo (n : ℚ)) = some (dyadic ((if n < 0 then Sign.negative else .positive).apply
      (ExtendedMantissa.mk n.natAbs false false >>> (n.natAbs.log2 - 52)).roundedMantissa)
        (n.natAbs.log2 - 52 : Nat)) := by
  have hn : n ≠ 0 := by
    rintro rfl
    rw [Int.natAbs_zero, Nat.log2_zero] at h
    omega
  have hnum : (n : ℚ).num ≠ 0 := by rwa [Rat.num_intCast]
  have hlimit : ∀ k, 1000 < k → ¬ Nat.pow 2 k * (n : ℚ).den ≤ (n : ℚ).num.natAbs := by
    intro k hk
    rw [Rat.num_intCast, Rat.den_intCast, Nat.mul_one, not_le]
    exact Nat.lt_log2_self.trans_le (Nat.pow_le_pow_right (by norm_num) (by omega))
  obtain ⟨m, e, hm, hcanonical, he, hvalue, hround⟩ :=
    roundWithAccuracy_whole h hlog (if n < 0 then .negative else .positive)
  have hdiv : UnpackedFloat.div Format.binary64
      (.finite (if n < 0 then .negative else .positive) n.natAbs 0 (by omega)) (.finite .positive 1 0 (by omega)) =
        .finite (if n < 0 then .negative else .positive) m e hm := by
    simp only [UnpackedFloat.div, divCore_one h]
    rw [← hround]
    split <;> rfl
  have hnearest : nearestTo (n : ℚ) =
      .ofModel (Float.Model.pack (.finite (if n < 0 then .negative else .positive) m e hm)) := by
    rw [← hdiv, nearestTo, dif_neg hnum, if_neg (hlimit 1024 (by norm_num))]
    simp only [Rat.num_intCast, Rat.den_intCast]
    congr
  rw [hnearest, value?, unpack_pack hcanonical he]
  refine congrArg some ?_
  split
  · rw [dyadic_negative, dyadic_negative, hvalue]
  · rw [dyadic_positive, dyadic_positive, hvalue]

theorem log2_le_of_bits {n k : Nat} (h : n ≤ 2 ^ k) : n.log2 ≤ k := by
  rcases n.eq_zero_or_pos with rfl | hn
  · rw [Nat.log2_zero]
    exact Nat.zero_le k
  · exact Nat.lt_succ_iff.1 ((Nat.log2_lt hn.ne').2 (h.trans_lt (Nat.pow_lt_pow_right (by norm_num) k.lt_succ_self)))

theorem isFinite_nearestTo_whole {n : Int} (h : n.natAbs ≤ 2 ^ 64) : Scalar.isFinite (nearestTo (n : ℚ)) = true := by
  by_cases hsmall : n.natAbs ≤ 2 ^ 53
  · exact Option.isSome_iff_exists.2 ⟨n, value?_nearestTo_intCast hsmall⟩
  have hlog : 53 ≤ n.natAbs.log2 := (Nat.le_log2 (by omega)).2 (by omega)
  have hlog' := log2_le_of_bits h
  exact Option.isSome_iff_exists.2 ⟨_, value?_nearestTo_wide hlog (by omega)⟩

/-! ### No way to NaN -/

theorem unpack_packComponents_ne_notANumber (sign : Sign) {exponent : BitVec 11} {mantissa : BitVec 52}
    (h : exponent ≠ -1#_ ∨ mantissa = 0#_) :
    UnpackedFloat.unpack Format.binary64 (UnpackedFloat.packComponents Format.binary64 sign exponent mantissa) ≠
      .notANumber := by
  simp only [UnpackedFloat.unpack, UnpackedFloat.unpackExponent_packComponents,
    UnpackedFloat.unpackMantissa_packComponents]
  rcases h with h | h
  · rw [if_neg h]
    split
    · split <;> exact UnpackedFloat.noConfusion
    · exact UnpackedFloat.noConfusion
  · rw [if_pos h]
    split
    · exact UnpackedFloat.noConfusion
    · split <;> exact UnpackedFloat.noConfusion

theorem unpack_pack_ne_notANumber {x : UnpackedFloat} (h : x ≠ .notANumber) :
    (Float.Model.pack x).unpack ≠ .notANumber := by
  change UnpackedFloat.unpack Format.binary64 (UnpackedFloat.pack Format.binary64 x) ≠ _
  cases x with
  | notANumber => exact absurd rfl h
  | infinity sign => exact unpack_packComponents_ne_notANumber sign (.inr rfl)
  | zero sign => exact unpack_packComponents_ne_notANumber sign (.inr rfl)
  | finite sign m e hm =>
    simp only [UnpackedFloat.pack]
    split
    · exact unpack_packComponents_ne_notANumber sign (.inr rfl)
    · next hroom =>
      split
      · refine unpack_packComponents_ne_notANumber sign (.inl fun heq => ?_)
        have := congrArg BitVec.toNat heq
        rw [BitVec.toNat_ofNat] at this
        change _ = 2047 at this
        change ¬ 2 ^ 11 ≤ _ at hroom
        omega
      · exact unpack_packComponents_ne_notANumber sign (.inl (by decide))

theorem roundWithAccuracy_ne_notANumber (sign : Sign) (m : Nat) (e : Int)
    (accuracy : Float.Model.UnpackedFloat.Accuracy) :
    roundWithAccuracy Format.binary64 sign m e accuracy ≠ .notANumber := by
  rw [roundWithAccuracy]
  dsimp only
  split <;> exact UnpackedFloat.noConfusion

theorem normalize_ne_notANumber (m e : Int) (sign : Sign) :
    UnpackedFloat.normalize Format.binary64 m e sign ≠ .notANumber := by
  rw [UnpackedFloat.normalize]
  split
  · exact roundWithAccuracy_ne_notANumber _ _ _ _
  · exact UnpackedFloat.noConfusion
  · exact roundWithAccuracy_ne_notANumber _ _ _ _

theorem isNaN_ofModel_pack {x : UnpackedFloat} (h : x ≠ .notANumber) :
    Scalar.isNaN (Float.ofModel (Float.Model.pack x)) = false := by
  rw [Bool.eq_false_iff]
  intro hnan
  exact unpack_pack_ne_notANumber h ((isNaN_iff_unpack _).1 hnan)

theorem isNaN_nearestTo (q : ℚ) : Scalar.isNaN (nearestTo q) = false := by
  rw [nearestTo]
  split
  · decide +kernel
  split
  · split <;> decide +kernel
  · exact isNaN_ofModel_pack (roundWithAccuracy_ne_notANumber _ _ _ _)

/-- A finite number is a zero, or it has a mantissa. -/
theorem unpack_of_isFinite {x : Float} (h : Scalar.isFinite x = true) :
    (∃ sign, x.toModel.unpack = .zero sign) ∨ ∃ sign m e hm, x.toModel.unpack = .finite sign m e hm := by
  change (value? x).isSome = true at h
  rw [value?] at h
  cases hunpack : x.toModel.unpack with
  | notANumber => rw [hunpack] at h; cases h
  | infinity sign => rw [hunpack] at h; cases h
  | zero sign => exact .inl ⟨sign, rfl⟩
  | finite sign m e hm => exact .inr ⟨sign, m, e, hm, rfl⟩

theorem isNaN_of_isFinite {x : Float} (h : Scalar.isFinite x = true) : Scalar.isNaN x = false := by
  obtain ⟨q, hq⟩ := Option.isSome_iff_exists.1 h
  exact Scalar.isNaN_of_toRat? hq

variable {x y : Float}

theorem add_ne_notANumber {a b : UnpackedFloat}
    (ha : (∃ sign, a = .zero sign) ∨ ∃ sign m e hm, a = .finite sign m e hm) (hb : b ≠ .notANumber) :
    UnpackedFloat.add Format.binary64 a b ≠ .notANumber := by
  rcases ha with ⟨sign, rfl⟩ | ⟨sign, m, e, hm, rfl⟩
  · cases b with
    | notANumber => exact absurd rfl hb
    | infinity sign' => exact UnpackedFloat.noConfusion
    | zero sign' =>
      rw [UnpackedFloat.add]
      split <;> exact UnpackedFloat.noConfusion
    | finite sign' m' e' hm' => exact UnpackedFloat.noConfusion
  · cases b with
    | notANumber => exact absurd rfl hb
    | infinity sign' => exact UnpackedFloat.noConfusion
    | zero sign' => exact UnpackedFloat.noConfusion
    | finite sign' m' e' hm' => exact normalize_ne_notANumber _ _ _

theorem sub_eq_add_neg (a b : UnpackedFloat) :
    UnpackedFloat.sub Format.binary64 a b = UnpackedFloat.add Format.binary64 a b.neg := by
  have happly : ∀ (sign : Sign) (n : Int), (-sign).apply n = -sign.apply n := by
    intro sign n
    cases sign
    · exact (Int.neg_neg n).symm
    · rfl
  have hneg : ∀ sign : Sign, - -sign = sign := by
    intro sign
    cases sign <;> rfl
  cases a <;> cases b <;> grind [UnpackedFloat.sub, UnpackedFloat.add, UnpackedFloat.neg]

theorem isNaN_add (hx : Scalar.isFinite x = true) (hy : Scalar.isNaN y = false) : Scalar.isNaN (x + y) = false :=
  isNaN_ofModel_pack (add_ne_notANumber (unpack_of_isFinite hx) (unpack_ne_notANumber hy))

theorem isNaN_sub (hx : Scalar.isFinite x = true) (hy : Scalar.isNaN y = false) : Scalar.isNaN (x - y) = false := by
  have hneg : y.toModel.unpack.neg ≠ .notANumber := by
    have hy' := unpack_ne_notANumber hy
    cases hunpack : y.toModel.unpack with
    | notANumber => exact absurd hunpack hy'
    | _ => exact UnpackedFloat.noConfusion
  refine isNaN_ofModel_pack ?_
  rw [sub_eq_add_neg]
  exact add_ne_notANumber (unpack_of_isFinite hx) hneg

theorem isNaN_mul_zero (hx : Scalar.isFinite x = true) : Scalar.isNaN (x * 0) = false := by
  refine isNaN_ofModel_pack ?_
  have hzero : (0 : Float).toModel.unpack = .zero .positive := rfl
  rw [hzero]
  rcases unpack_of_isFinite hx with ⟨sign, hx'⟩ | ⟨sign, m, e, hm, hx'⟩
  · rw [hx']
    exact UnpackedFloat.noConfusion
  · rw [hx']
    exact UnpackedFloat.noConfusion

theorem isNaN_neg (hx : Scalar.isNaN x = false) : Scalar.isNaN (-x) = false := by
  have hx' := unpack_ne_notANumber hx
  refine isNaN_ofModel_pack ?_
  cases hunpack : x.toModel.unpack with
  | notANumber => exact absurd hunpack hx'
  | _ => exact UnpackedFloat.noConfusion

theorem exists_unpack_of_pos (h : 0 < x) (hfinite : Scalar.isFinite x = true) :
    ∃ sign m e hm, x.toModel.unpack = .finite sign m e hm := by
  rcases unpack_of_isFinite hfinite with ⟨sign, hzero⟩ | hunpack
  · rw [lt_iff_unpack, hzero] at h
    cases h
  · exact hunpack

/-- Only a zero or an infinity makes NaN of a factor. -/
theorem isNaN_mul {sign : Sign} {m : Nat} {e : Int} {hm : 0 < m} (hx : x.toModel.unpack = .finite sign m e hm)
    (hy : Scalar.isNaN y = false) : Scalar.isNaN (x * y) = false := by
  have hy' := unpack_ne_notANumber hy
  refine isNaN_ofModel_pack ?_
  rw [hx]
  cases hunpack : y.toModel.unpack with
  | notANumber => exact absurd hunpack hy'
  | finite sign' m' e' hm' => exact roundWithAccuracy_ne_notANumber _ _ _ _
  | _ => exact UnpackedFloat.noConfusion

theorem isNaN_div {sign : Sign} {m : Nat} {e : Int} {hm : 0 < m} (hx : Scalar.isNaN x = false)
    (hy : y.toModel.unpack = .finite sign m e hm) : Scalar.isNaN (x / y) = false := by
  have hx' := unpack_ne_notANumber hx
  refine isNaN_ofModel_pack ?_
  rw [hy]
  cases hunpack : x.toModel.unpack with
  | notANumber => exact absurd hunpack hx'
  | finite sign' m' e' hm' => exact roundWithAccuracy_ne_notANumber _ _ _ _
  | _ => exact UnpackedFloat.noConfusion

end Binary

end ChartGestures
