import ChartGestures.Number.ExactDecimal
import ChartGestures.Proofs.Number.SinglePrecision
import ChartGestures.Proofs.Range.IndexClipping

/-!
# Bounds that are not set, in another kind

A kind marks a bound that is not set by its extreme values, or by what is no finite number. Brought into another kind,
the mark is a number like any other. It stays a mark if it lies at or past the extremes of the new kind, and turns into
a bound if the new kind reaches further, or if it is NaN and the new kind has whole numbers, where NaN stands at zero.
Joining ranges asks whether the second one is defined only after it has been brought into the kind of the first. What
marks a bound of decimals is up to the decimals, and they are left out.
-/

namespace ChartGestures

open Scalar

/-! ### Where rounding reaches a limit -/

theorem roundHalfAway_le_iff {n : Int} (hn : n < 0) (q : ℚ) : roundHalfAway q ≤ n ↔ q ≤ n + 1 / 2 := by
  have hn' : (n : ℚ) ≤ -1 := by exact_mod_cast Int.le_sub_one_of_lt hn
  rw [roundHalfAway_eq]
  split
  · rw [neg_le, Int.le_floor]
    push_cast
    constructor <;> intro h <;> linarith
  · next hq =>
    have hfloor : 0 ≤ ⌊q + 1 / 2⌋ := Int.floor_nonneg.2 (by linarith)
    exact iff_of_false (by omega) (by linarith)

theorem le_roundHalfAway_iff {n : Int} (hn : 0 < n) (q : ℚ) : n ≤ roundHalfAway q ↔ n - 1 / 2 ≤ q := by
  have hn' : (1 : ℚ) ≤ n := by exact_mod_cast hn
  rw [roundHalfAway_eq]
  split
  · next hq =>
    have hfloor : 0 ≤ ⌊-q + 1 / 2⌋ := Int.floor_nonneg.2 (by linarith)
    exact iff_of_false (by omega) (by linarith)
  · rw [Int.le_floor]
    constructor <;> intro h <;> linarith

theorem truncate_le_iff {n : Int} (hn : n < 0) (q : ℚ) : truncate q ≤ n ↔ q ≤ n := by
  rw [← Int.lt_add_one_iff, truncate_lt_iff]
  push_cast
  rw [add_sub_cancel_right]
  constructor
  · rintro ⟨-, h⟩
    exact not_lt.1 fun hlt => h ⟨by omega, hlt⟩
  · exact fun h => ⟨by linarith, fun hpast => absurd hpast.2 (not_lt.2 h)⟩

theorem le_truncate_iff {n : Int} (hn : 0 < n) (q : ℚ) : n ≤ truncate q ↔ n ≤ q := by
  rw [← Int.sub_one_lt_iff, lt_truncate_iff]
  push_cast
  rw [sub_add_cancel]
  constructor
  · rintro ⟨-, h⟩
    exact not_lt.1 fun hlt => h ⟨by omega, hlt⟩
  · exact fun h => ⟨by linarith, fun hpast => absurd hpast.2 (not_lt.2 h)⟩

namespace Scalar

/-- At `lo` or below it, or at `hi` or above it. A value that is no number is neither. -/
def IsBeyond {α : Type} [Scalar α] (lo hi : ℚ) (x : α) : Prop :=
  isNaN x = false ∧ (rank x ≤ (lo : WithTop ℚ) ∨ (hi : WithTop ℚ) ≤ rank x)

variable {α : Type} [Scalar α]

instance (lo hi : ℚ) (x : α) : Decidable (IsBeyond lo hi x) := inferInstanceAs (Decidable (_ ∧ (_ ∨ _)))

theorem isBeyond_of_toRat? [LawfulScalar α] {lo hi q : ℚ} {x : α} (h : toRat? x = some q) :
    IsBeyond lo hi x ↔ q ≤ lo ∨ hi ≤ q := by
  rw [IsBeyond, isNaN_of_toRat? h, rank_of_toRat? h]
  simp

/-- Rounding ends at a limit for a number that is beyond both, and never for NaN. -/
theorem toIntWithin_eq_limit_iff [LawfulScalar α] {round : ℚ → Int} {lo hi : Int} {low high : ℚ} (hlo : lo < 0)
    (hhi : 0 < hi) (hlow : ∀ q, round q ≤ lo ↔ q ≤ low) (hhigh : ∀ q, hi ≤ round q ↔ high ≤ q) (x : α) :
    toIntWithin round lo hi x = lo ∨ toIntWithin round lo hi x = hi ↔ IsBeyond low high x := by
  cases hvalue : toRat? x with
  | some q =>
    rw [isBeyond_of_toRat? hvalue, ← hlow, ← hhigh, toIntWithin, hvalue]
    dsimp only
    omega
  | none =>
    rw [IsBeyond, rank, toIntWithin, hvalue]
    cases hnan : isNaN x with
    | true =>
      simp only [if_true, Bool.true_eq_false, false_and, iff_false]
      omega
    | false =>
      by_cases hneg : x < 0 <;> simp [hneg]

theorem roundHalfAway_eq_limit_iff [LawfulScalar α] {lo hi : Int} (hlo : lo < 0) (hhi : 0 < hi) (x : α) :
    toIntWithin roundHalfAway lo hi x = lo ∨ toIntWithin roundHalfAway lo hi x = hi ↔
      IsBeyond (lo + 1 / 2) (hi - 1 / 2) x :=
  toIntWithin_eq_limit_iff hlo hhi (roundHalfAway_le_iff hlo) (le_roundHalfAway_iff hhi) x

end Scalar

theorem Date.beq_ofTicks_iff {v : Date} (hv : IsSubsecond v.nanos) {n : Int} (hmin : minDateTicks ≤ n)
    (hmax : n ≤ maxDateTicks) : (v == Date.ofTicks n) = true ↔ totalNanos v.seconds v.nanos = nanosPerTick * n := by
  have hcount : totalNanos (Date.ofTicks n).seconds (Date.ofTicks n).nanos = nanosPerTick * n := by
    rw [Date.ofTicks_of_mem hmin hmax]
    exact totalNanos_ticks n
  rw [Date.beq_iff, ← totalNanos_inj hv (Date.isSubsecond_ofTicks n), hcount]

theorem TimeSpan.beq_ofTicks_iff {v : TimeSpan} (hv : IsSubsecond v.nanos) {n : Int}
    (hmin : Int64.minValue.toInt ≤ n) (hmax : n ≤ Int64.maxValue.toInt) :
    (v == TimeSpan.ofTicks n) = true ↔ totalNanos v.seconds v.nanos = nanosPerTick * n := by
  have hcount : totalNanos (TimeSpan.ofTicks n).seconds (TimeSpan.ofTicks n).nanos = nanosPerTick * n := by
    rw [TimeSpan.ofTicks_of_mem hmin hmax]
    exact totalNanos_ticks n
  rw [TimeSpan.beq_iff, ← totalNanos_inj hv (TimeSpan.isSubsecond_ofTicks n), hcount]

namespace Domain

variable {x : Float}

/-! ### Floating point -/

theorem isFloatSentinel_iff {largest : Float} {limit : ℚ} (hlargest : toRat? largest = some limit)
    (hneg : toRat? (-largest) = some (-limit)) :
    isFloatSentinel largest x = true ↔ toRat? x = none ∨ toRat? x = some (-limit) ∨ toRat? x = some limit := by
  have hbeq : ∀ (y : Float) (q : ℚ), isNaN x = false → toRat? y = some q →
      ((x == y) = true ↔ rank x = (q : WithTop ℚ)) := by
    intro y q hx hy
    have hy' := isNaN_of_toRat? hy
    rw [Binary.beq_iff hx hy', ← Binary.rank_eq_rank_unpack hx, ← Binary.rank_eq_rank_unpack hy', rank_of_toRat? hy]
  cases hvalue : toRat? x with
  | none => simp [isFloatSentinel, isFinite, hvalue]
  | some q =>
    have hx := isNaN_of_toRat? hvalue
    rw [isFloatSentinel, isFinite, hvalue, Bool.or_eq_true, Bool.or_eq_true, hbeq _ _ hx hneg, hbeq _ _ hx hlargest,
      rank_of_toRat? hvalue]
    simp only [Option.isSome_some, Bool.not_true, Bool.false_eq_true, false_or, WithBot.coe_inj, WithTop.coe_inj,
      Option.some_inj, reduceCtorEq]

theorem toRat?_largestDouble : toRat? (largestDouble : Float) = some (dyadic 9007199254740991 971) ∧
    toRat? (-largestDouble : Float) = some (-dyadic 9007199254740991 971) := by
  decide +kernel

theorem toRat?_largestSingle : toRat? (largestSingle : Float) = some (dyadic 16777215 104) ∧
    toRat? (-largestSingle : Float) = some (-dyadic 16777215 104) := by
  decide +kernel

theorem isDoubleSentinel_iff : isFloatSentinel largestDouble x = true ↔
    toRat? x = none ∨ toRat? x = some (-dyadic 9007199254740991 971) ∨ toRat? x = some (dyadic 9007199254740991 971) :=
  isFloatSentinel_iff toRat?_largestDouble.1 toRat?_largestDouble.2

theorem isSingleSentinel_iff : isFloatSentinel largestSingle x = true ↔
    toRat? x = none ∨ toRat? x = some (-dyadic 16777215 104) ∨ toRat? x = some (dyadic 16777215 104) :=
  isFloatSentinel_iff toRat?_largestSingle.1 toRat?_largestSingle.2

/-- No finite number is past the largest one. -/
theorem abs_le_largestDouble {q : ℚ} (h : toRat? x = some q) : |q| ≤ dyadic 9007199254740991 971 := by
  change Binary.value? x = some q at h
  rw [Binary.value?] at h
  cases hunpack : x.toModel.unpack with
  | notANumber => rw [hunpack] at h; cases h
  | infinity sign => rw [hunpack] at h; cases h
  | zero sign =>
    rw [hunpack] at h
    obtain rfl : 0 = q := Option.some_inj.1 h
    rw [abs_zero, dyadic_eq]
    positivity
  | finite sign m e hm =>
    rw [hunpack] at h
    obtain rfl := Option.some_inj.1 h
    have hcanonical := Binary.canonical_unpack x.toModel
    rw [hunpack] at hcanonical
    have hbits : (m : ℚ) ≤ 9007199254740991 := by exact_mod_cast Nat.le_sub_one_of_lt hcanonical.1
    have hpow : (2 : ℚ) ^ e ≤ 2 ^ (971 : Int) := zpow_le_zpow_right₀ one_le_two (Binary.exponent_le hunpack)
    have habs : |dyadic (sign.apply m) e| = m * 2 ^ e := by
      cases sign with
      | negative => rw [Binary.dyadic_negative, abs_neg, abs_of_pos (Binary.magnitude_pos e hm)]
      | positive => rw [Binary.dyadic_positive, abs_of_pos (Binary.magnitude_pos e hm)]
    rw [habs, dyadic_eq, Int.cast_ofNat]
    exact mul_le_mul hbits hpow (by positivity) (by norm_num)

theorem middle_lt_largestSingle : dyadic 33554429 103 < dyadic 16777215 104 := by
  rw [dyadic_eq, dyadic_eq]
  norm_num

theorem largestSingle_le_largestDouble : dyadic 16777215 104 ≤ dyadic 9007199254740991 971 :=
  (le_abs_self _).trans (abs_le_largestDouble toRat?_largestSingle.1)

theorem isSentinel_double_ofCanonical (x : Float) : (double (α := Float)).isSentinel (double.ofCanonical x) = true ↔
    isNaN x = true ∨ IsBeyond (-dyadic 9007199254740991 971) (dyadic 9007199254740991 971) x := by
  change isFloatSentinel largestDouble (saturate x) = true ↔ _
  cases hvalue : toRat? x with
  | some q =>
    have hfinite : isFinite x = true := Option.isSome_iff_exists.2 ⟨q, hvalue⟩
    obtain ⟨hlower, hupper⟩ := abs_le.1 (abs_le_largestDouble hvalue)
    rw [saturate_of_isFinite hfinite, isDoubleSentinel_iff, hvalue, isNaN_of_toRat? hvalue, isBeyond_of_toRat? hvalue]
    simp only [reduceCtorEq, Bool.false_eq_true, false_or, Option.some_inj]
    exact or_congr ⟨le_of_eq, fun h => le_antisymm h hlower⟩ ⟨ge_of_eq, fun h => le_antisymm hupper h⟩
  | none =>
    have hinfinite : isInfinite x = !isNaN x := by rw [isInfinite, isFinite, hvalue]; rfl
    rw [saturate, hinfinite, IsBeyond, rank, hvalue]
    cases hnan : isNaN x with
    | true => simp [isFloatSentinel, isFinite, hvalue]
    | false =>
      have hlow : isFloatSentinel largestDouble (-largestDouble : Float) = true :=
        isDoubleSentinel_iff.2 (.inr (.inl toRat?_largestDouble.2))
      have hhigh : isFloatSentinel largestDouble (largestDouble : Float) = true :=
        isDoubleSentinel_iff.2 (.inr (.inr toRat?_largestDouble.1))
      by_cases hneg : x < 0 <;> simp [hneg, hlow, hhigh]

/-- What single precision holds of a number within its limits. -/
theorem toRat?_toSingle {q : ℚ} (h : toRat? x = some q) (hq : |q| ≤ dyadic 16777215 104) :
    toRat? (toSingle x) = some (BinaryFormat.single.nearest q) := by
  obtain ⟨hlower, hupper⟩ := abs_le.1 hq
  have hnotLess : ¬ x < -largestSingle := by
    rw [lt_iff_of_toRat? h toRat?_largestSingle.2, not_lt]
    exact hlower
  have hnotMore : ¬ largestSingle < x := by
    rw [lt_iff_of_toRat? toRat?_largestSingle.1 h, not_lt]
    exact hupper
  rw [toSingle, if_neg hnotLess, if_neg hnotMore, h]
  dsimp only
  split
  · next hzero =>
    rw [hzero]
    exact Binary.value?_mul_zero (Option.isSome_iff_exists.2 ⟨q, h⟩)
  · next hne =>
    refine Binary.value?_nearestTo_nearest_single ?_ hne
    rw [dyadic_eq] at hq
    exact_mod_cast hq

theorem isSentinel_float_ofCanonical (x : Float) : (float (α := Float)).isSentinel (float.ofCanonical x) = true ↔
    isNaN x = true ∨ rank x < ((-dyadic 33554429 103 : ℚ) : WithTop ℚ) ∨
      ((dyadic 33554429 103 : ℚ) : WithTop ℚ) < rank x := by
  change isFloatSentinel largestSingle (toSingle x) = true ↔ _
  cases hnan : isNaN x with
  | true =>
    have hvalue : toRat? x = none := toRat?_of_isNaN hnan
    have hsame : toSingle x = x := by
      rw [toSingle, if_neg fun h => by simp [(isNaN_of_lt h).1] at hnan,
        if_neg fun h => by simp [(isNaN_of_lt h).2] at hnan, hvalue]
    simp [hsame, isFloatSentinel, isFinite, hvalue]
  | false =>
    have hlower := lt_iff_rank_lt hnan (isNaN_of_toRat? toRat?_largestSingle.2)
    have hupper := lt_iff_rank_lt (isNaN_of_toRat? toRat?_largestSingle.1) hnan
    rw [rank_of_toRat? toRat?_largestSingle.2] at hlower
    rw [rank_of_toRat? toRat?_largestSingle.1] at hupper
    -- past a limit the number is clamped to it, which is past the middle as well; between the limits it is rounded
    by_cases hless : x < -largestSingle
    · rw [toSingle, if_pos hless]
      have hsentinel := isSingleSentinel_iff.2 (.inr (.inl toRat?_largestSingle.2))
      refine iff_of_true hsentinel (.inr (.inl ((hlower.1 hless).trans ?_)))
      exact WithBot.coe_lt_coe.2 (WithTop.coe_lt_coe.2 (neg_lt_neg middle_lt_largestSingle))
    by_cases hmore : largestSingle < x
    · rw [toSingle, if_neg hless, if_pos hmore]
      have hsentinel := isSingleSentinel_iff.2 (.inr (.inr toRat?_largestSingle.1))
      refine iff_of_true hsentinel (.inr (.inr (lt_trans ?_ (hupper.1 hmore))))
      exact WithBot.coe_lt_coe.2 (WithTop.coe_lt_coe.2 middle_lt_largestSingle)
    · have hfinite : isFinite x = true :=
        isFinite_of_between hnan (Option.isSome_iff_exists.2 ⟨_, toRat?_largestSingle.2⟩)
          (Option.isSome_iff_exists.2 ⟨_, toRat?_largestSingle.1⟩) hless hmore
      obtain ⟨q, hvalue⟩ := Option.isSome_iff_exists.1 hfinite
      rw [lt_iff_of_toRat? hvalue toRat?_largestSingle.2, not_lt] at hless
      rw [lt_iff_of_toRat? toRat?_largestSingle.1 hvalue, not_lt] at hmore
      have hq : |q| ≤ dyadic 16777215 104 := abs_le.2 ⟨hless, hmore⟩
      rw [isSingleSentinel_iff, toRat?_toSingle hvalue hq, rank_of_toRat? hvalue]
      simp only [reduceCtorEq, Bool.false_eq_true, false_or, Option.some_inj, WithBot.coe_lt_coe, WithTop.coe_lt_coe]
      exact BinaryFormat.nearest_single_eq_limit_iff hq

/-! ### Whole numbers -/

theorem isSentinel_int32_ofCanonical (x : Float) : (int32 (α := Float)).isSentinel (int32.ofCanonical x) = true ↔
    IsBeyond (Int32.minValue.toInt + 1 / 2) (Int32.maxValue.toInt - 1 / 2) x := by
  refine Iff.trans ?_ (roundHalfAway_eq_limit_iff (by decide) (by decide) x)
  rw [← toInt_int32_ofCanonical, Int32.toInt_inj, Int32.toInt_inj]
  exact (Bool.or_eq_true _ _).to_iff.trans (or_congr beq_iff_eq beq_iff_eq)

theorem isSentinel_int64_ofCanonical (x : Float) : (int64 (α := Float)).isSentinel (int64.ofCanonical x) = true ↔
    IsBeyond (Int64.minValue.toInt + 1 / 2) (Int64.maxValue.toInt - 1 / 2) x := by
  refine Iff.trans ?_ (roundHalfAway_eq_limit_iff (by decide) (by decide) x)
  rw [← toInt_int64_ofCanonical, Int64.toInt_inj, Int64.toInt_inj]
  exact (Bool.or_eq_true _ _).to_iff.trans (or_congr beq_iff_eq beq_iff_eq)

theorem isSentinel_date_ofCanonical (x : Float) : (date (α := Float)).isSentinel (date.ofCanonical x) = true ↔
    IsBeyond (minDateTicks + 1 / 2) (maxDateTicks - 1 / 2) x := by
  have hplace : ∀ n, minDateTicks ≤ n → n ≤ maxDateTicks →
      ((date.ofCanonical x == Date.ofTicks n) = true ↔ toIntWithin roundHalfAway minDateTicks maxDateTicks x = n) := by
    intro n hmin hmax
    rw [Date.beq_ofTicks_iff (v := date.ofCanonical x) (Date.isSubsecond_ofTicks _) hmin hmax,
      totalNanos_date_ofCanonical]
    exact Int.mul_eq_mul_left_iff (by decide)
  refine Iff.trans ?_ (roundHalfAway_eq_limit_iff (by decide) (by decide) x)
  rw [← hplace _ le_rfl (by decide), ← hplace _ (by decide) le_rfl]
  exact (Bool.or_eq_true _ _).to_iff

theorem isSentinel_timeSpan_ofCanonical (x : Float) :
    (timeSpan (α := Float)).isSentinel (timeSpan.ofCanonical x) = true ↔
      IsBeyond (Int64.minValue.toInt + 1 / 2) (Int64.maxValue.toInt - 1 / 2) x := by
  have hplace : ∀ n, Int64.minValue.toInt ≤ n → n ≤ Int64.maxValue.toInt →
      ((timeSpan.ofCanonical x == TimeSpan.ofTicks n) = true ↔
        toIntWithin roundHalfAway Int64.minValue.toInt Int64.maxValue.toInt x = n) := by
    intro n hmin hmax
    rw [TimeSpan.beq_ofTicks_iff (v := timeSpan.ofCanonical x) (TimeSpan.isSubsecond_ofTicks _) hmin hmax,
      totalNanos_timeSpan_ofCanonical]
    exact Int.mul_eq_mul_left_iff (by decide)
  refine Iff.trans ?_ (roundHalfAway_eq_limit_iff (by decide) (by decide) x)
  rw [← hplace _ le_rfl (by decide), ← hplace _ (by decide) le_rfl]
  exact (Bool.or_eq_true _ _).to_iff

end Domain

namespace IndexRange

theorem isUnset_truncateIndex_iff (x : Float) : truncateIndex x = Int32.minValue ∨ truncateIndex x = Int32.maxValue ↔
    IsBeyond Int32.minValue.toInt Int32.maxValue.toInt x := by
  have hlo : Int32.minValue.toInt < 0 := by decide
  have hhi : 0 < Int32.maxValue.toInt := by decide
  rw [← toIntWithin_eq_limit_iff hlo hhi (truncate_le_iff hlo) (le_truncate_iff hhi), ← toInt_truncateIndex,
    Int32.toInt_inj, Int32.toInt_inj]

theorem isDefined_eq_false_iff {r : IndexRange Float} : r.isDefined = false ↔
    (r.min = Int32.minValue ∨ r.min = Int32.maxValue) ∨ r.max = Int32.minValue ∨ r.max = Int32.maxValue := by
  simp [isDefined]
  tauto

theorem isDefined_ofPrecise_iff (x y : Float) : (ofPrecise x y).isDefined = false ↔
    IsBeyond Int32.minValue.toInt Int32.maxValue.toInt x ∨ IsBeyond Int32.minValue.toInt Int32.maxValue.toInt y := by
  rw [isDefined_eq_false_iff, ← isUnset_truncateIndex_iff, ← isUnset_truncateIndex_iff, ofPrecise]
  by_cases hinverted : y < x
  · rw [if_pos hinverted]
    exact or_comm
  · rw [if_neg hinverted]

end IndexRange

namespace Interval

variable {V : Type} {d : Domain Float V}

theorem isDefined_eq_false_iff {r : Interval d} :
    r.isDefined = false ↔ d.isSentinel r.min = true ∨ d.isSentinel r.max = true := by
  simp [isDefined, or_iff_not_imp_left]

theorem isDefined_ofCanonical_iff {P : Float → Prop} (h : ∀ x, d.isSentinel (d.ofCanonical x) = true ↔ P x)
    (x y : Float) : (ofCanonical x y : Interval d).isDefined = false ↔ P x ∨ P y := by
  rw [isDefined_eq_false_iff, ← h, ← h, ofCanonical, new]
  split
  · exact or_comm
  · exact Iff.rfl

end Interval

/-! ### Ranges of any kind -/

namespace RangeKind

/-- The numbers that come out as a bound that is not set: at the limits of the kind or past them, and at NaN where the
kind has such a value. Which numbers they are for decimals depends on their format; they are left out. -/
def Unsets (kind : RangeKind) (x : Float) : Prop :=
  match kind with
  | .double => isNaN x = true ∨ IsBeyond (-dyadic 9007199254740991 971) (dyadic 9007199254740991 971) x
  | .float =>
    isNaN x = true ∨ rank x < ((-dyadic 33554429 103 : ℚ) : WithTop ℚ) ∨
      ((dyadic 33554429 103 : ℚ) : WithTop ℚ) < rank x
  | .int32 => IsBeyond (Int32.minValue.toInt + 1 / 2) (Int32.maxValue.toInt - 1 / 2) x
  | .int64 | .timeSpan => IsBeyond (Int64.minValue.toInt + 1 / 2) (Int64.maxValue.toInt - 1 / 2) x
  | .decimal => False
  | .date => IsBeyond (minDateTicks + 1 / 2) (maxDateTicks - 1 / 2) x
  | .index => IsBeyond Int32.minValue.toInt Int32.maxValue.toInt x

instance (kind : RangeKind) (x : Float) : Decidable (kind.Unsets x) :=
  match kind with
  | .double => inferInstanceAs (Decidable (_ ∨ IsBeyond _ _ _))
  | .float => inferInstanceAs (Decidable (_ ∨ _ ∨ _))
  | .int32 | .int64 | .timeSpan | .date | .index => inferInstanceAs (Decidable (IsBeyond _ _ _))
  | .decimal => inferInstanceAs (Decidable False)

/-- The kinds, decimals apart, in which every range of a kind that is not defined stays so. -/
def keepUnset : RangeKind → List RangeKind
  | .double => [.double, .float]
  | .float => [.float]
  | .decimal => []
  | .int32 | .index => [.int32, .index]
  | .date => [.date, .int32, .index]
  | .int64 | .timeSpan => [.int64, .timeSpan, .date, .int32, .index]

instance : LawfulBEq RangeKind where
  eq_of_beq {j k} h := by cases j <;> cases k <;> first | rfl | cases h
  rfl {kind} := by cases kind <;> rfl

theorem mem_all (kind : RangeKind) : kind ∈ all := by
  cases kind <;> decide

theorem mem_keepUnset {kind : RangeKind} (hkind : kind ≠ .decimal) : kind ∈ kind.keepUnset := by
  cases kind with
  | decimal => exact absurd rfl hkind
  | double | float | int32 | int64 | date | timeSpan | index => decide

end RangeKind

namespace Range

open RangeKind

variable [Decimals Float] {kind : RangeKind}

theorem isDefined_ofCanonical_iff (hkind : kind ≠ .decimal) (x y : Float) :
    (ofCanonical kind x y).isDefined = false ↔ kind.Unsets x ∨ kind.Unsets y := by
  cases kind with
  | double => exact Interval.isDefined_ofCanonical_iff Domain.isSentinel_double_ofCanonical x y
  | float => exact Interval.isDefined_ofCanonical_iff Domain.isSentinel_float_ofCanonical x y
  | int32 => exact Interval.isDefined_ofCanonical_iff Domain.isSentinel_int32_ofCanonical x y
  | int64 => exact Interval.isDefined_ofCanonical_iff Domain.isSentinel_int64_ofCanonical x y
  | decimal => exact absurd rfl hkind
  | date => exact Interval.isDefined_ofCanonical_iff Domain.isSentinel_date_ofCanonical x y
  | timeSpan => exact Interval.isDefined_ofCanonical_iff Domain.isSentinel_timeSpan_ofCanonical x y
  | index => exact IndexRange.isDefined_ofPrecise_iff x y

theorem isDefined_convert_iff {r : Range Float} (hkind : kind ≠ .decimal) (h : r.kind ≠ kind) :
    (r.convert kind).isDefined = false ↔ kind.Unsets r.preciseBounds.1 ∨ kind.Unsets r.preciseBounds.2 := by
  rw [convert_of_ne h, isDefined_ofCanonical_iff hkind]

end Range

/-! ### Marks in other kinds -/

namespace Domain

open RangeKind

variable {x : Float}

theorem rank_of_toRat?_none (h : toRat? x = none) : rank x = ⊥ ∨ rank x = (⊤ : WithTop ℚ) := by
  rw [rank, h]
  by_cases hneg : x < 0 <;> simp [hneg]

/-- A mark of a floating point format stands at the largest number of the format or further out. -/
theorem rank_of_isFloatSentinel {largest x : Float} {limit : ℚ} (hlargest : toRat? largest = some limit)
    (hneg : toRat? (-largest) = some (-limit)) (h : isFloatSentinel largest x = true) :
    rank x ≤ ((-limit : ℚ) : WithTop ℚ) ∨ (limit : WithTop ℚ) ≤ rank x := by
  rcases (isFloatSentinel_iff hlargest hneg).1 h with hnone | hlow | hhigh
  · rcases rank_of_toRat?_none hnone with hbot | htop
    · exact .inl (hbot ▸ bot_le)
    · exact .inr (htop ▸ WithBot.coe_le_coe.2 le_top)
  · exact .inl (rank_of_toRat? hlow).le
  · exact .inr (rank_of_toRat? hhigh).ge

theorem unsets_float_of_rank {limit : ℚ} (hlimit : dyadic 16777215 104 ≤ limit)
    (h : rank x ≤ ((-limit : ℚ) : WithTop ℚ) ∨ (limit : WithTop ℚ) ≤ rank x) : RangeKind.float.Unsets x := by
  have hmiddle := middle_lt_largestSingle.trans_le hlimit
  rcases h with hle | hle
  · exact .inr (.inl (hle.trans_lt (WithBot.coe_lt_coe.2 (WithTop.coe_lt_coe.2 (neg_lt_neg hmiddle)))))
  · exact .inr (.inr (lt_of_lt_of_le (WithBot.coe_lt_coe.2 (WithTop.coe_lt_coe.2 hmiddle)) hle))

theorem unsets_of_sentinel_double (h : (double (α := Float)).isSentinel x = true) :
    ∀ k ∈ RangeKind.double.keepUnset, k.Unsets x := by
  have hrank := rank_of_isFloatSentinel toRat?_largestDouble.1 toRat?_largestDouble.2 h
  have hdouble : RangeKind.double.Unsets x := by
    cases hnan : isNaN x with
    | true => exact .inl hnan
    | false => exact .inr ⟨hnan, hrank⟩
  have hfloat : RangeKind.float.Unsets x := unsets_float_of_rank largestSingle_le_largestDouble hrank
  simpa [keepUnset] using ⟨hdouble, hfloat⟩

theorem unsets_of_sentinel_float (h : (float (α := Float)).isSentinel x = true) :
    ∀ k ∈ RangeKind.float.keepUnset, k.Unsets x := by
  have hfloat : RangeKind.float.Unsets x :=
    unsets_float_of_rank le_rfl (rank_of_isFloatSentinel toRat?_largestSingle.1 toRat?_largestSingle.2 h)
  simpa [keepUnset] using hfloat

/-- Both limits of a domain come out as bounds that are not set in every kind that keeps them. -/
def KeepsLimits {V : Type} (d : Domain Float V) : Prop :=
  ∀ k ∈ d.kind.keepUnset, ∀ v ∈ [d.lowest, d.highest], k.Unsets (d.toCanonical v)

instance {V : Type} (d : Domain Float V) : Decidable d.KeepsLimits := inferInstanceAs (Decidable (∀ k ∈ _, ∀ v ∈ _, _))

theorem keepsLimits : (int32 (α := Float)).KeepsLimits ∧ (int64 (α := Float)).KeepsLimits ∧
    (date (α := Float)).KeepsLimits ∧ (timeSpan (α := Float)).KeepsLimits := by
  decide +kernel

theorem KeepsLimits.unsets {V : Type} {d : Domain Float V} (hkeep : d.KeepsLimits) {v : V}
    (h : v = d.lowest ∨ v = d.highest) : ∀ k ∈ d.kind.keepUnset, k.Unsets (d.toCanonical v) := fun k hk =>
  hkeep k hk v (by simpa using h)

theorem unsets_of_sentinel_int32 {n : Int32} (h : (int32 (α := Float)).isSentinel n = true) :
    ∀ k ∈ RangeKind.int32.keepUnset, k.Unsets ((int32 (α := Float)).toCanonical n) :=
  keepsLimits.1.unsets (((Bool.or_eq_true _ _).to_iff.1 h).imp beq_iff_eq.1 beq_iff_eq.1)

theorem unsets_of_sentinel_int64 {n : Int64} (h : (int64 (α := Float)).isSentinel n = true) :
    ∀ k ∈ RangeKind.int64.keepUnset, k.Unsets ((int64 (α := Float)).toCanonical n) :=
  keepsLimits.2.1.unsets (((Bool.or_eq_true _ _).to_iff.1 h).imp beq_iff_eq.1 beq_iff_eq.1)

theorem unsets_of_sentinel_date {v : Date} (h : (date (α := Float)).isSentinel v = true) :
    ∀ k ∈ RangeKind.date.keepUnset, k.Unsets ((date (α := Float)).toCanonical v) := by
  have heq : ∀ w : Date, (v == w) = true → v = w := fun w hw => Date.ext_iff.2 (Date.beq_iff.1 hw)
  exact keepsLimits.2.2.1.unsets (((Bool.or_eq_true _ _).to_iff.1 h).imp (heq _) (heq _))

theorem unsets_of_sentinel_timeSpan {v : TimeSpan} (h : (timeSpan (α := Float)).isSentinel v = true) :
    ∀ k ∈ RangeKind.timeSpan.keepUnset, k.Unsets ((timeSpan (α := Float)).toCanonical v) := by
  have heq : ∀ w : TimeSpan, (v == w) = true → v = w := fun w hw => TimeSpan.ext_iff.2 (TimeSpan.beq_iff.1 hw)
  exact keepsLimits.2.2.2.unsets (((Bool.or_eq_true _ _).to_iff.1 h).imp (heq _) (heq _))

end Domain

/-- Cutting off gets to a limit later than rounding does. -/
theorem IndexRange.unsets_of_isBeyond {x : Float} (h : IsBeyond Int32.minValue.toInt Int32.maxValue.toInt x) :
    ∀ k ∈ RangeKind.index.keepUnset, k.Unsets x := by
  have hint32 : RangeKind.int32.Unsets x := by
    refine ⟨h.1, h.2.imp (fun hle => hle.trans ?_) fun hle => le_trans ?_ hle⟩
    · exact WithBot.coe_le_coe.2 (WithTop.coe_le_coe.2 (by linarith))
    · exact WithBot.coe_le_coe.2 (WithTop.coe_le_coe.2 (by linarith))
  have hindex : RangeKind.index.Unsets x := h
  simpa [RangeKind.keepUnset] using ⟨hint32, hindex⟩

namespace Range

open RangeKind

theorem unsets_of_wrap {V : Type} {d : Domain Float V} {kinds : List RangeKind}
    (hmarks : ∀ v : V, d.isSentinel v = true → ∀ k ∈ kinds, k.Unsets (d.toCanonical v)) {v : Interval d}
    (hv : v.isDefined = false) :
    ∀ k ∈ kinds, k.Unsets (d.toCanonical v.min) ∨ k.Unsets (d.toCanonical v.max) := fun k hk =>
  (Interval.isDefined_eq_false_iff.1 hv).imp (fun h => hmarks _ h k hk) fun h => hmarks _ h k hk

variable [Decimals Float]

theorem unsets_of_not_defined {r : Range Float} (hmade : r.Made) (hr : r.isDefined = false) :
    ∀ k ∈ r.kind.keepUnset, k.Unsets r.preciseBounds.1 ∨ k.Unsets r.preciseBounds.2 := by
  cases r with
  | double v => exact unsets_of_wrap (fun _ => Domain.unsets_of_sentinel_double) hr
  | float v => exact unsets_of_wrap (fun _ => Domain.unsets_of_sentinel_float) hr
  | int32 v => exact unsets_of_wrap (fun _ => Domain.unsets_of_sentinel_int32) hr
  | int64 v => exact unsets_of_wrap (fun _ => Domain.unsets_of_sentinel_int64) hr
  | decimal v => exact fun _ hk => absurd hk List.not_mem_nil
  | date v => exact unsets_of_wrap (fun _ => Domain.unsets_of_sentinel_date) hr
  | timeSpan v => exact unsets_of_wrap (fun _ => Domain.unsets_of_sentinel_timeSpan) hr
  | index v =>
    -- a conversion starts from the shadows, and the marks are whole bounds: being made ties the two together
    obtain ⟨hlower, hupper, -⟩ := hmade.settled
    have hbounds := IndexRange.isDefined_eq_false_iff.1 hr
    rw [hlower, hupper, IndexRange.isUnset_truncateIndex_iff, IndexRange.isUnset_truncateIndex_iff] at hbounds
    exact fun k hk => hbounds.imp (fun h => IndexRange.unsets_of_isBeyond h k hk)
      fun h => IndexRange.unsets_of_isBeyond h k hk

theorem convert_stays_unset {r : Range Float} {kind : RangeKind} (hmade : r.Made) (hr : r.isDefined = false)
    (hdecimal : kind ≠ .decimal) (hkind : kind ∈ r.kind.keepUnset) : (r.convert kind).isDefined = false := by
  by_cases hsame : r.kind = kind
  · rw [← hsame, convert_kind]
    exact hr
  · exact (isDefined_convert_iff hdecimal hsame).2 (unsets_of_not_defined hmade hr kind hkind)

/-- Joining asks the converted range. -/
theorem union_of_not_defined {d u : Range Float} (h : (u.convert d.kind).isDefined = false) : d.union u = d := by
  have hinterval : ∀ {V : Type} {dom : Domain Float V} {v w : Interval dom}, w.isDefined = false → v.union w = v :=
    fun hw => if_pos (by rw [hw]; rfl)
  have hindex : ∀ {v w : IndexRange Float}, w.isDefined = false → v.union w = v := fun hw => if_pos (by rw [hw]; rfl)
  cases d with
  | index v => exact congrArg index (hindex h)
  | double v => exact congrArg double (hinterval h)
  | float v => exact congrArg float (hinterval h)
  | int32 v => exact congrArg int32 (hinterval h)
  | int64 v => exact congrArg int64 (hinterval h)
  | decimal v => exact congrArg decimal (hinterval h)
  | date v => exact congrArg date (hinterval h)
  | timeSpan v => exact congrArg timeSpan (hinterval h)

end Range

/-! ### Marks that are lost -/

/-- Between two numbers the domain has a range that is defined, and joining it to the one from 1 to 2 widens this. -/
def Domain.Widens {V : Type} (d : Domain Float V) (bounds : Float × Float) : Prop :=
  let v : Interval d := .ofCanonical 1 2
  let w : Interval d := .ofCanonical bounds.1 bounds.2
  v.isDefined = true ∧ w.isDefined = true ∧ (v.union w).eq v = false ∧ v.eq v = true

instance {V : Type} (d : Domain Float V) (bounds : Float × Float) : Decidable (d.Widens bounds) :=
  inferInstanceAs (Decidable (_ ∧ _))

/-- Likewise for index ranges. -/
def IndexRange.Widens (bounds : Float × Float) : Prop :=
  let v : IndexRange Float := ofPrecise 1 2
  let w : IndexRange Float := ofPrecise bounds.1 bounds.2
  v.isDefined = true ∧ w.isDefined = true ∧ (v.union w).eq v = false ∧ v.eq v = true

instance (bounds : Float × Float) : Decidable (IndexRange.Widens bounds) := inferInstanceAs (Decidable (_ ∧ _))

namespace RangeKind

def Widens (kind : RangeKind) (bounds : Float × Float) : Prop :=
  match kind with
  | .double => Domain.double.Widens bounds
  | .float => Domain.float.Widens bounds
  | .int32 => Domain.int32.Widens bounds
  | .int64 => Domain.int64.Widens bounds
  | .decimal => False
  | .date => Domain.date.Widens bounds
  | .timeSpan => Domain.timeSpan.Widens bounds
  | .index => IndexRange.Widens bounds

instance (kind : RangeKind) (bounds : Float × Float) : Decidable (kind.Widens bounds) :=
  match kind with
  | .double | .float | .int32 | .int64 | .date | .timeSpan => inferInstanceAs (Decidable (Domain.Widens _ _))
  | .decimal => inferInstanceAs (Decidable False)
  | .index => inferInstanceAs (Decidable (IndexRange.Widens _))

end RangeKind

/-- An interval that is not defined and becomes so in another kind: limits that the other kind reaches beyond, or NaN,
which it takes for zero. -/
def Domain.lost {V : Type} (d : Domain Float V) (other : RangeKind) : Interval d :=
  if d.kind.isIntegral || !other.isIntegral then .undefined else .ofCanonical (0 / 0) 5

def Domain.LosesIn {V : Type} (d : Domain Float V) (other : RangeKind) : Prop :=
  (d.lost other).isDefined = false ∧ other.Widens ((d.lost other).canonicalMin, (d.lost other).canonicalMax)

instance {V : Type} (d : Domain Float V) (other : RangeKind) : Decidable (d.LosesIn other) :=
  inferInstanceAs (Decidable (_ ∧ _))

def IndexRange.LosesIn (other : RangeKind) : Prop :=
  let v : IndexRange Float := undefined
  v.isDefined = false ∧ other.Widens (v.minShadow, v.maxShadow)

instance (other : RangeKind) : Decidable (IndexRange.LosesIn other) := inferInstanceAs (Decidable (_ ∧ _))

namespace RangeKind

def LosesIn (kind other : RangeKind) : Prop :=
  match kind with
  | .double => Domain.double.LosesIn other
  | .float => Domain.float.LosesIn other
  | .int32 => Domain.int32.LosesIn other
  | .int64 => Domain.int64.LosesIn other
  | .decimal => False
  | .date => Domain.date.LosesIn other
  | .timeSpan => Domain.timeSpan.LosesIn other
  | .index => IndexRange.LosesIn other

instance (kind other : RangeKind) : Decidable (kind.LosesIn other) :=
  match kind with
  | .double | .float | .int32 | .int64 | .date | .timeSpan => inferInstanceAs (Decidable (Domain.LosesIn _ _))
  | .decimal => inferInstanceAs (Decidable False)
  | .index => inferInstanceAs (Decidable (IndexRange.LosesIn _))

theorem losesIn_of_not_mem : ∀ j ∈ all, ∀ k ∈ all, j ≠ .decimal → k ≠ .decimal → k ∉ j.keepUnset → j.LosesIn k := by
  decide +kernel

end RangeKind

namespace Range

open RangeKind

section

variable [Decimals Float]

theorem union_convert (d u : Range Float) : d.union (u.convert d.kind) = d.union u := by
  cases d <;> rfl

theorem kind_ofCanonical (kind : RangeKind) (x y : Float) : (ofCanonical kind x y).kind = kind := by
  cases kind <;> rfl

theorem widens_ofCanonical {kind : RangeKind} {bounds : Float × Float} (h : kind.Widens bounds) :
    let v : Range Float := ofCanonical kind 1 2
    let w : Range Float := ofCanonical kind bounds.1 bounds.2
    v.isDefined = true ∧ w.isDefined = true ∧ (v.union w).eq v = false ∧ v.eq v = true := by
  cases kind with
  | decimal => exact h.elim
  | double | float | int32 | int64 | date | timeSpan | index =>
    obtain ⟨hdefined, hconverted, hwider, hself⟩ := h
    exact ⟨hdefined, hconverted, hwider, hself⟩

theorem lost_of_widens {kind : RangeKind} {u : Range Float} (hkind : u.kind ≠ kind) (h : kind.Widens u.preciseBounds) :
    let v : Range Float := ofCanonical kind 1 2
    v.isDefined = true ∧ (u.convert kind).isDefined = true ∧ v.union u ≠ v := by
  intro v
  have hconvert := convert_of_ne hkind
  obtain ⟨hdefined, hconverted, hwider, hself⟩ := widens_ofCanonical h
  refine ⟨hdefined, hconvert ▸ hconverted, fun hsame => ?_⟩
  rw [← union_convert, kind_ofCanonical, hconvert] at hsame
  rw [hsame, hself] at hwider
  cases hwider

def lostMark (kind other : RangeKind) : Range Float :=
  match kind with
  | .double => double (Domain.double.lost other)
  | .float => float (Domain.float.lost other)
  | kind => undefined kind

theorem made_lostMark (kind other : RangeKind) : (lostMark kind other).Made := by
  cases kind with
  | double =>
    rw [lostMark, Domain.lost]
    split
    · exact .undefined .double
    · exact .ofCanonical .double _ _
  | float =>
    rw [lostMark, Domain.lost]
    split
    · exact .undefined .float
    · exact .ofCanonical .float _ _
  | int32 => exact .undefined .int32
  | int64 => exact .undefined .int64
  | decimal => exact .undefined .decimal
  | date => exact .undefined .date
  | timeSpan => exact .undefined .timeSpan
  | index => exact .undefined .index

theorem lostMark_spec {j k : RangeKind} (h : j.LosesIn k) : (lostMark j k).kind = j ∧
    (lostMark j k).isDefined = false ∧ k.Widens (lostMark j k).preciseBounds := by
  cases j with
  | decimal => exact h.elim
  | double | float | int32 | int64 | date | timeSpan | index => exact ⟨rfl, h⟩

/-- Converting a range finds it defined unless a bound is at the limits of the new kind or past them, whatever the old
kind makes of the bound; and joining leaves a range as it is if the other one, converted, is not defined. So a range
that is not defined stays so, and adds nothing to another one, between the kinds of `keepUnset` and between no
others. -/
theorem keeps_unset_by_kind {j k : RangeKind} (hj : j ≠ .decimal) (hk : k ≠ .decimal) :
    (∀ r : Range Float, r.kind = j → j ≠ k →
      ((r.convert k).isDefined = false ↔ k.Unsets r.preciseBounds.1 ∨ k.Unsets r.preciseBounds.2)) ∧
    (∀ d u : Range Float, d.kind = k → u.kind = j → (u.convert k).isDefined = false → d.union u = d) ∧
    ((∀ r : Range Float, r.Made → r.kind = j → r.isDefined = false → (r.convert k).isDefined = false) ↔
      k ∈ j.keepUnset) ∧
    ((∀ d u : Range Float, d.Made → u.Made → d.kind = k → u.kind = j → d.isDefined → u.isDefined = false →
      d.union u = d) ↔ k ∈ j.keepUnset) := by
  have hlost (hkeep : k ∉ j.keepUnset) : (lostMark j k).kind = j ∧ (lostMark j k).isDefined = false ∧
      (lostMark j k).kind ≠ k ∧ k.Widens (lostMark j k).preciseBounds := by
    obtain ⟨hkind, hunset, hwidens⟩ := lostMark_spec (losesIn_of_not_mem j (mem_all j) k (mem_all k) hj hk hkeep)
    refine ⟨hkind, hunset, ?_, hwidens⟩
    rw [hkind]
    rintro rfl
    exact hkeep (mem_keepUnset hj)
  refine ⟨?_, ?_, ⟨?_, ?_⟩, ?_, ?_⟩
  · rintro r rfl hkind
    exact isDefined_convert_iff hk hkind
  · rintro d u rfl rfl hu
    exact union_of_not_defined hu
  · intro hall
    by_contra hkeep
    obtain ⟨hkind, hunset, hne, hwidens⟩ := hlost hkeep
    obtain ⟨-, hset, -⟩ := lost_of_widens hne hwidens
    rw [hall _ (made_lostMark j k) hkind hunset] at hset
    cases hset
  · rintro hkeep r hmade rfl hr
    exact convert_stays_unset hmade hr hk hkeep
  · intro hall
    by_contra hkeep
    obtain ⟨hkind, hunset, hne, hwidens⟩ := hlost hkeep
    obtain ⟨hdefined, -, hchanged⟩ := lost_of_widens hne hwidens
    exact hchanged
      (hall _ _ (.ofCanonical k 1 2) (made_lostMark j k) (kind_ofCanonical k 1 2) hkind hdefined hunset)
  · rintro hkeep d u - hmade rfl rfl - hu
    exact union_of_not_defined (convert_stays_unset hmade hu hk hkeep)

end

/-- As a range of dates, 64-bit bounds that are not set are not set either. -/
theorem keeps_unset_by_kind_date :
    let u : Range Float := undefined .int64
    let d : Range Float := ofCanonical .date 0 864000000000
    u.isDefined = false ∧ d.isDefined ∧ (u.convert .date).isDefined = false ∧ d.union u = d := by
  intro u d
  have hu : u.isDefined = false := by decide +kernel
  have hd : d.isDefined := by decide +kernel
  obtain ⟨-, -, hconvert, hunion⟩ :=
    keeps_unset_by_kind (j := .int64) (k := .date) (by decide) (by decide)
  exact ⟨hu, hd, hconvert.2 (by decide) u (.undefined .int64) rfl hu,
    hunion.2 (by decide) d u (.ofCanonical .date _ _) (.undefined .int64) rfl rfl hd hu⟩

/-- As a range of doubles, 32-bit bounds that are not set are `[-2147483648, 2147483647]`, and joining takes them in. -/
theorem unset_int32_defined_as_double :
    let u : Range Float := undefined .int32
    let d : Range Float := ofCanonical .double 0 10
    let whole : Range Float := ofCanonical .double (-2147483648) 2147483647
    u.isDefined = false ∧ (u.convert .double).isDefined ∧ u.convert .double == whole ∧ d.isDefined ∧
      d.union u == whole ∧ d.union u ≠ d := by
  intro u d whole
  have hjoined : (d.union u == d) = false := by decide +kernel
  refine ⟨by decide +kernel, by decide +kernel, by decide +kernel, by decide +kernel, by decide +kernel, fun h => ?_⟩
  rw [h] at hjoined
  exact absurd hjoined (by decide +kernel)

end Range

end ChartGestures
