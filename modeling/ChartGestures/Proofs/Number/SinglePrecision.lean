import ChartGestures.Proofs.Number.Rounding
import ChartGestures.Range.Domain

/-!
# Rounding to single precision

A number of single precision is a whole number of up to 24 bits on a grid of powers of two. `BinaryFormat.nearest` finds
the grid from the leading bit of a number and takes the nearest point on it, a half to the even one. Here it is told
which numbers go to the largest of the format: those past the middle between it and the one before it, which is even.
-/

namespace ChartGestures

open Float.Model (Format UnpackedFloat)
open Float.Model.UnpackedFloat (Sign)

/-! ### A half to the even neighbour -/

theorem roundHalfEven_eq_iff {q : ℚ} {n : Int} :
    roundHalfEven q = n ↔ (n - 1 / 2 ≤ q ∧ q ≤ n + 1 / 2) ∧ (q = n + 1 / 2 ∨ q = n - 1 / 2 → n % 2 = 0) := by
  have hlow : (⌊q⌋ : ℚ) ≤ q := Int.floor_le q
  have hhigh : q < ⌊q⌋ + 1 := Int.lt_floor_add_one q
  change (let low := ⌊q⌋
    let rest := q - low
    if rest < 1 / 2 then low else if 1 / 2 < rest then low + 1 else if low % 2 = 0 then low else low + 1) = n ↔ _
  dsimp only
  constructor
  · rintro rfl
    split
    · refine ⟨⟨by linarith, by linarith⟩, ?_⟩
      rintro (h | h) <;> linarith
    · split
      · push_cast
        refine ⟨⟨by linarith, by linarith⟩, ?_⟩
        rintro (h | h) <;> linarith
      · split
        · next heven => exact ⟨⟨by linarith, by linarith⟩, fun _ => heven⟩
        · next hodd =>
          push_cast
          exact ⟨⟨by linarith, by linarith⟩, fun _ => by omega⟩
  · rintro ⟨⟨hlower, hupper⟩, htie⟩
    have hn : ⌊q⌋ = n ∨ ⌊q⌋ = n - 1 := by
      have hle : (⌊q⌋ : ℚ) < n + 1 := by linarith
      have hge : (n : ℚ) - 2 < ⌊q⌋ := by linarith
      have hle' : ⌊q⌋ < n + 1 := by exact_mod_cast hle
      have hge' : n - 2 < ⌊q⌋ := by exact_mod_cast hge
      omega
    rcases hn with hn | hn
    · rw [hn]
      split
      · rfl
      · next hhalf =>
        have heven := htie (.inl (by linarith))
        rw [if_neg (by linarith), if_pos heven]
    · rw [hn]
      push_cast
      split
      · next hhalf => linarith
      · split
        · omega
        · next hhalf =>
          have heven := htie (.inr (by linarith))
          rw [if_neg (by omega)]
          omega

theorem le_roundHalfEven {q : ℚ} {n : Int} (h : n ≤ q) : n ≤ roundHalfEven q := by
  obtain ⟨⟨-, hupper⟩, -⟩ := roundHalfEven_eq_iff.1 (rfl : roundHalfEven q = _)
  have hbelow : (n : ℚ) < roundHalfEven q + 1 := by linarith
  exact Int.lt_add_one_iff.1 (by exact_mod_cast hbelow)

theorem roundHalfEven_le {q : ℚ} {n : Int} (h : q ≤ n) : roundHalfEven q ≤ n := by
  obtain ⟨⟨hlower, -⟩, -⟩ := roundHalfEven_eq_iff.1 (rfl : roundHalfEven q = _)
  have habove : (roundHalfEven q : ℚ) < n + 1 := by linarith
  exact Int.lt_add_one_iff.1 (by exact_mod_cast habove)

/-- The tie below an odd number goes to the even one before it. -/
theorem roundHalfEven_eq_odd_iff {q : ℚ} {n : Int} (hodd : n % 2 = 1) (h : q ≤ n) :
    roundHalfEven q = n ↔ n - 1 / 2 < q := by
  rw [roundHalfEven_eq_iff]
  constructor
  · rintro ⟨⟨hlower, -⟩, htie⟩
    refine lt_of_le_of_ne hlower fun heq => ?_
    have heven := htie (.inr heq.symm)
    omega
  · intro hlower
    refine ⟨⟨hlower.le, by linarith⟩, ?_⟩
    rintro (heq | heq) <;> linarith

theorem roundHalfEven_neg (q : ℚ) : roundHalfEven (-q) = -roundHalfEven q := by
  obtain ⟨⟨hlower, hupper⟩, htie⟩ := roundHalfEven_eq_iff.1 (rfl : roundHalfEven q = _)
  rw [roundHalfEven_eq_iff]
  push_cast
  refine ⟨⟨by linarith, by linarith⟩, fun h => ?_⟩
  have heven := htie (h.symm.imp (fun h => by linarith) fun h => by linarith)
  omega

namespace BinaryFormat

variable {format : BinaryFormat} {q : ℚ}

/-- The exponent of the leading bit of a positive number. -/
def leadingExponent (q : ℚ) : Int :=
  let guess := (q.num.natAbs.log2 : Int) - q.den.log2
  if q < dyadic 1 guess then guess - 1 else guess

theorem gridExponent_eq (format : BinaryFormat) (q : ℚ) :
    format.gridExponent q = max format.leastExponent (leadingExponent q + 1 - format.precision) := rfl

theorem leadingExponent_bounds (hq : 0 < q) :
    (2 : ℚ) ^ leadingExponent q ≤ q ∧ q < 2 ^ (leadingExponent q + 1) := by
  obtain ⟨n, hn⟩ : ∃ n : Nat, n = q.num.natAbs := ⟨_, rfl⟩
  have hnum : 0 < n := hn ▸ Int.natAbs_pos.2 (Rat.num_pos.2 hq).ne'
  have hvalue : q * q.den = n := by
    rw [Rat.mul_den_eq_num, hn, Nat.cast_natAbs, abs_of_pos (Rat.num_pos.2 hq)]
  have hden : (0 : ℚ) < q.den := by exact_mod_cast q.den_pos
  have hnlow : (2 : ℚ) ^ (n.log2 : Int) ≤ n := by exact_mod_cast Nat.log2_self_le hnum.ne'
  have hnhigh : (n : ℚ) < 2 ^ ((n.log2 : Int) + 1) := by exact_mod_cast Nat.lt_log2_self (n := n)
  have hdlow : (2 : ℚ) ^ (q.den.log2 : Int) ≤ q.den := by exact_mod_cast Nat.log2_self_le q.den_pos.ne'
  have hdhigh : (q.den : ℚ) < 2 ^ ((q.den.log2 : Int) + 1) := by exact_mod_cast Nat.lt_log2_self (n := q.den)
  have hguess : leadingExponent q =
      if q < 2 ^ ((n.log2 : Int) - q.den.log2) then (n.log2 : Int) - q.den.log2 - 1 else n.log2 - q.den.log2 := by
    rw [leadingExponent, hn]
    simp only [dyadic_eq, Int.cast_one, one_mul]
  have hupper : q < 2 ^ ((n.log2 : Int) - q.den.log2 + 1) := by
    refine lt_of_mul_lt_mul_right ?_ hden.le
    calc q * q.den = n := hvalue
      _ < 2 ^ ((n.log2 : Int) + 1) := hnhigh
      _ = 2 ^ ((n.log2 : Int) - q.den.log2 + 1) * 2 ^ (q.den.log2 : Int) := by
        rw [← zpow_add₀ two_ne_zero]
        congr 1
        omega
      _ ≤ 2 ^ ((n.log2 : Int) - q.den.log2 + 1) * q.den := mul_le_mul_of_nonneg_left hdlow (by positivity)
  have hlower : (2 : ℚ) ^ ((n.log2 : Int) - q.den.log2 - 1) ≤ q := by
    refine le_of_mul_le_mul_right ?_ hden
    calc (2 : ℚ) ^ ((n.log2 : Int) - q.den.log2 - 1) * q.den
        ≤ 2 ^ ((n.log2 : Int) - q.den.log2 - 1) * 2 ^ ((q.den.log2 : Int) + 1) :=
          mul_le_mul_of_nonneg_left hdhigh.le (by positivity)
      _ = 2 ^ (n.log2 : Int) := by
        rw [← zpow_add₀ two_ne_zero]
        congr 1
        omega
      _ ≤ n := hnlow
      _ = q * q.den := hvalue.symm
  rw [hguess]
  split
  · next h =>
    rw [sub_add_cancel]
    exact ⟨hlower, h⟩
  · next h => exact ⟨not_lt.1 h, hupper⟩

/-- The grid is as fine as the leading bit allows, or as fine as it gets. -/
theorem gridExponent_bounds (format : BinaryFormat) (hq : 0 < q) :
    q < 2 ^ (format.gridExponent q + format.precision) ∧ format.leastExponent ≤ format.gridExponent q ∧
      (format.gridExponent q = format.leastExponent ∨
        (2 : ℚ) ^ (format.gridExponent q + format.precision - 1) ≤ q) := by
  obtain ⟨hlower, hupper⟩ := leadingExponent_bounds hq
  rw [gridExponent_eq]
  refine ⟨hupper.trans_le (zpow_le_zpow_right₀ one_le_two (by omega)), le_max_left _ _, ?_⟩
  rcases le_total (leadingExponent q + 1 - format.precision) format.leastExponent with h | h
  · exact .inl (max_eq_left h)
  · right
    rw [max_eq_right h]
    refine le_trans (zpow_le_zpow_right₀ one_le_two (by omega)) hlower

theorem nearest_of_pos (hq : 0 < q) :
    format.nearest q = roundHalfEven (q / 2 ^ format.gridExponent q) * 2 ^ format.gridExponent q := by
  rw [nearest, if_neg hq.ne']
  simp only [dyadic_eq, if_neg (not_lt.2 hq.le), Int.cast_one, one_mul]

theorem nearest_neg (format : BinaryFormat) (q : ℚ) : format.nearest (-q) = -format.nearest q := by
  rcases lt_trichotomy q 0 with h | rfl | h
  · simp only [nearest, if_neg h.ne, if_neg (neg_ne_zero.2 h.ne), if_pos h, if_neg (not_lt.2 (neg_pos.2 h).le),
      dyadic_eq, neg_div, roundHalfEven_neg, Int.cast_neg, neg_mul]
  · simp [nearest]
  · simp only [nearest, if_neg h.ne', if_neg (neg_ne_zero.2 h.ne'), if_neg (not_lt.2 h.le), if_pos (neg_neg_of_pos h),
      dyadic_eq, neg_neg, neg_div, roundHalfEven_neg, Int.cast_neg, neg_mul]


/-! ### The largest number of the format -/

/-- Up to the largest number of single precision the grid has room for every mantissa. -/
theorem exists_nearest_single (hq : 0 < q) (hle : q ≤ 16777215 * 2 ^ (104 : Int)) :
    ∃ (n : Nat) (e : Int), n ≤ 2 ^ 24 ∧ -149 ≤ e ∧ e ≤ 104 ∧ single.gridExponent q = e ∧
      roundHalfEven (q / 2 ^ e) = n ∧ single.nearest q = n * 2 ^ e := by
  obtain ⟨hfits, hleast, hgrid⟩ := gridExponent_bounds single hq
  have hprecision : (single.precision : Int) = 24 := rfl
  have hleast' : single.leastExponent = -149 := rfl
  obtain ⟨e, he⟩ : ∃ e, single.gridExponent q = e := ⟨_, rfl⟩
  rw [he, hprecision] at hfits
  rw [he, hleast'] at hleast
  rw [he, hprecision, hleast'] at hgrid
  have hpos : (0 : ℚ) < 2 ^ e := by positivity
  have hscaled : q / 2 ^ e < 2 ^ 24 := by
    rw [div_lt_iff₀ hpos]
    calc q < 2 ^ (e + 24) := hfits
      _ = 2 ^ 24 * 2 ^ e := by rw [zpow_add₀ two_ne_zero, mul_comm]; norm_num
  have hhigh : e ≤ 104 := by
    rcases hgrid with h | h
    · omega
    · by_contra hlarge
      have hpow : (2 : ℚ) ^ (128 : Int) ≤ 2 ^ (e + 24 - 1) := zpow_le_zpow_right₀ one_le_two (by omega)
      have hsmall : (16777215 : ℚ) * 2 ^ (104 : Int) < 2 ^ (128 : Int) := by norm_num
      linarith
  have hnonneg : 0 ≤ roundHalfEven (q / 2 ^ e) := le_roundHalfEven (by exact_mod_cast (div_pos hq hpos).le)
  have hbits : roundHalfEven (q / 2 ^ e) ≤ 2 ^ 24 := roundHalfEven_le (by exact_mod_cast hscaled.le)
  obtain ⟨n, hn⟩ := Int.eq_ofNat_of_zero_le hnonneg
  refine ⟨n, e, by omega, hleast, hhigh, he, hn, ?_⟩
  rw [nearest_of_pos hq, he, hn, Int.cast_natCast]

/-- Half a step below the largest number lies the middle to an even one, which takes the tie. -/
theorem nearest_single_eq_largest_iff (hq : 0 < q) (hle : q ≤ 16777215 * 2 ^ (104 : Int)) :
    single.nearest q = 16777215 * 2 ^ (104 : Int) ↔ 33554429 * 2 ^ (103 : Int) < q := by
  obtain ⟨n, e, hn, -, he, hgrid, hround, hnearest⟩ := exists_nearest_single hq hle
  rw [hnearest]
  rcases he.lt_or_eq with hfiner | rfl
  · -- on a finer grid neither the number nor the nearest one gets past half of the last grid
    have hbits : (n : ℚ) ≤ 2 ^ 24 := by exact_mod_cast hn
    have hstep : (2 : ℚ) ^ e ≤ 2 ^ (103 : Int) := zpow_le_zpow_right₀ one_le_two (by omega)
    have hnearest' : (n : ℚ) * 2 ^ e ≤ 2 ^ 24 * 2 ^ (103 : Int) := mul_le_mul hbits hstep (by positivity) (by positivity)
    obtain ⟨hfits, -, -⟩ := gridExponent_bounds single hq
    have hprecision : (single.precision : Int) = 24 := rfl
    rw [hgrid, hprecision] at hfits
    have hpow : (2 : ℚ) ^ (e + 24) ≤ 2 ^ (127 : Int) := zpow_le_zpow_right₀ one_le_two (by omega)
    have hlarge : (2 : ℚ) ^ 24 * 2 ^ (103 : Int) < 16777215 * 2 ^ (104 : Int) ∧
        (2 : ℚ) ^ (127 : Int) < 33554429 * 2 ^ (103 : Int) := by norm_num
    exact iff_of_false (by linarith) (by linarith)
  · have hpos : (0 : ℚ) < 2 ^ (104 : Int) := by positivity
    have hscaled : q / 2 ^ (104 : Int) ≤ ((16777215 : Int) : ℚ) := (div_le_iff₀ hpos).2 (by exact_mod_cast hle)
    have hwhole : (n : ℚ) = 16777215 ↔ roundHalfEven (q / 2 ^ (104 : Int)) = 16777215 := by
      rw [hround]
      norm_cast
    have hmiddle : (((16777215 : Int) : ℚ) - 1 / 2) * 2 ^ (104 : Int) = 33554429 * 2 ^ (103 : Int) := by norm_num
    rw [mul_left_inj' hpos.ne', hwhole, roundHalfEven_eq_odd_iff (by decide) hscaled, lt_div_iff₀ hpos, hmiddle]

/-- The tie at half a step below the largest number goes to the one before it. -/
theorem nearest_single_eq_limit_iff {q : ℚ} (hq : |q| ≤ dyadic 16777215 104) :
    single.nearest q = -dyadic 16777215 104 ∨ single.nearest q = dyadic 16777215 104 ↔
      q < -dyadic 33554429 103 ∨ dyadic 33554429 103 < q := by
  have hlimit : dyadic 16777215 104 = 16777215 * 2 ^ (104 : Int) := by rw [dyadic_eq]; norm_num
  have hmiddle : dyadic 33554429 103 = 33554429 * 2 ^ (103 : Int) := by rw [dyadic_eq]; norm_num
  have hpos : ∀ p : ℚ, 0 < p → p ≤ 16777215 * 2 ^ (104 : Int) →
      (single.nearest p = -(16777215 * 2 ^ (104 : Int)) ∨
        single.nearest p = 16777215 * 2 ^ (104 : Int) ↔ 33554429 * 2 ^ (103 : Int) < p) := by
    intro p hp hle
    obtain ⟨n, e, -, -, -, -, -, hnearest⟩ := exists_nearest_single hp hle
    have hnonneg : 0 ≤ single.nearest p := by rw [hnearest]; positivity
    have hne : single.nearest p ≠ -(16777215 * 2 ^ (104 : Int)) := by
      intro h
      rw [h] at hnonneg
      norm_num at hnonneg
    rw [or_iff_right hne]
    exact nearest_single_eq_largest_iff hp hle
  rw [hlimit] at hq
  rw [hlimit, hmiddle]
  have hmiddle' : (0 : ℚ) < 33554429 * 2 ^ (103 : Int) := by positivity
  rcases lt_trichotomy q 0 with h | rfl | h
  · rw [abs_of_neg h] at hq
    have hneg := hpos (-q) (neg_pos.2 h) hq
    rw [nearest_neg, neg_inj, neg_eq_iff_eq_neg, or_comm] at hneg
    rw [hneg, or_iff_left (by linarith), lt_neg]
  · have hzero : single.nearest 0 = 0 := rfl
    rw [hzero]
    refine iff_of_false ?_ ?_ <;> rintro (h | h) <;> linarith
  · rw [abs_of_pos h] at hq
    rw [hpos q h hq, or_iff_right (by linarith)]

end BinaryFormat

namespace Binary

/-- The exponent at which a mantissa in canonical form stands for a whole number of up to 53 bits. -/
theorem exponent_of_whole {m n : Nat} {k : Int} {hm : 0 < m} {sign : Sign} (h : Canonical (.finite sign m k hm))
    (hn : 0 < n) (hbits : n ≤ 2 ^ 53) (hvalue : (m : ℚ) * 2 ^ k = n) : -53 < k ∧ k ≤ 1 := by
  obtain ⟨hm53, -, hleading⟩ := h
  have hm53' : (m : ℚ) < 2 ^ (53 : Int) := by exact_mod_cast hm53
  have hlow : -53 < k := by
    by_contra hsmall
    have hpow : (2 : ℚ) ^ k ≤ 2 ^ (-53 : Int) := zpow_le_zpow_right₀ one_le_two (by omega)
    have hless : (m : ℚ) * 2 ^ k < 1 :=
      calc (m : ℚ) * 2 ^ k ≤ m * 2 ^ (-53 : Int) := mul_le_mul_of_nonneg_left hpow (by positivity)
        _ < 2 ^ (53 : Int) * 2 ^ (-53 : Int) := mul_lt_mul_of_pos_right hm53' (by positivity)
        _ = 1 := by norm_num
    rw [hvalue] at hless
    have hone : (1 : ℚ) ≤ n := by exact_mod_cast hn
    linarith
  refine ⟨hlow, ?_⟩
  by_contra hlarge
  have hm52 : (2 : ℚ) ^ (52 : Int) ≤ m := by exact_mod_cast hleading.resolve_right (by omega)
  have hpow : (2 : ℚ) ^ (2 : Int) ≤ 2 ^ k := zpow_le_zpow_right₀ one_le_two (by omega)
  have hmore : (2 : ℚ) ^ (52 : Int) * 2 ^ (2 : Int) ≤ m * 2 ^ k := mul_le_mul hm52 hpow (by positivity) (by positivity)
  have hbits' : (n : ℚ) ≤ 2 ^ (53 : Int) := by exact_mod_cast hbits
  rw [hvalue] at hmore
  norm_num at hmore hbits'
  linarith

/-- A mantissa of up to 53 bits keeps its value on any grid of single precision. -/
theorem value?_nearestTo_scaled {n : Nat} {e : Int} (hn : 0 < n) (hbits : n ≤ 2 ^ 53) (hlow : -149 ≤ e)
    (hhigh : e ≤ 104) (sign : Sign) :
    value? (nearestTo (dyadic (sign.apply n) e)) = some (dyadic (sign.apply n) e) := by
  obtain ⟨m, k, hm, hwhole, -, hvalue⟩ := exists_canonical hn hbits sign
  obtain ⟨hk, hk'⟩ := exponent_of_whole hwhole hn hbits hvalue
  obtain ⟨hm53, -, hleading⟩ := hwhole
  have hcanonical : Canonical (.finite sign m (k + e) hm) := ⟨hm53, by omega, hleading.imp_right fun h => by omega⟩
  have hdyadic : dyadic (sign.apply n) e = dyadic (sign.apply m) (k + e) := by
    have hscaled : (m : ℚ) * 2 ^ (k + e) = n * 2 ^ e := by rw [zpow_add₀ two_ne_zero, ← mul_assoc, hvalue]
    cases sign with
    | positive => rw [dyadic_positive, dyadic_positive, hscaled]
    | negative => rw [dyadic_negative, dyadic_negative, hscaled]
  rw [hdyadic]
  exact value?_nearestTo hcanonical (by omega)

/-- The numbers of single precision are numbers of the wider format. -/
theorem value?_nearestTo_nearest_single {q : ℚ} (hq : |q| ≤ 16777215 * 2 ^ (104 : Int))
    (hne : BinaryFormat.single.nearest q ≠ 0) :
    value? (nearestTo (BinaryFormat.single.nearest q)) = some (BinaryFormat.single.nearest q) := by
  have hmagnitude : ∀ p : ℚ, 0 < p → p ≤ 16777215 * 2 ^ (104 : Int) → BinaryFormat.single.nearest p ≠ 0 → ∀ sign : Sign,
      ∃ (n : Nat) (e : Int), BinaryFormat.single.nearest p = n * 2 ^ e ∧
        value? (nearestTo (dyadic (sign.apply n) e)) = some (dyadic (sign.apply n) e) := by
    intro p hp hle hne sign
    obtain ⟨n, e, hn, hlow, hhigh, -, -, hnearest⟩ := BinaryFormat.exists_nearest_single hp hle
    have hpos : 0 < n := by
      refine Nat.pos_of_ne_zero fun hzero => hne ?_
      rw [hnearest, hzero, Nat.cast_zero, zero_mul]
    exact ⟨n, e, hnearest, value?_nearestTo_scaled hpos (hn.trans (by norm_num)) hlow hhigh sign⟩
  rcases lt_trichotomy q 0 with h | rfl | h
  · rw [abs_of_neg h] at hq
    rw [← neg_neg q, BinaryFormat.nearest_neg, neg_ne_zero] at hne
    obtain ⟨n, e, hnearest, hvalue⟩ := hmagnitude (-q) (neg_pos.2 h) hq hne .negative
    rw [dyadic_negative, ← hnearest, ← BinaryFormat.nearest_neg, neg_neg] at hvalue
    exact hvalue
  · exact absurd rfl hne
  · rw [abs_of_pos h] at hq
    obtain ⟨n, e, hnearest, hvalue⟩ := hmagnitude q h hq hne .positive
    rw [dyadic_positive, ← hnearest] at hvalue
    exact hvalue

/-- Zero times a finite number is a zero. -/
theorem value?_mul_zero {x : Float} (hx : Scalar.isFinite x = true) : value? (x * 0) = some 0 := by
  have hproduct : (x * 0).toModel.unpack =
      (Float.Model.pack (UnpackedFloat.mul Format.binary64 x.toModel.unpack (.zero .positive))).unpack := rfl
  have hzero : ∃ sign, UnpackedFloat.mul Format.binary64 x.toModel.unpack (.zero .positive) = .zero sign := by
    rcases unpack_of_isFinite hx with ⟨sign, h⟩ | ⟨sign, m, e, hm, h⟩
    · rw [h]
      exact ⟨_, rfl⟩
    · rw [h]
      exact ⟨_, rfl⟩
  obtain ⟨sign, hsign⟩ := hzero
  rw [value?, hproduct, hsign]
  cases sign <;> rfl

end Binary

end ChartGestures
