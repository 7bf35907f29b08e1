import ChartGestures.Number.ExactDecimal
import ChartGestures.Proofs.Range.Clipping

/-!
# Clipping index ranges

Clipping an index range holds its shadows against the whole bounds of the extents, so what it leaves lies within them
and stays so. Two other paths measure differently. A range that lies outside becomes the extents with their own shadows,
which may reach past their whole bounds. And stretching asks whether the whole bound of the candidate is past the
extents, which rounding toward zero hides as long as the shadow is past them by less than one.
-/

namespace ChartGestures

open Scalar

/-! ### Rounding toward zero past a whole number -/

theorem truncate_lt_iff (q : ℚ) (n : Int) : truncate q < n ↔ q < n ∧ ¬ (n ≤ 0 ∧ (n : ℚ) - 1 < q) := by
  rw [truncate_eq]
  split
  · next hneg =>
    have hceil : ⌈q⌉ < n ↔ q ≤ (n : ℚ) - 1 := by
      rw [← Int.le_sub_one_iff, Int.ceil_le]
      push_cast
      rfl
    rw [hceil]
    constructor
    · intro h
      exact ⟨by linarith, fun hpast => by linarith [hpast.2]⟩
    · rintro ⟨-, h⟩
      by_cases hn : n ≤ 0
      · exact not_lt.1 fun hlt => h ⟨hn, hlt⟩
      · have hpos : (1 : ℚ) ≤ n := by exact_mod_cast Int.not_le.1 hn
        linarith
  · next hnonneg =>
    have hpos : q < n → 0 < n := fun h => by exact_mod_cast (not_lt.1 hnonneg).trans_lt h
    rw [Int.floor_lt]
    exact ⟨fun h => ⟨h, fun hpast => hpast.1.not_gt (hpos h)⟩, fun h => h.1⟩

theorem lt_truncate_iff (q : ℚ) (n : Int) : n < truncate q ↔ (n : ℚ) < q ∧ ¬ (0 ≤ n ∧ q < n + 1) := by
  rw [truncate_eq]
  split
  · next hneg =>
    have hneg' : (n : ℚ) < q → n < 0 := fun h => by exact_mod_cast h.trans hneg
    rw [Int.lt_ceil]
    exact ⟨fun h => ⟨h, fun hpast => hpast.1.not_gt (hneg' h)⟩, fun h => h.1⟩
  · next hnonneg =>
    have hfloor : n < ⌊q⌋ ↔ (n : ℚ) + 1 ≤ q := by
      rw [← Int.add_one_le_iff, Int.le_floor]
      push_cast
      rfl
    rw [hfloor]
    constructor
    · intro h
      exact ⟨by linarith, fun hpast => by linarith [hpast.2]⟩
    · rintro ⟨-, h⟩
      by_cases hn : 0 ≤ n
      · exact not_lt.1 fun hlt => h ⟨hn, hlt⟩
      · have hle : (n : ℚ) + 1 ≤ 0 := by exact_mod_cast Int.not_le.1 hn
        linarith [not_lt.1 hnonneg]

/-- Limits around a number do not come between it and another one. -/
theorem limited_lt_iff {lo hi n k : Int} (hlo : lo < n) (hhi : n ≤ hi) : max lo (min hi k) < n ↔ k < n := by omega

theorem lt_limited_iff {lo hi n k : Int} (hlo : lo ≤ n) (hhi : n < hi) : n < max lo (min hi k) ↔ n < k := by omega

namespace IndexRange

variable {α : Type} [Scalar α]

/-- What the operations keep of an index range whose shadows are numbers, typed writes of a single bound apart. -/
structure IsRegular (r : IndexRange α) : Prop where
  coherent : r.Coherent
  numbers : r.HasNumbers
  ordered : r.ShadowsOrdered

/-- The precise bounds lie in order between the whole bounds of `m`. -/
structure LiesWithin (r m : IndexRange α) : Prop where
  lower : m.canonicalMin ≤ r.minShadow
  ordered : r.minShadow ≤ r.maxShadow
  upper : r.maxShadow ≤ m.canonicalMax

/-- The precise bounds lie on one side of the whole bounds of `m`. -/
def LiesOutside (r m : IndexRange α) : Prop := r.maxShadow < m.canonicalMin ∨ m.canonicalMax < r.minShadow

instance (r m : IndexRange α) : Decidable (r.LiesOutside m) := inferInstanceAs (Decidable (_ ∨ _))

/-- Both bounds brought to the whole bounds of `m`. -/
def clamped (r m : IndexRange α) : IndexRange α where
  min := if r.minShadow < m.canonicalMin then m.min else r.min
  max := if m.canonicalMax < r.maxShadow then m.max else r.max
  minShadow := if r.minShadow < m.canonicalMin then m.canonicalMin else r.minShadow
  maxShadow := if m.canonicalMax < r.maxShadow then m.canonicalMax else r.maxShadow

theorem clipTo_eq (r m : IndexRange α) : r.clipTo m .clipAtExtents =
    if (r.clamped m).maxShadow < (r.clamped m).minShadow then m else r.clamped m := by
  by_cases hlow : r.minShadow < m.canonicalMin <;> by_cases hhigh : m.canonicalMax < r.maxShadow <;>
    simp [clipTo, clamped, ClipMode.clipsMin, ClipMode.clipsMax, hlow, hhigh]

variable [LawfulScalar α] {r m : IndexRange α}

theorem isRegular_ofPrecise {min max : α} (h : (ofPrecise min max).HasNumbers) : (ofPrecise min max).IsRegular :=
  ⟨(coherent_ofPrecise h).1, h, (coherent_ofPrecise h).2⟩

/-! ### Clamped shadows -/

theorem isNaN_canonicalMin (m : IndexRange α) : isNaN m.canonicalMin = false := isNaN_whole m.min

theorem isNaN_canonicalMax (m : IndexRange α) : isNaN m.canonicalMax = false := isNaN_whole m.max

theorem IsRegular.canonical_le (hm : m.IsRegular) : rank m.canonicalMin ≤ rank m.canonicalMax :=
  (le_iff_rank_le m.isNaN_canonicalMin m.isNaN_canonicalMax).1 (whole_le_whole hm.coherent.ordered)

theorem IsRegular.shadow_le (hr : r.IsRegular) : rank r.minShadow ≤ rank r.maxShadow :=
  (le_iff_rank_le hr.numbers.lower hr.numbers.upper).1 hr.ordered

theorem hasNumbers_clamped (hr : r.HasNumbers) : (r.clamped m).HasNumbers := by
  constructor
  · simp only [clamped]
    split
    · exact m.isNaN_canonicalMin
    · exact hr.lower
  · simp only [clamped]
    split
    · exact m.isNaN_canonicalMax
    · exact hr.upper

theorem rank_minShadow_clamped (hr : r.HasNumbers) :
    rank (r.clamped m).minShadow = rank r.minShadow ⊔ rank m.canonicalMin := by
  simp only [clamped]
  split
  · next h => exact (sup_eq_right.2 ((lt_iff_rank_lt hr.lower m.isNaN_canonicalMin).1 h).le).symm
  · next h => exact (sup_eq_left.2 (not_lt.1 ((lt_iff_rank_lt hr.lower m.isNaN_canonicalMin).not.1 h))).symm

theorem rank_maxShadow_clamped (hr : r.HasNumbers) :
    rank (r.clamped m).maxShadow = rank r.maxShadow ⊓ rank m.canonicalMax := by
  simp only [clamped]
  split
  · next h => exact (inf_eq_right.2 ((lt_iff_rank_lt m.isNaN_canonicalMax hr.upper).1 h).le).symm
  · next h => exact (inf_eq_left.2 (not_lt.1 ((lt_iff_rank_lt m.isNaN_canonicalMax hr.upper).not.1 h))).symm

/-- The clamped shadows cross exactly if the range has nothing between the whole bounds. -/
theorem clamped_crosses_iff (hr : r.IsRegular) (hm : m.IsRegular) :
    (r.clamped m).maxShadow < (r.clamped m).minShadow ↔ r.LiesOutside m := by
  have hnumbers : (r.clamped m).HasNumbers := hasNumbers_clamped hr.numbers
  have hr' := hr.shadow_le
  have hm' := hm.canonical_le
  rw [lt_iff_rank_lt hnumbers.upper hnumbers.lower, rank_minShadow_clamped hr.numbers,
    rank_maxShadow_clamped hr.numbers, LiesOutside, lt_iff_rank_lt hr.numbers.upper m.isNaN_canonicalMin,
    lt_iff_rank_lt m.isNaN_canonicalMax hr.numbers.lower, inf_lt_iff, lt_sup_iff, lt_sup_iff]
  simp [hr'.not_gt, hm'.not_gt]

theorem clipTo_of_outside (hr : r.IsRegular) (hm : m.IsRegular) (h : r.LiesOutside m) :
    r.clipTo m .clipAtExtents = m := by
  rw [clipTo_eq, if_pos ((clamped_crosses_iff hr hm).2 h)]

theorem clipTo_of_not_outside (hr : r.IsRegular) (hm : m.IsRegular) (h : ¬ r.LiesOutside m) :
    r.clipTo m .clipAtExtents = r.clamped m := by
  rw [clipTo_eq, if_neg ((clamped_crosses_iff hr hm).not.2 h)]

theorem liesWithin_clamped (hr : r.IsRegular) (hm : m.IsRegular) (h : ¬ r.LiesOutside m) :
    (r.clamped m).LiesWithin m := by
  have hnumbers : (r.clamped m).HasNumbers := hasNumbers_clamped hr.numbers
  refine ⟨?_, (not_lt_iff_le hnumbers.upper hnumbers.lower).1 ((clamped_crosses_iff hr hm).not.2 h), ?_⟩
  · rw [le_iff_rank_le m.isNaN_canonicalMin hnumbers.lower, rank_minShadow_clamped hr.numbers]
    exact le_sup_right
  · rw [le_iff_rank_le hnumbers.upper m.isNaN_canonicalMax, rank_maxShadow_clamped hr.numbers]
    exact inf_le_right

theorem clamped_of_liesWithin (hr : r.HasNumbers) (h : r.LiesWithin m) : r.clamped m = r := by
  have hlow : ¬ r.minShadow < m.canonicalMin := (not_lt_iff_le hr.lower m.isNaN_canonicalMin).2 h.lower
  have hhigh : ¬ m.canonicalMax < r.maxShadow := (not_lt_iff_le m.isNaN_canonicalMax hr.upper).2 h.upper
  simp [clamped, hlow, hhigh]

theorem clipTo_of_liesWithin (hr : r.HasNumbers) (h : r.LiesWithin m) : r.clipTo m .clipAtExtents = r := by
  rw [clipTo_eq, clamped_of_liesWithin hr h, if_neg ((not_lt_iff_le hr.upper hr.lower).2 h.ordered)]

theorem liesWithin_clipTo_iff (hr : r.IsRegular) (hm : m.IsRegular) :
    (r.clipTo m .clipAtExtents).LiesWithin m ↔ ¬ r.LiesOutside m ∨ m.LiesWithin m := by
  by_cases h : r.LiesOutside m
  · rw [clipTo_of_outside hr hm h]
    simp [h]
  · rw [clipTo_of_not_outside hr hm h]
    exact iff_of_true (liesWithin_clamped hr hm h) (.inl h)

/-- The extents themselves stay as they are if they hold their own shadows, or if these lie outside. -/
theorem clipTo_self_iff (hm : m.IsRegular) : m.clipTo m .clipAtExtents = m ↔ m.LiesWithin m ∨ m.LiesOutside m := by
  constructor
  · intro hself
    by_cases h : m.LiesOutside m
    · exact .inr h
    · have hwithin := (liesWithin_clipTo_iff hm hm).2 (.inl h)
      rw [hself] at hwithin
      exact .inl hwithin
  · rintro (h | h)
    · exact clipTo_of_liesWithin hm.numbers h
    · exact clipTo_of_outside hm hm h

theorem clipTo_clipTo_iff (hr : r.IsRegular) (hm : m.IsRegular) :
    (r.clipTo m .clipAtExtents).clipTo m .clipAtExtents = r.clipTo m .clipAtExtents ↔
      ¬ r.LiesOutside m ∨ m.LiesWithin m ∨ m.LiesOutside m := by
  by_cases h : r.LiesOutside m
  · rw [clipTo_of_outside hr hm h, clipTo_self_iff hm]
    simp [h]
  · rw [clipTo_of_not_outside hr hm h]
    exact iff_of_true (clipTo_of_liesWithin (hasNumbers_clamped hr.numbers) (liesWithin_clamped hr hm h)) (.inl h)

/-- A range that has something between the whole bounds of the extents is cut off there, once and for all; one that lies
outside becomes the extents, and those go past their own whole bounds with a shadow that does. -/
theorem clips_within_or_resets {r m : IndexRange Float} (hr : r.IsRegular) (hm : m.IsRegular) :
    let s := r.clipTo m .clipAtExtents
    (r.LiesOutside m → s = m) ∧ (s.LiesWithin m ↔ ¬ r.LiesOutside m ∨ m.LiesWithin m) ∧
      (s.clipTo m .clipAtExtents = s ↔ ¬ r.LiesOutside m ∨ m.LiesWithin m ∨ m.LiesOutside m) :=
  ⟨clipTo_of_outside hr hm, liesWithin_clipTo_iff hr hm, clipTo_clipTo_iff hr hm⟩

theorem clips_within_or_resets_fraction :
    let r : IndexRange Float := ofPrecise (-2.5) 14.25
    let m : IndexRange Float := ofPrecise 0.5 20.75
    r.IsRegular ∧ m.IsRegular ∧ ¬ r.LiesOutside m ∧ (r.clipTo m .clipAtExtents).LiesWithin m ∧
      (r.clipTo m .clipAtExtents).clipTo m .clipAtExtents = r.clipTo m .clipAtExtents := by
  intro r m
  have hr : r.IsRegular := isRegular_ofPrecise (by decide +kernel)
  have hm : m.IsRegular := isRegular_ofPrecise (by decide +kernel)
  have hmeets : ¬ r.LiesOutside m := by decide +kernel
  obtain ⟨-, hwithin, hagain⟩ := clips_within_or_resets hr hm
  exact ⟨hr, hm, hmeets, hwithin.2 (.inl hmeets), hagain.2 (.inl hmeets)⟩

/-- Outside the extents from -2.5 to 10.75 a range becomes these extents, whose whole bounds are -2 and 10; clipped once
more it is cut off at -2. -/
theorem reset_passes_whole_bounds :
    let r : IndexRange Float := ofPrecise 30 40
    let m : IndexRange Float := ofPrecise (-2.5) 10.75
    let s := r.clipTo m .clipAtExtents
    r.IsRegular ∧ m.IsRegular ∧ s.minShadow < m.canonicalMin ∧ m.canonicalMax < s.maxShadow ∧
      s.clipTo m .clipAtExtents ≠ s := by
  intro r m s
  have hmoved : s.minShadow < (s.clipTo m .clipAtExtents).minShadow := by decide +kernel
  refine ⟨isRegular_ofPrecise (by decide +kernel), isRegular_ofPrecise (by decide +kernel), by decide +kernel,
    by decide +kernel, fun hsame => ?_⟩
  rw [hsame] at hmoved
  exact Scalar.lt_irrefl _ hmoved

/-! ### Stretching -/

/-- The bound that arithmetic starts from, on one half of an axis. -/
def preciseBound (r : IndexRange α) : DragHalf → α
  | .near => r.minShadow
  | .far => r.maxShadow

/-- The precise bound is past the whole bound of `m`. -/
def IsPast (r m : IndexRange α) : DragHalf → Prop
  | .near => r.minShadow < m.canonicalMin
  | .far => m.canonicalMax < r.maxShadow

/-- The precise bound is past the whole bound of `m`, away from zero and by less than one. -/
def SlipsPast (r m : IndexRange α) : DragHalf → Prop
  | .near => m.min ≤ 0 ∧ ∃ q ∈ toRat? r.minShadow, (m.min.toInt : ℚ) - 1 < q ∧ q < m.min.toInt
  | .far => 0 ≤ m.max ∧ ∃ q ∈ toRat? r.maxShadow, (m.max.toInt : ℚ) < q ∧ q < m.max.toInt + 1

instance (r m : IndexRange α) : (half : DragHalf) → Decidable (r.IsPast m half)
  | .near => inferInstanceAs (Decidable (r.minShadow < m.canonicalMin))
  | .far => inferInstanceAs (Decidable (m.canonicalMax < r.maxShadow))

instance (r m : IndexRange α) : (half : DragHalf) → Decidable (r.SlipsPast m half)
  | .near => inferInstanceAs (Decidable (_ ∧ ∃ q ∈ toRat? r.minShadow, _ ∧ _))
  | .far => inferInstanceAs (Decidable (_ ∧ ∃ q ∈ toRat? r.maxShadow, _ ∧ _))

/-- Clipping at both extents moves the precise bound. -/
def Moves (r m : IndexRange α) (half : DragHalf) : Prop :=
  (r.clipTo m .clipAtExtents).preciseBound half ≠ r.preciseBound half

theorem ne_of_lt {x y : α} (h : x < y) : x ≠ y := by
  rintro rfl
  exact Scalar.lt_irrefl _ h

theorem moves_iff (hr : r.IsRegular) (hm : m.IsRegular) (hmeets : ¬ r.LiesOutside m) (half : DragHalf) :
    r.Moves m half ↔ r.IsPast m half := by
  rw [Moves, clipTo_of_not_outside hr hm hmeets]
  cases half with
  | near =>
    simp only [preciseBound, clamped, IsPast]
    split
    · next h => exact iff_of_true (ne_of_lt h).symm h
    · next h => exact iff_of_false (fun hne => hne rfl) h
  | far =>
    simp only [preciseBound, clamped, IsPast]
    split
    · next h => exact iff_of_true (ne_of_lt h) h
    · next h => exact iff_of_false (fun hne => hne rfl) h

theorem lt_whole_iff {x : α} {q : ℚ} (hx : toRat? x = some q) (n : Int32) : x < ofInt n.toInt ↔ q < n.toInt :=
  lt_iff_of_toRat? hx (toRat?_ofInt (natAbs_toInt_le n))

theorem whole_lt_iff {x : α} {q : ℚ} (hx : toRat? x = some q) (n : Int32) : ofInt n.toInt < x ↔ n.toInt < q :=
  lt_iff_of_toRat? (toRat?_ofInt (natAbs_toInt_le n)) hx

/-- An infinity is below every whole number or above every one. -/
theorem lt_whole_iff_of_infinite {x : α} (hx : toRat? x = none) (hnumber : isNaN x = false) (n : Int32) :
    (x < ofInt n.toInt ↔ x < 0) ∧ (ofInt n.toInt < x ↔ ¬ x < 0) := by
  rw [lt_iff_rank_lt hnumber (isNaN_whole n), lt_iff_rank_lt (isNaN_whole n) hnumber, rank_whole, rank, hx]
  by_cases hneg : x < 0
  · rw [if_pos hneg]
    exact ⟨iff_of_true (WithBot.bot_lt_coe _) hneg, iff_of_false not_lt_bot (not_not.2 hneg)⟩
  · rw [if_neg hneg]
    have hbelow : ((n.toInt : ℚ) : WithTop ℚ) < ⊤ := WithTop.coe_lt_top _
    exact ⟨iff_of_false (fun h => not_top_lt (WithBot.coe_lt_coe.1 h)) hneg,
      iff_of_true (WithBot.coe_lt_coe.2 hbelow) hneg⟩

theorem minValue_lt {n : Int32} (hn : n ≠ Int32.minValue) : Int32.minValue.toInt < n.toInt :=
  lt_of_le_of_ne n.le_toInt fun h => hn (Int32.toInt_inj.1 h).symm

theorem lt_maxValue {n : Int32} (hn : n ≠ Int32.maxValue) : n.toInt < Int32.maxValue.toInt :=
  lt_of_le_of_ne (Int.le_of_lt_add_one n.toInt_lt) fun h => hn (Int32.toInt_inj.1 h)

theorem truncateIndex_lt_iff {x : α} (hx : isNaN x = false) {n : Int32} (hn : n ≠ Int32.minValue) :
    truncateIndex x < n ↔ x < ofInt n.toInt ∧
      ¬ (n ≤ 0 ∧ ∃ q ∈ toRat? x, (n.toInt : ℚ) - 1 < q ∧ q < n.toInt) := by
  have hlower := minValue_lt hn
  have hupper : n.toInt ≤ Int32.maxValue.toInt := Int.le_of_lt_add_one n.toInt_lt
  have hzero : n ≤ 0 ↔ n.toInt ≤ 0 := Int32.le_iff_toInt_le
  rw [Int32.lt_iff_toInt_lt, toInt_truncateIndex, toIntWithin, hx, hzero]
  cases hvalue : toRat? x with
  | some q =>
    simp only
    -- Bringing the number between the lowest and the highest index keeps it on its side of `n`.
    rw [limited_lt_iff hlower hupper, lt_whole_iff hvalue, truncate_lt_iff]
    refine and_congr_right fun hlt => not_congr (and_congr_right fun _ => ⟨fun h => ⟨q, rfl, h, hlt⟩, ?_⟩)
    rintro ⟨_, heq, h, -⟩
    cases heq
    exact h
  | none =>
    dsimp only
    rw [(lt_whole_iff_of_infinite hvalue hx n).1, if_neg Bool.false_ne_true]
    split
    · next hneg => exact iff_of_true hlower ⟨hneg, by simp⟩
    · next hneg => exact iff_of_false hupper.not_gt fun h => hneg h.1

theorem lt_truncateIndex_iff {x : α} (hx : isNaN x = false) {n : Int32} (hn : n ≠ Int32.maxValue) :
    n < truncateIndex x ↔ ofInt n.toInt < x ∧
      ¬ (0 ≤ n ∧ ∃ q ∈ toRat? x, (n.toInt : ℚ) < q ∧ q < n.toInt + 1) := by
  have hlower : Int32.minValue.toInt ≤ n.toInt := n.le_toInt
  have hupper := lt_maxValue hn
  have hzero : 0 ≤ n ↔ 0 ≤ n.toInt := Int32.le_iff_toInt_le
  rw [Int32.lt_iff_toInt_lt, toInt_truncateIndex, toIntWithin, hx, hzero]
  cases hvalue : toRat? x with
  | some q =>
    simp only
    rw [lt_limited_iff hlower hupper, whole_lt_iff hvalue, lt_truncate_iff]
    refine and_congr_right fun hlt => not_congr (and_congr_right fun _ => ⟨fun h => ⟨q, rfl, hlt, h⟩, ?_⟩)
    rintro ⟨_, heq, -, h⟩
    cases heq
    exact h
  | none =>
    dsimp only
    rw [(lt_whole_iff_of_infinite hvalue hx n).2, if_neg Bool.false_ne_true]
    split
    · next hneg => exact iff_of_false hlower.not_gt fun h => h.1 hneg
    · next hneg => exact iff_of_true hupper ⟨hneg, by simp⟩

theorem whole_lt_whole_iff (k n : Int32) : (ofInt k.toInt : α) < ofInt n.toInt ↔ k < n := by
  rw [lt_whole_iff (toRat?_ofInt (natAbs_toInt_le k)), Int32.lt_iff_toInt_lt]
  exact Int.cast_lt

omit [Scalar α] [LawfulScalar α] in
theorem not_sentinel (hdefined : m.isDefined) : m.min ≠ Int32.minValue ∧ m.max ≠ Int32.maxValue := by
  simp only [isDefined, Bool.and_eq_true, Bool.not_eq_true', Bool.or_eq_false_iff, beq_eq_false_iff_ne] at hdefined
  exact ⟨hdefined.1.1, hdefined.2.2⟩

/-- Of the bounds that are past the extents, stretching misses those that slip past them. -/
theorem overruns_iff [Decimals α] (hr : r.IsRegular) (hdefined : m.isDefined) (half : DragHalf) :
    (Range.index r).overruns (Range.index m) half ↔ r.IsPast m half ∧ ¬ r.SlipsPast m half := by
  obtain ⟨hmin, hmax⟩ := not_sentinel hdefined
  cases half with
  | near =>
    have hoverruns : (Range.index r).overruns (Range.index m) .near = true ↔
        (ofInt r.min.toInt : α) < ofInt m.min.toInt := decide_eq_true_iff
    rw [hoverruns, whole_lt_whole_iff, hr.coherent.lower]
    exact truncateIndex_lt_iff hr.numbers.lower hmin
  | far =>
    have hoverruns : (Range.index r).overruns (Range.index m) .far = true ↔
        (ofInt m.max.toInt : α) < ofInt r.max.toInt := decide_eq_true_iff
    rw [hoverruns, whole_lt_whole_iff, hr.coherent.upper]
    exact lt_truncateIndex_iff hr.numbers.upper hmax

theorem stretchedHalf_iff [Decimals α] (hr : r.IsRegular) (hm : m.IsRegular) (hdefined : m.isDefined)
    (hmeets : ¬ r.LiesOutside m) (half : DragHalf) :
    ((Range.index r).stretchedHalf (Range.index m) .stretchAtExtents half = some half.opposite ↔
        r.Moves m half ∧ ¬ r.SlipsPast m half) ∧
      ((Range.index r).stretchedHalf (Range.index m) .stretchAtExtents half = none ↔
        ¬ (r.Moves m half ∧ ¬ r.SlipsPast m half)) := by
  rw [moves_iff hr hm hmeets, ← overruns_iff hr hdefined]
  have hdefined' : (Range.index m).isDefined = true := hdefined
  simp [Range.stretchedHalf, hdefined']

/-- Stretching takes the range scrolled from the other half exactly where clipping would move the precise bound of the
dragged half, except for a bound that slips past the extents; that one is cut off. -/
theorem stretches_unless_slipping [Decimals Float] {r m : IndexRange Float} (hr : r.IsRegular) (hm : m.IsRegular)
    (hdefined : m.isDefined) (hmeets : ¬ r.LiesOutside m) (half : DragHalf)
    (rescroll : DragHalf → Option (Range Float)) :
    let stretched := (Range.index r).stretchedHalf (Range.index m) .stretchAtExtents half
    (stretched = some half.opposite ↔ r.Moves m half ∧ ¬ r.SlipsPast m half) ∧
      (stretched = none ↔ ¬ (r.Moves m half ∧ ¬ r.SlipsPast m half)) ∧
      (Range.index r).clipScaled (Range.index m) .stretchAtExtents half rescroll =
        ((stretched.bind rescroll).getD (Range.index r)).clipTo (Range.index m) .clipAtExtents := by
  obtain ⟨hcalls, hskips⟩ := stretchedHalf_iff hr hm hdefined hmeets half
  have hdefined' : (Range.index m).isDefined = true := hdefined
  exact ⟨hcalls, hskips, Range.clipScaled_eq hdefined' (.inr rfl) half rescroll⟩

theorem stretches_unless_slipping_below :
    let r : IndexRange Float := ofPrecise (-1.5) 5
    let m : IndexRange Float := ofPrecise 0 20
    let s : IndexRange Float := ofPrecise 0 6.5
    r.IsRegular ∧ m.IsRegular ∧ m.isDefined ∧ ¬ r.LiesOutside m ∧ r.Moves m .near ∧ ¬ r.SlipsPast m .near ∧
      (Range.index r).clipScaled (Range.index m) .stretchAtExtents .near (fun _ => some (.index s)) = .index s := by
  intro r m s
  have hr : r.IsRegular := isRegular_ofPrecise (by decide +kernel)
  have hm : m.IsRegular := isRegular_ofPrecise (by decide +kernel)
  have hdefined : m.isDefined := by decide +kernel
  have hmeets : ¬ r.LiesOutside m := by decide +kernel
  have hmoves : r.Moves m .near := (moves_iff hr hm hmeets .near).2 (by decide +kernel)
  have hslips : ¬ r.SlipsPast m .near := by decide +kernel
  have hs : s.LiesWithin m := ⟨by decide +kernel, by decide +kernel, by decide +kernel⟩
  obtain ⟨hcalls, -, hscaled⟩ :=
    stretches_unless_slipping hr hm hdefined hmeets .near fun _ => some (.index s)
  refine ⟨hr, hm, hdefined, hmeets, hmoves, hslips, hscaled.trans ?_⟩
  rw [hcalls.2 ⟨hmoves, hslips⟩]
  exact congrArg Range.index (clipTo_of_liesWithin (isRegular_ofPrecise (by decide +kernel)).numbers hs)

/-- The lower bound -0.5 is cut off at 0, and the whole bound that stretching looks at is 0 already. -/
theorem stretching_misses_fraction :
    let r : IndexRange Float := ofPrecise (-0.5) 5
    let m : IndexRange Float := new 0 20
    r.IsRegular ∧ m.IsRegular ∧ m.isDefined ∧ ¬ r.LiesOutside m ∧ r.Moves m .near ∧
      (Range.index r).stretchedHalf (Range.index m) .stretchAtExtents .near = none := by
  intro r m
  have hr : r.IsRegular := isRegular_ofPrecise (by decide +kernel)
  have hm : m.IsRegular := ⟨(coherent_new 0 20).1, by decide +kernel, (coherent_new 0 20).2⟩
  have hmeets : ¬ r.LiesOutside m := by decide +kernel
  exact ⟨hr, hm, by decide +kernel, hmeets, (moves_iff hr hm hmeets .near).2 (by decide +kernel), by decide +kernel⟩

end IndexRange

end ChartGestures
