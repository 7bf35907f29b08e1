import ChartGestures.Number.ExactDecimal
import ChartGestures.Proofs.Number.Binary
import ChartGestures.Range.Basic

/-!
# Index ranges and their shadows

However an index range comes about, its whole bounds are in order and each is its shadow rounded toward zero. The
shadows are in order too, with one exception: writing a whole bound that equals the other whole bound keeps the shadow
of the other, and that shadow may lie on the wrong side. `CrossesShadow` says when.
-/

namespace ChartGestures

open Scalar

namespace IndexRange

variable {α : Type} [Scalar α]

structure Coherent (r : IndexRange α) : Prop where
  lower : r.min = truncateIndex r.minShadow
  upper : r.max = truncateIndex r.maxShadow
  ordered : r.min ≤ r.max

structure HasNumbers (r : IndexRange α) : Prop where
  lower : isNaN r.minShadow = false
  upper : isNaN r.maxShadow = false

theorem hasNumbers_iff {r : IndexRange α} :
    r.HasNumbers ↔ isNaN r.minShadow = false ∧ isNaN r.maxShadow = false :=
  ⟨fun h => ⟨h.lower, h.upper⟩, fun h => ⟨h.1, h.2⟩⟩

instance (r : IndexRange α) : Decidable r.HasNumbers := decidable_of_iff _ hasNumbers_iff.symm

def ShadowsOrdered (r : IndexRange α) : Prop := r.minShadow ≤ r.maxShadow

/-! ### Typed writes -/

variable {r : IndexRange α}

theorem new_of_le {min max : Int32} (h : min ≤ max) :
    (new min max : IndexRange α) = ⟨min, max, ofInt min.toInt, ofInt max.toInt⟩ := by
  rw [new, if_neg (Int32.not_lt.2 h)]

theorem new_of_lt {min max : Int32} (h : max < min) :
    (new min max : IndexRange α) = ⟨max, min, ofInt max.toInt, ofInt min.toInt⟩ := by
  rw [new, if_pos h]

theorem setMin_of_le (h : r.Coherent) {min : Int32} (hmin : min ≤ r.max) :
    r.setMin min = ⟨min, r.max, ofInt min.toInt, r.maxShadow⟩ := by
  rw [setMin, new_of_le hmin, h.upper]
  simp

theorem setMin_of_lt (h : r.Coherent) {min : Int32} (hmin : r.max < min) : r.setMin min = new min r.max := by
  rw [setMin, new_of_lt hmin, ← h.upper]
  exact if_neg fun heq => Int32.ne_of_lt hmin (beq_iff_eq.1 heq).symm

theorem setMax_of_le (h : r.Coherent) {max : Int32} (hmax : r.min ≤ max) :
    r.setMax max = ⟨r.min, max, r.minShadow, ofInt max.toInt⟩ := by
  rw [setMax, new_of_le hmax, h.lower]
  simp

theorem setMax_of_lt (h : r.Coherent) {max : Int32} (hmax : max < r.min) : r.setMax max = new r.min max := by
  rw [setMax, new_of_lt hmax, ← h.lower]
  exact if_neg fun heq => Int32.ne_of_lt hmax (by simpa using heq)

/-! ### Truncation to an index -/

theorem toInt_truncateIndex (x : α) :
    (truncateIndex x).toInt = toIntWithin truncate Int32.minValue.toInt Int32.maxValue.toInt x := by
  have hmin : Int32.minValue.toInt = -2 ^ 31 := rfl
  have hmax : Int32.maxValue.toInt = 2 ^ 31 - 1 := rfl
  rw [truncateIndex, Int32.toInt_ofInt_of_le] <;> rw [toIntWithin, hmin, hmax] <;> split <;> (try split) <;> omega

variable [LawfulScalar α] {x y : α} {m n : Int32}

theorem truncateIndex_mono (hx : isNaN x = false) (hy : isNaN y = false) (h : x ≤ y) :
    truncateIndex x ≤ truncateIndex y := by
  rw [Int32.le_iff_toInt_le, toInt_truncateIndex, toInt_truncateIndex]
  exact toIntWithin_mono truncate_mono (by decide) hx hy ((le_iff_rank_le hx hy).1 h)

theorem natAbs_toInt_le (n : Int32) : n.toInt.natAbs ≤ 2 ^ 53 := by
  have hlower := n.le_toInt
  have hupper := n.toInt_lt
  omega

theorem isNaN_whole (n : Int32) : isNaN (ofInt n.toInt : α) = false := isNaN_ofInt (natAbs_toInt_le n)

theorem rank_whole (n : Int32) : rank (ofInt n.toInt : α) = ((n.toInt : ℚ) : WithTop ℚ) := by
  rw [rank, toRat?_ofInt (natAbs_toInt_le n)]

theorem truncateIndex_whole (n : Int32) : truncateIndex (ofInt n.toInt : α) = n := by
  have hlower := n.le_toInt
  have hupper := n.toInt_lt
  have hmin : Int32.minValue.toInt = -2 ^ 31 := rfl
  have hmax : Int32.maxValue.toInt = 2 ^ 31 - 1 := rfl
  rw [← Int32.toInt_inj, toInt_truncateIndex, toIntWithin, toRat?_ofInt (natAbs_toInt_le n), hmin, hmax]
  simp only [truncate_intCast]
  omega

theorem whole_le_whole (h : m ≤ n) : (ofInt m.toInt : α) ≤ ofInt n.toInt := by
  rw [le_iff_rank_le (isNaN_whole m) (isNaN_whole n), rank_whole, rank_whole, WithBot.coe_le_coe, WithTop.coe_le_coe]
  exact_mod_cast Int32.le_iff_toInt_le.1 h

/-- A whole number below a truncated one is below the number itself. -/
theorem whole_le_of_lt_truncateIndex (hx : isNaN x = false) (h : n < truncateIndex x) : ofInt n.toInt ≤ x := by
  rw [Int32.lt_iff_toInt_lt, toInt_truncateIndex, toIntWithin] at h
  rw [le_iff_rank_le (isNaN_whole n) hx, rank_whole, rank]
  have hlower := n.le_toInt
  have hmin : Int32.minValue.toInt = -2 ^ 31 := rfl
  cases hvalue : toRat? x with
  | some q =>
    rw [hvalue] at h
    have hn : n.toInt + 1 ≤ truncate q := by
      simp only at h
      omega
    have hle : (n.toInt : ℚ) + 1 ≤ truncate q := by exact_mod_cast hn
    have hq := truncate_lt_add_one q
    rw [WithBot.coe_le_coe, WithTop.coe_le_coe]
    linarith
  | none =>
    rw [hvalue, hx] at h
    by_cases hneg : x < 0
    · simp only [hneg, Bool.false_eq_true, if_true, if_false] at h
      omega
    · rw [if_neg hneg, WithBot.coe_le_coe]
      exact le_top

theorem le_whole_of_truncateIndex_lt (hx : isNaN x = false) (h : truncateIndex x < n) : x ≤ ofInt n.toInt := by
  rw [Int32.lt_iff_toInt_lt, toInt_truncateIndex, toIntWithin] at h
  rw [le_iff_rank_le hx (isNaN_whole n), rank_whole, rank]
  have hupper := n.toInt_lt
  have hmax : Int32.maxValue.toInt = 2 ^ 31 - 1 := rfl
  cases hvalue : toRat? x with
  | some q =>
    rw [hvalue] at h
    have hn : truncate q + 1 ≤ n.toInt := by
      simp only at h
      omega
    have hle : (truncate q : ℚ) + 1 ≤ n.toInt := by exact_mod_cast hn
    have hq := sub_one_lt_truncate q
    rw [WithBot.coe_le_coe, WithTop.coe_le_coe]
    linarith
  | none =>
    rw [hvalue, hx] at h
    by_cases hneg : x < 0
    · rw [if_pos hneg]
      exact bot_le
    · simp only [hneg, Bool.false_eq_true, if_false] at h
      omega

/-! ### What each operation keeps -/

variable {s : IndexRange α}

theorem Coherent.of_shadowsOrdered (hlower : r.min = truncateIndex r.minShadow)
    (hupper : r.max = truncateIndex r.maxShadow) (hr : r.HasNumbers) (h : r.ShadowsOrdered) : r.Coherent :=
  ⟨hlower, hupper, by rw [hlower, hupper]; exact truncateIndex_mono hr.lower hr.upper h⟩

/-- Shadows on the wrong sides round to the same whole number. -/
theorem Coherent.min_eq_max (h : r.Coherent) (hr : r.HasNumbers) (hcrossed : ¬ r.ShadowsOrdered) : r.min = r.max := by
  have hle : r.maxShadow ≤ r.minShadow :=
    (not_lt_iff_le hr.lower hr.upper).1 fun hlt => hcrossed (Scalar.le_of_lt hr.lower hr.upper hlt)
  refine Int32.le_antisymm h.ordered ?_
  rw [h.lower, h.upper]
  exact truncateIndex_mono hr.upper hr.lower hle

theorem coherent_whole {min max : Int32} (h : min ≤ max) :
    let r : IndexRange α := ⟨min, max, ofInt min.toInt, ofInt max.toInt⟩
    r.Coherent ∧ r.ShadowsOrdered :=
  ⟨⟨(truncateIndex_whole min).symm, (truncateIndex_whole max).symm, h⟩, whole_le_whole h⟩

theorem coherent_new (min max : Int32) :
    (new min max : IndexRange α).Coherent ∧ (new min max : IndexRange α).ShadowsOrdered := by
  by_cases h : max < min
  · rw [new_of_lt h]
    exact coherent_whole (Int32.le_of_lt h)
  · rw [new_of_le (Int32.not_lt.1 h)]
    exact coherent_whole (Int32.not_lt.1 h)

theorem coherent_ofPrecise {min max : α} (h : (ofPrecise min max).HasNumbers) :
    (ofPrecise min max).Coherent ∧ (ofPrecise min max).ShadowsOrdered := by
  have hordered : (ofPrecise min max).ShadowsOrdered := by
    by_cases hlt : max < min
    · simp only [ofPrecise, if_pos hlt] at h ⊢
      exact Scalar.le_of_lt h.lower h.upper hlt
    · simp only [ofPrecise, if_neg hlt] at h ⊢
      exact (not_lt_iff_le h.upper h.lower).1 hlt
  exact ⟨.of_shadowsOrdered rfl rfl h hordered, hordered⟩

theorem coherent_withMinMax {min max : α} {limit : Option (IndexRange α)} (h : (withMinMax min max limit).HasNumbers) :
    (withMinMax min max limit).Coherent ∧ (withMinMax min max limit).ShadowsOrdered := by
  cases limit with
  | none => exact coherent_ofPrecise h
  | some limit => exact coherent_ofPrecise h

theorem coherent_growBy {minFraction maxFraction : α} (h : (r.growBy minFraction maxFraction).HasNumbers) :
    (r.growBy minFraction maxFraction).Coherent ∧ (r.growBy minFraction maxFraction).ShadowsOrdered := by
  rw [growBy] at h ⊢
  split
  · next min max hgrown =>
    rw [hgrown] at h
    exact coherent_ofPrecise h
  · exact coherent_new (-1) 1

/-- The lower bound lands on the whole upper bound, whose shadow lies below it. -/
def CrossesBelow (r : IndexRange α) (min : Int32) : Prop := min = r.max ∧ r.maxShadow < ofInt min.toInt

/-- The upper bound lands on the whole lower bound, whose shadow lies above it. -/
def CrossesAbove (r : IndexRange α) (max : Int32) : Prop := max = r.min ∧ ofInt max.toInt < r.minShadow

theorem coherent_setMin (h : r.Coherent) (hr : r.HasNumbers) (min : Int32) :
    (r.setMin min).Coherent ∧ ((r.setMin min).ShadowsOrdered ↔ ¬ r.CrossesBelow min) := by
  by_cases hmin : r.max < min
  · rw [setMin_of_lt h hmin]
    obtain ⟨hcoherent, hordered⟩ := coherent_new (α := α) min r.max
    exact ⟨hcoherent, iff_of_true hordered fun hcross => Int32.ne_of_lt hmin hcross.1.symm⟩
  · have hle := Int32.not_lt.1 hmin
    rw [setMin_of_le h hle]
    refine ⟨⟨(truncateIndex_whole min).symm, h.upper, hle⟩, ?_⟩
    rw [ShadowsOrdered, CrossesBelow]
    by_cases heq : min = r.max
    · rw [← not_lt_iff_le hr.upper (isNaN_whole min)]
      simp [heq]
    · have hlt : min < truncateIndex r.maxShadow := h.upper ▸ Int32.lt_of_le_of_ne hle heq
      exact iff_of_true (whole_le_of_lt_truncateIndex hr.upper hlt) fun hcross => heq hcross.1

theorem coherent_setMax (h : r.Coherent) (hr : r.HasNumbers) (max : Int32) :
    (r.setMax max).Coherent ∧ ((r.setMax max).ShadowsOrdered ↔ ¬ r.CrossesAbove max) := by
  by_cases hmax : max < r.min
  · rw [setMax_of_lt h hmax]
    obtain ⟨hcoherent, hordered⟩ := coherent_new (α := α) r.min max
    exact ⟨hcoherent, iff_of_true hordered fun hcross => Int32.ne_of_lt hmax hcross.1⟩
  · have hle := Int32.not_lt.1 hmax
    rw [setMax_of_le h hle]
    refine ⟨⟨h.lower, (truncateIndex_whole max).symm, hle⟩, ?_⟩
    rw [ShadowsOrdered, CrossesAbove]
    by_cases heq : max = r.min
    · rw [← not_lt_iff_le (isNaN_whole max) hr.lower]
      simp [heq]
    · have hlt : truncateIndex r.minShadow < max := h.lower ▸ Int32.lt_of_le_of_ne hle (Ne.symm heq)
      exact iff_of_true (le_whole_of_truncateIndex_lt hr.lower hlt) fun hcross => heq hcross.1

theorem coherent_clipTo (h : r.Coherent) (hr : r.HasNumbers) (hs : s.Coherent) (mode : ClipMode) :
    (r.clipTo s mode).Coherent ∧ (s.ShadowsOrdered → (r.clipTo s mode).ShadowsOrdered) := by
  rw [clipTo]
  set r₁ := if mode.clipsMin ∧ r.minShadow < s.canonicalMin then { r with min := s.min, minShadow := s.canonicalMin }
    else r with hr₁
  set r₂ := if mode.clipsMax ∧ s.canonicalMax < r₁.maxShadow then
    { r₁ with max := s.max, maxShadow := s.canonicalMax } else r₁ with hr₂
  have hkept₁ : r₁.HasNumbers ∧ r₁.min = truncateIndex r₁.minShadow ∧ r₁.max = truncateIndex r₁.maxShadow := by
    rw [hr₁]
    split
    · exact ⟨⟨isNaN_whole s.min, hr.upper⟩, (truncateIndex_whole s.min).symm, h.upper⟩
    · exact ⟨hr, h.lower, h.upper⟩
  have hkept₂ : r₂.HasNumbers ∧ r₂.min = truncateIndex r₂.minShadow ∧ r₂.max = truncateIndex r₂.maxShadow := by
    rw [hr₂]
    split
    · exact ⟨⟨hkept₁.1.lower, isNaN_whole s.max⟩, hkept₁.2.1, (truncateIndex_whole s.max).symm⟩
    · exact hkept₁
  obtain ⟨hnumbers, hlower, hupper⟩ := hkept₂
  split
  · exact ⟨hs, id⟩
  · next hinside =>
    have hordered : r₂.ShadowsOrdered := (not_lt_iff_le hnumbers.upper hnumbers.lower).1 hinside
    exact ⟨.of_shadowsOrdered hlower hupper hnumbers hordered, fun _ => hordered⟩

theorem coherent_union (h : r.Coherent) (hr : r.HasNumbers) (hs : s.Coherent) (hs' : s.HasNumbers) :
    (r.union s).Coherent ∧ (r.ShadowsOrdered → s.ShadowsOrdered → (r.union s).ShadowsOrdered) := by
  rw [union]
  split
  · exact ⟨h, fun hordered _ => hordered⟩
  split
  · exact ⟨hs, fun _ hordered => hordered⟩
  set low := if s.minShadow < r.minShadow then s else r with hlow
  set high := if r.maxShadow < s.maxShadow then s else r with hhigh
  have hlower : low.min = truncateIndex low.minShadow ∧ isNaN low.minShadow = false ∧ low.minShadow ≤ r.minShadow := by
    rw [hlow]
    split
    · next hlt => exact ⟨hs.lower, hs'.lower, Scalar.le_of_lt hs'.lower hr.lower hlt⟩
    · exact ⟨h.lower, hr.lower, Scalar.le_rfl hr.lower⟩
  have hupper : high.max = truncateIndex high.maxShadow ∧ isNaN high.maxShadow = false ∧ r.maxShadow ≤ high.maxShadow := by
    rw [hhigh]
    split
    · next hlt => exact ⟨hs.upper, hs'.upper, Scalar.le_of_lt hr.upper hs'.upper hlt⟩
    · exact ⟨h.upper, hr.upper, Scalar.le_rfl hr.upper⟩
  refine ⟨⟨hlower.1, hupper.1, ?_⟩, fun hordered _ => ?_⟩
  · calc low.min = truncateIndex low.minShadow := hlower.1
      _ ≤ truncateIndex r.minShadow := truncateIndex_mono hlower.2.1 hr.lower hlower.2.2
      _ = r.min := h.lower.symm
      _ ≤ r.max := h.ordered
      _ = truncateIndex r.maxShadow := h.upper
      _ ≤ truncateIndex high.maxShadow := truncateIndex_mono hr.upper hupper.2.1 hupper.2.2
      _ = high.max := hupper.1.symm
  · exact Scalar.le_trans hlower.2.1 hr.lower hupper.2.1 hlower.2.2
      (Scalar.le_trans hr.lower hr.upper hupper.2.1 hordered hupper.2.2)

end IndexRange

/-! ### Ranges however they are made -/

/-- How an index range is made from others; writing both whole bounds drops the range they are written to. -/
inductive IndexBuild (α : Type) where
  | new (min max : Int32)
  | ofPrecise (min max : α)
  | undefined
  | set (b : IndexBuild α) (min max : Int32)
  | setMin (b : IndexBuild α) (min : Int32)
  | setMax (b : IndexBuild α) (max : Int32)
  | withMinMax (b : IndexBuild α) (min max : α)
  | withMinMaxIn (b : IndexBuild α) (min max : α) (limit : IndexBuild α)
  | growBy (b : IndexBuild α) (minFraction maxFraction : α)
  | clipTo (b maximum : IndexBuild α) (mode : ClipMode)
  | union (b other : IndexBuild α)
  | translate (b : IndexBuild α) (delta : α)

namespace IndexBuild

/-- The build itself and all that it is made from. -/
def parts {α : Type} : IndexBuild α → List (IndexBuild α)
  | new min max => [new min max]
  | ofPrecise min max => [ofPrecise min max]
  | undefined => [undefined]
  | set b min max => set b min max :: b.parts
  | setMin b min => setMin b min :: b.parts
  | setMax b max => setMax b max :: b.parts
  | withMinMax b min max => withMinMax b min max :: b.parts
  | withMinMaxIn b min max limit => withMinMaxIn b min max limit :: (b.parts ++ limit.parts)
  | growBy b minFraction maxFraction => growBy b minFraction maxFraction :: b.parts
  | clipTo b maximum mode => clipTo b maximum mode :: (b.parts ++ maximum.parts)
  | union b other => union b other :: (b.parts ++ other.parts)
  | translate b delta => translate b delta :: b.parts

theorem mem_parts_self {α : Type} (b : IndexBuild α) : b ∈ b.parts := by
  cases b <;> exact List.mem_cons_self

section

variable {α : Type} [Scalar α] [Decimals α]

def range : IndexBuild α → IndexRange α
  | new min max => .new min max
  | ofPrecise min max => .ofPrecise min max
  | undefined => .undefined
  | set _ min max => .new min max
  | setMin b min => b.range.setMin min
  | setMax b max => b.range.setMax max
  | withMinMax _ min max => .withMinMax min max none
  | withMinMaxIn _ min max limit => .withMinMax min max (some limit.range)
  | growBy b minFraction maxFraction => b.range.growBy minFraction maxFraction
  | clipTo b maximum mode => b.range.clipTo maximum.range mode
  | union b other => b.range.union other.range
  | translate b delta => ((Range.index b.range).translate delta).toIndex

/-- A typed write of a whole bound that meets the other one across its shadow. -/
def CrossesShadow : IndexBuild α → Prop
  | setMin b min => b.range.CrossesBelow min
  | setMax b max => b.range.CrossesAbove max
  | _ => False

instance : (b : IndexBuild α) → Decidable b.CrossesShadow
  | setMin b min => inferInstanceAs (Decidable (min = b.range.max ∧ b.range.maxShadow < ofInt min.toInt))
  | setMax b max => inferInstanceAs (Decidable (max = b.range.min ∧ ofInt max.toInt < b.range.minShadow))
  | new _ _ | ofPrecise _ _ | undefined | set _ _ _ | withMinMax _ _ _ | withMinMaxIn _ _ _ _ | growBy _ _ _
  | clipTo _ _ _ | union _ _ | translate _ _ => inferInstanceAs (Decidable False)

/-- The whole bounds are in order and round their shadows; and all shadows are in order unless a typed write crossed
one. -/
structure Sound (b : IndexBuild α) : Prop where
  coherent : b.range.Coherent
  ordered : (∀ a ∈ b.parts, a.range.ShadowsOrdered) ↔ ∀ a ∈ b.parts, ¬ a.CrossesShadow

theorem Sound.ofParts {b : IndexBuild α} {rest : List (IndexBuild α)} (hparts : b.parts = b :: rest)
    (hcoherent : b.range.Coherent)
    (hrest : (∀ a ∈ rest, a.range.ShadowsOrdered) ↔ ∀ a ∈ rest, ¬ a.CrossesShadow)
    (hself : (∀ a ∈ rest, a.range.ShadowsOrdered) → (b.range.ShadowsOrdered ↔ ¬ b.CrossesShadow)) : b.Sound := by
  refine ⟨hcoherent, ?_⟩
  rw [hparts, List.forall_mem_cons, List.forall_mem_cons, ← hrest]
  exact and_congr_left hself

/-- A build from numbers alone, or one that no shadow of its parts enters. -/
theorem Sound.ofOrdered {b : IndexBuild α} {rest : List (IndexBuild α)} (hparts : b.parts = b :: rest)
    (hrange : b.range.Coherent ∧ b.range.ShadowsOrdered) (hwrite : ¬ b.CrossesShadow)
    (hrest : (∀ a ∈ rest, a.range.ShadowsOrdered) ↔ ∀ a ∈ rest, ¬ a.CrossesShadow) : b.Sound :=
  .ofParts hparts hrange.1 hrest fun _ => iff_of_true hrange.2 hwrite

theorem ordered_append {bs cs : List (IndexBuild α)}
    (hbs : (∀ a ∈ bs, a.range.ShadowsOrdered) ↔ ∀ a ∈ bs, ¬ a.CrossesShadow)
    (hcs : (∀ a ∈ cs, a.range.ShadowsOrdered) ↔ ∀ a ∈ cs, ¬ a.CrossesShadow) :
    (∀ a ∈ bs ++ cs, a.range.ShadowsOrdered) ↔ ∀ a ∈ bs ++ cs, ¬ a.CrossesShadow := by
  rw [List.forall_mem_append, List.forall_mem_append, hbs, hcs]

theorem ordered_nil : (∀ a ∈ ([] : List (IndexBuild α)), a.range.ShadowsOrdered) ↔
    ∀ a ∈ ([] : List (IndexBuild α)), ¬ a.CrossesShadow :=
  iff_of_true (fun _ h => absurd h List.not_mem_nil) (fun _ h => absurd h List.not_mem_nil)

variable [LawfulScalar α]

theorem sound (b : IndexBuild α) (hnumbers : ∀ a ∈ b.parts, a.range.HasNumbers) : b.Sound := by
  have hself := hnumbers b b.mem_parts_self
  -- The last step decides: a typed write may cross a shadow, clipping and union keep the order of what they are given,
  -- and every other step orders its bounds anew.
  induction b with
  | new min max => exact .ofOrdered rfl (IndexRange.coherent_new min max) id ordered_nil
  | ofPrecise min max => exact .ofOrdered rfl (IndexRange.coherent_ofPrecise hself) id ordered_nil
  | undefined => exact .ofOrdered rfl (IndexRange.coherent_new Int32.minValue Int32.maxValue) id ordered_nil
  | set b min max ih =>
    rw [parts, List.forall_mem_cons] at hnumbers
    have hb := ih hnumbers.2 (hnumbers.2 b b.mem_parts_self)
    exact .ofOrdered rfl (IndexRange.coherent_new min max) id hb.ordered
  | setMin b min ih =>
    rw [parts, List.forall_mem_cons] at hnumbers
    have hb := ih hnumbers.2 (hnumbers.2 b b.mem_parts_self)
    have hwrite := IndexRange.coherent_setMin hb.coherent (hnumbers.2 b b.mem_parts_self) min
    exact .ofParts rfl hwrite.1 hb.ordered fun _ => hwrite.2
  | setMax b max ih =>
    rw [parts, List.forall_mem_cons] at hnumbers
    have hb := ih hnumbers.2 (hnumbers.2 b b.mem_parts_self)
    have hwrite := IndexRange.coherent_setMax hb.coherent (hnumbers.2 b b.mem_parts_self) max
    exact .ofParts rfl hwrite.1 hb.ordered fun _ => hwrite.2
  | withMinMax b min max ih =>
    rw [parts, List.forall_mem_cons] at hnumbers
    have hb := ih hnumbers.2 (hnumbers.2 b b.mem_parts_self)
    exact .ofOrdered rfl (IndexRange.coherent_withMinMax hself) id hb.ordered
  | withMinMaxIn b min max limit ihb ihlimit =>
    rw [parts, List.forall_mem_cons, List.forall_mem_append] at hnumbers
    have hb := ihb hnumbers.2.1 (hnumbers.2.1 b b.mem_parts_self)
    have hlimit := ihlimit hnumbers.2.2 (hnumbers.2.2 limit limit.mem_parts_self)
    exact .ofOrdered rfl (IndexRange.coherent_withMinMax hself) id (ordered_append hb.ordered hlimit.ordered)
  | growBy b minFraction maxFraction ih =>
    rw [parts, List.forall_mem_cons] at hnumbers
    have hb := ih hnumbers.2 (hnumbers.2 b b.mem_parts_self)
    exact .ofOrdered rfl (IndexRange.coherent_growBy hself) id hb.ordered
  | clipTo b maximum mode ihb ihmaximum =>
    rw [parts, List.forall_mem_cons, List.forall_mem_append] at hnumbers
    have hb' := hnumbers.2.1 b b.mem_parts_self
    have hb := ihb hnumbers.2.1 hb'
    have hmaximum := ihmaximum hnumbers.2.2 (hnumbers.2.2 maximum maximum.mem_parts_self)
    have hclip := IndexRange.coherent_clipTo hb.coherent hb' hmaximum.coherent mode
    refine .ofParts rfl hclip.1 (ordered_append hb.ordered hmaximum.ordered) fun hordered => ?_
    exact iff_of_true (hclip.2 (hordered maximum (List.mem_append_right _ maximum.mem_parts_self))) id
  | union b other ihb ihother =>
    rw [parts, List.forall_mem_cons, List.forall_mem_append] at hnumbers
    have hb' := hnumbers.2.1 b b.mem_parts_self
    have hother' := hnumbers.2.2 other other.mem_parts_self
    have hb := ihb hnumbers.2.1 hb'
    have hother := ihother hnumbers.2.2 hother'
    have hunion := IndexRange.coherent_union hb.coherent hb' hother.coherent hother'
    refine .ofParts rfl hunion.1 (ordered_append hb.ordered hother.ordered) fun hordered => ?_
    exact iff_of_true (hunion.2 (hordered b (List.mem_append_left _ b.mem_parts_self))
      (hordered other (List.mem_append_right _ other.mem_parts_self))) id
  | translate b delta ih =>
    rw [parts, List.forall_mem_cons] at hnumbers
    have hb := ih hnumbers.2 (hnumbers.2 b b.mem_parts_self)
    exact .ofOrdered rfl (IndexRange.coherent_ofPrecise hself) id hb.ordered

end

/-- As long as no shadow is NaN, the whole bounds are in order and each rounds its shadow toward zero. The shadows of a
range and of all it is made from are in order exactly when no typed write among them crosses a shadow, and shadows out of
order round to one whole number. -/
theorem bounds_follow_shadows [Decimals Float] {b : IndexBuild Float} (hnumbers : ∀ a ∈ b.parts, a.range.HasNumbers) :
    b.range.min ≤ b.range.max ∧ b.range.min = IndexRange.truncateIndex b.range.minShadow ∧
      b.range.max = IndexRange.truncateIndex b.range.maxShadow ∧
      ((∀ a ∈ b.parts, a.range.minShadow ≤ a.range.maxShadow) ↔ ∀ a ∈ b.parts, ¬ a.CrossesShadow) ∧
      (¬ b.range.minShadow ≤ b.range.maxShadow → b.range.min = b.range.max) := by
  have hsound := b.sound hnumbers
  have hself := hnumbers b b.mem_parts_self
  exact ⟨hsound.coherent.ordered, hsound.coherent.lower, hsound.coherent.upper, hsound.ordered,
    hsound.coherent.min_eq_max hself⟩

theorem bounds_follow_shadows_growBy :
    let b : IndexBuild Float := .growBy (.setMax (.ofPrecise (-2.5) 10) 6) 0.25 0
    (∀ a ∈ b.parts, a.range.HasNumbers) ∧ b.range.min = -4 ∧ b.range.min = IndexRange.truncateIndex b.range.minShadow ∧
      ∀ a ∈ b.parts, a.range.minShadow ≤ a.range.maxShadow := by
  intro b
  have hnumbers : ∀ a ∈ b.parts, a.range.HasNumbers := by decide +kernel
  obtain ⟨-, hlower, -, hordered, -⟩ := bounds_follow_shadows hnumbers
  exact ⟨hnumbers, by decide +kernel, hlower, hordered.2 (by decide +kernel)⟩

/-- Writing 2 over the upper bound of `[2.5, 10]` leaves the shadows at 2.5 and 2. -/
theorem setMax_crosses_shadow :
    let b : IndexBuild Float := .setMax (.ofPrecise 2.5 10) 2
    (∀ a ∈ b.parts, a.range.HasNumbers) ∧ ¬ b.range.minShadow ≤ b.range.maxShadow := by
  decide +kernel

end IndexBuild

end ChartGestures
