import ChartGestures.Number.ExactDecimal
import ChartGestures.Proofs.Range.IndexClipping
import ChartGestures.Proofs.Range.UnsetBounds

/-!
# Joining as the least cover

Joining takes the outer bound of each side. So the join of two ranges contains both and lies in every range that contains
both, and it matters neither in which order ranges are joined nor how they are grouped. Index ranges compare their
shadows and take the whole bounds along, which comes to the same as rounding the joined shadows. A range that is not
defined adds nothing.
-/

namespace ChartGestures

open Scalar

/-- By `within`, the least one that has two within. -/
structure IsLeastAround {R : Type} (within : R → R → Prop) (r s u : R) : Prop where
  left : within r u
  right : within s u
  least (t : R) : within r t → within s t → within u t

/-! ### Intervals -/

namespace Interval

section Bounds

variable {α V : Type} {d : Domain α V} {r s t : Interval d} {a b : V}

/-- The outer bound of each side. -/
def joined (r s : Interval d) : Interval d := ⟨d.lesser r.min s.min, d.greater r.max s.max⟩

theorem union_of_defined (hr : r.isDefined) (hs : s.isDefined) : r.union s = r.joined s := by
  rw [union, hr, hs]
  rfl

theorem lesser_eq_or (a b : V) : d.lesser a b = a ∨ d.lesser a b = b := by
  rw [Domain.lesser]
  split
  · exact .inr rfl
  · exact .inl rfl

theorem greater_eq_or (a b : V) : d.greater a b = a ∨ d.greater a b = b := by
  rw [Domain.greater]
  split
  · exact .inr rfl
  · exact .inl rfl

/-- What holds of both lower and of both upper bounds holds of those of the join. -/
theorem joined_of_both (low high : V → Prop) (hr : low r.min ∧ high r.max) (hs : low s.min ∧ high s.max) :
    low (r.joined s).min ∧ high (r.joined s).max := by
  rw [joined]
  constructor
  · rcases lesser_eq_or (d := d) r.min s.min with h | h
    · rw [h]
      exact hr.1
    · rw [h]
      exact hs.1
  · rcases greater_eq_or (d := d) r.max s.max with h | h
    · rw [h]
      exact hr.2
    · rw [h]
      exact hs.2

theorem hasNumbers_joined (hr : r.HasNumbers) (hs : s.HasNumbers) : (r.joined s).HasNumbers :=
  joined_of_both d.IsNumber d.IsNumber hr hs

theorem isDefined_iff : r.isDefined ↔ d.isSentinel r.min = false ∧ d.isSentinel r.max = false := by
  rw [isDefined, Bool.and_eq_true, Bool.not_eq_true', Bool.not_eq_true']

theorem isDefined_joined (hr : r.isDefined) (hs : s.isDefined) : (r.joined s).isDefined :=
  isDefined_iff.2 (joined_of_both (d.isSentinel · = false) (d.isSentinel · = false) (isDefined_iff.1 hr)
    (isDefined_iff.1 hs))

variable [IsStrictOrder V fun a b => d.lt a b]

theorem joined_self (r : Interval d) : r.joined r = r := by
  rw [joined, Domain.lesser, Domain.greater, if_neg (irrefl _), if_neg (irrefl _)]

variable [d.Compares]

open Domain.Compares

/-- Numbers are equal that lie below the same values. -/
theorem eq_of_lt_iff (ha : d.IsNumber a) (hb : d.IsNumber b) (h : ∀ v, d.lt a v ↔ d.lt b v) : d.eq a b :=
  (eq_iff ha hb).2 ⟨fun hlt => irrefl b ((h b).1 hlt), fun hlt => irrefl a ((h a).2 hlt)⟩

/-- Numbers are equal that lie above the same values. -/
theorem eq_of_iff_lt (ha : d.IsNumber a) (hb : d.IsNumber b) (h : ∀ v, d.lt v a ↔ d.lt v b) : d.eq a b :=
  (eq_iff ha hb).2 ⟨fun hlt => irrefl a ((h a).2 hlt), fun hlt => irrefl b ((h b).1 hlt)⟩

theorem joined_comm (hr : r.HasNumbers) (hs : s.HasNumbers) : (r.joined s).eq (s.joined r) := by
  obtain ⟨hmin, hmax⟩ := hasNumbers_joined hr hs
  obtain ⟨hmin', hmax'⟩ := hasNumbers_joined hs hr
  refine Bool.and_eq_true_iff.2 ⟨eq_of_lt_iff hmin hmin' fun v => ?_, eq_of_iff_lt hmax hmax' fun v => ?_⟩
  · rw [joined, joined, lesser_lt_iff hr.1, lesser_lt_iff hs.1, or_comm]
  · rw [joined, joined, lt_greater_iff hr.2, lt_greater_iff hs.2, or_comm]

theorem joined_assoc (hr : r.HasNumbers) (hs : s.HasNumbers) (ht : t.HasNumbers) :
    ((r.joined s).joined t).eq (r.joined (s.joined t)) := by
  have hrs := hasNumbers_joined hr hs
  obtain ⟨hmin, hmax⟩ := hasNumbers_joined hrs ht
  obtain ⟨hmin', hmax'⟩ := hasNumbers_joined hr (hasNumbers_joined hs ht)
  refine Bool.and_eq_true_iff.2 ⟨eq_of_lt_iff hmin hmin' fun v => ?_, eq_of_iff_lt hmax hmax' fun v => ?_⟩
  · calc d.lt (d.lesser (r.joined s).min t.min) v
        ↔ (d.lt r.min v ∨ d.lt s.min v) ∨ d.lt t.min v := by rw [lesser_lt_iff hrs.1, joined, lesser_lt_iff hr.1]
      _ ↔ d.lt r.min v ∨ d.lt s.min v ∨ d.lt t.min v := or_assoc
      _ ↔ d.lt (d.lesser r.min (s.joined t).min) v := by rw [lesser_lt_iff hr.1, joined, lesser_lt_iff hs.1]
  · calc d.lt v (d.greater (r.joined s).max t.max)
        ↔ (d.lt v r.max ∨ d.lt v s.max) ∨ d.lt v t.max := by rw [lt_greater_iff hrs.2, joined, lt_greater_iff hr.2]
      _ ↔ d.lt v r.max ∨ d.lt v s.max ∨ d.lt v t.max := or_assoc
      _ ↔ d.lt v (d.greater r.max (s.joined t).max) := by rw [lt_greater_iff hr.2, joined, lt_greater_iff hs.2]

end Bounds

variable {V : Type} {d : Domain Float V} {r s t : Interval d}

theorem joined_isWithin (hr : r.IsWithin t) (hs : s.IsWithin t) : (r.joined s).IsWithin t :=
  joined_of_both (t.contains ·) (t.contains ·) hr hs

variable [IsStrictOrder V fun a b => d.lt a b] [d.Compares]

theorem isLeastAround_joined (hr : r.HasNumbers) (hs : s.HasNumbers) (hr' : r.isInverted = false)
    (hs' : s.isInverted = false) : IsLeastAround IsWithin r s (r.joined s) where
  left := isWithin_of_not_lt hr (hasNumbers_joined hr hs) hr'
    (fun h => irrefl _ ((lesser_lt_iff hr.1 _).2 (.inl h))) fun h => irrefl _ ((lt_greater_iff hr.2 _).2 (.inl h))
  right := isWithin_of_not_lt hs (hasNumbers_joined hr hs) hs'
    (fun h => irrefl _ ((lesser_lt_iff hr.1 _).2 (.inr h))) fun h => irrefl _ ((lt_greater_iff hr.2 _).2 (.inr h))
  least _ hrt hst := joined_isWithin hrt hst

end Interval

/-! ### Index ranges -/

namespace IndexRange

variable {r s t : IndexRange Float}

/-- What holds of both lower and of both upper bounds, with their shadows, holds of those of the join. -/
theorem union_of_both (low high : Int32 → Float → Prop) (hr : low r.min r.minShadow ∧ high r.max r.maxShadow)
    (hs : low s.min s.minShadow ∧ high s.max s.maxShadow) :
    low (r.union s).min (r.union s).minShadow ∧ high (r.union s).max (r.union s).maxShadow := by
  rw [union]
  split
  · exact hr
  split
  · exact hs
  constructor
  · dsimp only
    split
    · exact hs.1
    · exact hr.1
  · dsimp only
    split
    · exact hs.2
    · exact hr.2

theorem hasNumbers_union (hr : r.HasNumbers) (hs : s.HasNumbers) : (r.union s).HasNumbers :=
  hasNumbers_iff.2 (union_of_both (fun _ x => isNaN x = false) (fun _ x => isNaN x = false) (hasNumbers_iff.1 hr)
    (hasNumbers_iff.1 hs))

theorem isRegular_union (hr : r.IsRegular) (hs : s.IsRegular) : (r.union s).IsRegular := by
  obtain ⟨hcoherent, hordered⟩ := coherent_union hr.coherent hr.numbers hs.coherent hs.numbers
  exact ⟨hcoherent, hasNumbers_union hr.numbers hs.numbers, hordered hr.ordered hs.ordered⟩

theorem isDefined_iff : r.isDefined ↔
    (r.min == Int32.minValue || r.min == Int32.maxValue) = false ∧
      (r.max == Int32.minValue || r.max == Int32.maxValue) = false := by
  rw [isDefined, Bool.and_eq_true, Bool.not_eq_true', Bool.not_eq_true']

theorem isDefined_union (hr : r.isDefined) (hs : s.isDefined) : (r.union s).isDefined :=
  isDefined_iff.2 (union_of_both (fun n _ => (n == Int32.minValue || n == Int32.maxValue) = false)
    (fun n _ => (n == Int32.minValue || n == Int32.maxValue) = false) (isDefined_iff.1 hr) (isDefined_iff.1 hs))

/-! ### Shadows -/

/-- The shadows, as bounds of numbers. -/
def shadows (r : IndexRange Float) : Interval (Domain.double (α := Float)) := ⟨r.minShadow, r.maxShadow⟩

theorem shadows_union (hr : r.isDefined) (hs : s.isDefined) : (r.union s).shadows = r.shadows.joined s.shadows := by
  have hmin : (r.union s).minShadow = Domain.double.lesser r.minShadow s.minShadow := by
    simp only [union, hr, hs, Domain.lesser, Domain.double, apply_ite minShadow]
    simp
  have hmax : (r.union s).maxShadow = Domain.double.greater r.maxShadow s.maxShadow := by
    simp only [union, hr, hs, Domain.greater, Domain.double, apply_ite maxShadow]
    simp
  rw [shadows, hmin, hmax]
  rfl

theorem HasNumbers.shadows (hr : r.HasNumbers) : r.shadows.HasNumbers := by
  have hnumber : ∀ x : Float, isNaN x = false → Domain.double.IsNumber x := fun x hx => by
    rw [isNaN, bne, Bool.not_eq_false'] at hx
    exact hx
  exact ⟨hnumber _ hr.lower, hnumber _ hr.upper⟩

theorem IsRegular.isInverted_shadows (hr : r.IsRegular) : r.shadows.isInverted = false :=
  decide_eq_false ((not_lt_iff_le hr.numbers.upper hr.numbers.lower).2 hr.ordered)

theorem truncateIndex_congr {x y : Float} (h : Domain.double.eq x y) : truncateIndex x = truncateIndex y := by
  obtain ⟨hx, hy⟩ := Binary.isNaN_of_beq h
  have hrank : rank x = rank y := (Domain.Placed.eq_iff (d := Domain.double) hx hy).1 h
  exact Int32.le_antisymm (truncateIndex_mono hx hy ((le_iff_rank_le hx hy).2 hrank.le))
    (truncateIndex_mono hy hx ((le_iff_rank_le hy hx).2 hrank.ge))

/-- The shadows of a range that rounds them decide what it equals. -/
theorem eq_of_shadows (hr : r.Coherent) (hs : s.Coherent) (h : r.shadows.eq s.shadows) : r.eq s := by
  obtain ⟨hmin, hmax⟩ := Bool.and_eq_true_iff.1 h
  have hlower : r.min = s.min := by
    rw [hr.lower, hs.lower]
    exact truncateIndex_congr hmin
  have hupper : r.max = s.max := by
    rw [hr.upper, hs.upper]
    exact truncateIndex_congr hmax
  rw [eq, hlower, hupper, beq_self_eq_true, beq_self_eq_true]
  exact h

theorem union_comm (hr : r.IsRegular) (hs : s.IsRegular) (hr' : r.isDefined) (hs' : s.isDefined) :
    (r.union s).eq (s.union r) := by
  refine eq_of_shadows (isRegular_union hr hs).coherent (isRegular_union hs hr).coherent ?_
  rw [shadows_union hr' hs', shadows_union hs' hr']
  exact Interval.joined_comm hr.numbers.shadows hs.numbers.shadows

theorem union_assoc (hr : r.IsRegular) (hs : s.IsRegular) (ht : t.IsRegular) (hr' : r.isDefined) (hs' : s.isDefined)
    (ht' : t.isDefined) : ((r.union s).union t).eq (r.union (s.union t)) := by
  refine eq_of_shadows (isRegular_union (isRegular_union hr hs) ht).coherent
    (isRegular_union hr (isRegular_union hs ht)).coherent ?_
  rw [shadows_union (isDefined_union hr' hs') ht', shadows_union hr' hs', shadows_union hr' (isDefined_union hs' ht'),
    shadows_union hs' ht']
  exact Interval.joined_assoc hr.numbers.shadows hs.numbers.shadows ht.numbers.shadows

theorem union_self (hr : r.IsRegular) (hr' : r.isDefined) : (r.union r).eq r := by
  refine eq_of_shadows (isRegular_union hr hr).coherent hr.coherent ?_
  rw [shadows_union hr' hr', Interval.joined_self]
  exact Bool.and_eq_true_iff.2 hr.numbers.shadows

/-! ### The least index range around two -/

/-- The whole bounds lie in the other range, and the shadows among its shadows. -/
structure IsWithin (r s : IndexRange Float) : Prop where
  whole : s.contains r.min ∧ s.contains r.max
  shadows : r.shadows.IsWithin s.shadows

theorem contains_iff {n : Int32} : r.contains n ↔ r.min ≤ n ∧ n ≤ r.max := by
  rw [contains, Bool.and_eq_true, decide_eq_true_iff, decide_eq_true_iff]

/-- Among regular ranges the shadows decide. -/
theorem IsRegular.isWithin (hr : r.IsRegular) (hs : s.IsRegular) (h : r.shadows.IsWithin s.shadows) : r.IsWithin s := by
  have hlower : s.min ≤ r.min := by
    have hshadow := ((Interval.contains_iff_not_lt hs.numbers.shadows hr.numbers.shadows.1).1 h.1).1
    rw [hs.coherent.lower, hr.coherent.lower]
    exact truncateIndex_mono hs.numbers.lower hr.numbers.lower
      ((not_lt_iff_le hr.numbers.lower hs.numbers.lower).1 fun hlt => hshadow (decide_eq_true hlt))
  have hupper : r.max ≤ s.max := by
    have hshadow := ((Interval.contains_iff_not_lt hs.numbers.shadows hr.numbers.shadows.2).1 h.2).2
    rw [hr.coherent.upper, hs.coherent.upper]
    exact truncateIndex_mono hr.numbers.upper hs.numbers.upper
      ((not_lt_iff_le hs.numbers.upper hr.numbers.upper).1 fun hlt => hshadow (decide_eq_true hlt))
  have hordered : r.min ≤ r.max := hr.coherent.ordered
  exact ⟨⟨contains_iff.2 ⟨hlower, Int32.le_trans hordered hupper⟩,
    contains_iff.2 ⟨Int32.le_trans hlower hordered, hupper⟩⟩, h⟩

theorem isLeastAround_union (hr : r.IsRegular) (hs : s.IsRegular) (hr' : r.isDefined) (hs' : s.isDefined) :
    IsLeastAround IsWithin r s (r.union s) := by
  have hjoin := Interval.isLeastAround_joined hr.numbers.shadows hs.numbers.shadows hr.isInverted_shadows
    hs.isInverted_shadows
  rw [← shadows_union hr' hs'] at hjoin
  have hunion := isRegular_union hr hs
  refine ⟨hr.isWithin hunion hjoin.left, hs.isWithin hunion hjoin.right, fun t hrt hst => ⟨?_, ?_⟩⟩
  · exact union_of_both (fun n _ => t.contains n) (fun n _ => t.contains n) hrt.whole hst.whole
  · exact hjoin.least t.shadows hrt.shadows hst.shadows

end IndexRange

/-! ### Ranges of any kind -/

namespace Range

section

variable [Decimals Float]

/-- Both bounds lie in the other range, which is of the same kind. -/
def IsWithin : Range Float → Range Float → Prop
  | double r, double s => r.IsWithin s
  | float r, float s => r.IsWithin s
  | int32 r, int32 s => r.IsWithin s
  | int64 r, int64 s => r.IsWithin s
  | decimal r, decimal s => r.IsWithin s
  | date r, date s => r.IsWithin s
  | timeSpan r, timeSpan s => r.IsWithin s
  | index r, index s => r.IsWithin s
  | _, _ => False

/-- A defined range with its bounds in order; an index range also rounds its shadows, and they are in order too. -/
def IsSpan : Range Float → Prop
  | index r => r.isDefined ∧ r.IsRegular
  | r => r.isDefined ∧ r.isInverted = false

section Wraps

variable {V : Type} {d : Domain Float V} {wrap : Interval d → Range Float} {r s : Interval d}

/-- A bound that is set is a number. -/
theorem Wraps.isNumber (hwrap : Wraps d wrap) (hkind : d.kind ≠ .decimal) {v : V} (h : d.isSentinel v = false) :
    d.IsNumber v := by
  cases hwrap with
  | double | float =>
    have hnumber : isNaN v = false := Binary.isNaN_of_isFinite (Domain.isFinite_of_not_sentinel h)
    rw [isNaN, bne, Bool.not_eq_false'] at hnumber
    exact hnumber
  | decimal => exact absurd rfl hkind
  | int32 | int64 => exact beq_self_eq_true v
  | date => exact Date.beq_iff.2 ⟨rfl, rfl⟩
  | timeSpan => exact TimeSpan.beq_iff.2 ⟨rfl, rfl⟩

theorem kind_wrap (hwrap : Wraps d wrap) (r : Interval d) : (wrap r).kind = d.kind := by
  cases hwrap <;> rfl

theorem exists_wrap (hwrap : Wraps d wrap) {s : Range Float} (hkind : s.kind = d.kind) : ∃ v, s = wrap v := by
  cases hwrap <;> cases s <;> first | exact ⟨_, rfl⟩ | cases hkind

theorem isSpan_wrap (hwrap : Wraps d wrap) : (wrap r).IsSpan ↔ r.isDefined ∧ r.isInverted = false := by
  cases hwrap <;> exact Iff.rfl

theorem union_wrap (hwrap : Wraps d wrap) : (wrap r).union (wrap s) = wrap (r.union s) := by
  cases hwrap <;> rfl

theorem beq_wrap (hwrap : Wraps d wrap) : (wrap r == wrap s) = r.eq s := by
  cases hwrap <;> rfl

theorem isWithin_wrap (hwrap : Wraps d wrap) : (wrap r).IsWithin (wrap s) ↔ r.IsWithin s := by
  cases hwrap <;> exact Iff.rfl

/-- Only ranges of one kind lie in each other. -/
theorem IsWithin.kind {r s : Range Float} (h : r.IsWithin s) : s.kind = r.kind := by
  cases r <;> cases s <;> first | rfl | exact h.elim

theorem exists_wraps {r : Range Float} (h : r.kind ≠ .index) :
    ∃ (V : Type) (d : Domain Float V) (wrap : Interval d → Range Float) (v : Interval d), Wraps d wrap ∧ r = wrap v := by
  cases r with
  | double v => exact ⟨_, _, _, v, .double, rfl⟩
  | float v => exact ⟨_, _, _, v, .float, rfl⟩
  | int32 v => exact ⟨_, _, _, v, .int32, rfl⟩
  | int64 v => exact ⟨_, _, _, v, .int64, rfl⟩
  | decimal v => exact ⟨_, _, _, v, .decimal, rfl⟩
  | date v => exact ⟨_, _, _, v, .date, rfl⟩
  | timeSpan v => exact ⟨_, _, _, v, .timeSpan, rfl⟩
  | index v => exact absurd rfl h

theorem exists_index {r : Range Float} (h : r.kind = .index) : ∃ v, r = index v := by
  cases r <;> first | exact ⟨_, rfl⟩ | cases h

end Wraps

/-! ### Main result -/

/-- Joining is as in a lattice. -/
structure JoinLaws (r s t : Range Float) : Prop where
  span : (r.union s).IsSpan
  least : IsLeastAround IsWithin r s (r.union s)
  comm : r.union s == s.union r
  assoc : (r.union s).union t == r.union (s.union t)
  self : r.union r == r

theorem joinLaws_wrap {V : Type} {d : Domain Float V} {wrap : Interval d → Range Float} (hwrap : Wraps d wrap)
    (hkind : d.kind ≠ .decimal) {r s t : Interval d} (hr : (wrap r).IsSpan) (hs : (wrap s).IsSpan)
    (ht : (wrap t).IsSpan) : JoinLaws (wrap r) (wrap s) (wrap t) := by
  have := hwrap.isStrictOrder
  have := hwrap.compares hkind
  obtain ⟨hr, hrordered⟩ := (isSpan_wrap hwrap).1 hr
  obtain ⟨hs, hsordered⟩ := (isSpan_wrap hwrap).1 hs
  obtain ⟨ht, -⟩ := (isSpan_wrap hwrap).1 ht
  have hnumbers {v : Interval d} (hv : v.isDefined) : v.HasNumbers :=
    (Interval.isDefined_iff.1 hv).imp (hwrap.isNumber hkind) (hwrap.isNumber hkind)
  have hrs := Interval.isDefined_joined hr hs
  have hst := Interval.isDefined_joined hs ht
  have hjoin := Interval.isLeastAround_joined (hnumbers hr) (hnumbers hs) hrordered hsordered
  refine ⟨?_, ⟨?_, ?_, fun u hru hsu => ?_⟩, ?_, ?_, ?_⟩
  · rw [union_wrap hwrap, isSpan_wrap hwrap]
    refine ⟨?_, Interval.isInverted_union hrordered hsordered⟩
    rw [Interval.union_of_defined hr hs]
    exact hrs
  · rw [union_wrap hwrap, isWithin_wrap hwrap, Interval.union_of_defined hr hs]
    exact hjoin.left
  · rw [union_wrap hwrap, isWithin_wrap hwrap, Interval.union_of_defined hr hs]
    exact hjoin.right
  · obtain ⟨u, rfl⟩ := exists_wrap hwrap (hru.kind.trans (kind_wrap hwrap r))
    rw [isWithin_wrap hwrap] at hru hsu
    rw [union_wrap hwrap, isWithin_wrap hwrap, Interval.union_of_defined hr hs]
    exact hjoin.least u hru hsu
  · rw [union_wrap hwrap, union_wrap hwrap, beq_wrap hwrap, Interval.union_of_defined hr hs,
      Interval.union_of_defined hs hr]
    exact Interval.joined_comm (hnumbers hr) (hnumbers hs)
  · rw [union_wrap hwrap, union_wrap hwrap, union_wrap hwrap, union_wrap hwrap, beq_wrap hwrap,
      Interval.union_of_defined hr hs, Interval.union_of_defined hs ht, Interval.union_of_defined hrs ht,
      Interval.union_of_defined hr hst]
    exact Interval.joined_assoc (hnumbers hr) (hnumbers hs) (hnumbers ht)
  · rw [union_wrap hwrap, beq_wrap hwrap, Interval.union_of_defined hr hr, Interval.joined_self]
    exact Bool.and_eq_true_iff.2 (hnumbers hr)

theorem joinLaws_index {r s t : IndexRange Float} (hr : (index r).IsSpan) (hs : (index s).IsSpan)
    (ht : (index t).IsSpan) : JoinLaws (index r) (index s) (index t) := by
  obtain ⟨hr, hr'⟩ := hr
  obtain ⟨hs, hs'⟩ := hs
  obtain ⟨ht, ht'⟩ := ht
  have hleast := IndexRange.isLeastAround_union hr' hs' hr hs
  refine ⟨⟨IndexRange.isDefined_union hr hs, IndexRange.isRegular_union hr' hs'⟩,
    ⟨hleast.left, hleast.right, fun u hru hsu => ?_⟩, IndexRange.union_comm hr' hs' hr hs,
    IndexRange.union_assoc hr' hs' ht' hr hs ht, IndexRange.union_self hr' hr⟩
  cases u with
  | index u => exact hleast.least u hru hsu
  | _ u => exact hru.elim

theorem not_defined_union {e r : Range Float} (he : e.isDefined = false) (hr : r.isDefined) (hkind : r.kind = e.kind) :
    e.union r = r := by
  by_cases hindex : e.kind = .index
  · obtain ⟨v, rfl⟩ := exists_index hindex
    obtain ⟨w, rfl⟩ := exists_index hkind
    have hunion : v.union w = w := by
      rw [IndexRange.union, show w.isDefined = true from hr, show v.isDefined = false from he]
      rfl
    exact congrArg index hunion
  · obtain ⟨V, d, wrap, v, hwrap, rfl⟩ := exists_wraps hindex
    obtain ⟨w, rfl⟩ := exists_wrap hwrap (hkind.trans (kind_wrap hwrap v))
    rw [isDefined_wrap hwrap] at he hr
    rw [union_wrap hwrap, Interval.union, hr, he]
    rfl

theorem isDefined_of_isSpan {r : Range Float} (h : r.IsSpan) : r.isDefined := by
  cases r <;> exact h.1

/-- The join of two ranges of a kind is the least range that has both within, and again one with its bounds in order;
joining is commutative, associative and idempotent, and a range that is not defined is neutral on either side. -/
theorem union_is_join {r s t : Range Float} (hkind : r.kind ≠ .decimal) (hsr : s.kind = r.kind) (htr : t.kind = r.kind)
    (hr : r.IsSpan) (hs : s.IsSpan) (ht : t.IsSpan) :
    JoinLaws r s t ∧ ∀ e : Range Float, e.kind = r.kind → e.isDefined = false → r.union e = r ∧ e.union r = r := by
  refine ⟨?_, fun e her he => ⟨union_of_not_defined ?_, not_defined_union he (isDefined_of_isSpan hr) her.symm⟩⟩
  · by_cases hindex : r.kind = .index
    · obtain ⟨r, rfl⟩ := exists_index hindex
      obtain ⟨s, rfl⟩ := exists_index hsr
      obtain ⟨t, rfl⟩ := exists_index htr
      exact joinLaws_index hr hs ht
    · obtain ⟨V, d, wrap, v, hwrap, rfl⟩ := exists_wraps hindex
      rw [kind_wrap hwrap] at hkind hsr htr
      obtain ⟨s, rfl⟩ := exists_wrap hwrap hsr
      obtain ⟨t, rfl⟩ := exists_wrap hwrap htr
      exact joinLaws_wrap hwrap hkind hr hs ht
  · rw [← her, convert_kind]
    exact he

end

/-- Positions with fractions: the wider side of each wins, and the whole bounds follow. -/
theorem union_is_join_fractions :
    let r : Range Float := ofCanonical .index 1.5 4
    let s : Range Float := ofCanonical .index 2 6.75
    let t : Range Float := ofCanonical .index (-0.5) 3
    (r.kind ≠ .decimal ∧ s.kind = r.kind ∧ t.kind = r.kind) ∧ (r.IsSpan ∧ s.IsSpan ∧ t.IsSpan) ∧
      (r.union s == ofCanonical .index 1.5 6.75) ∧ (r.union s).IsSpan ∧
      ((r.union s).union t == r.union (s.union t)) ∧ r.union (undefined .index) = r := by
  intro r s t
  have hkind (min max : Float) : (ofCanonical .index min max).kind = .index := rfl
  have hspan (min max : Float) (hdefined : (ofCanonical .index min max).isDefined)
      (hnumbers : (IndexRange.ofPrecise min max).HasNumbers) : (ofCanonical .index min max).IsSpan :=
    ⟨hdefined, IndexRange.isRegular_ofPrecise hnumbers⟩
  have hkinds : r.kind ≠ .decimal ∧ s.kind = r.kind ∧ t.kind = r.kind := by
    rw [hkind, hkind, hkind]
    decide
  have hr : r.IsSpan := hspan 1.5 4 (by decide +kernel) (by decide +kernel)
  have hs : s.IsSpan := hspan 2 6.75 (by decide +kernel) (by decide +kernel)
  have ht : t.IsSpan := hspan (-0.5) 3 (by decide +kernel) (by decide +kernel)
  obtain ⟨hlaws, hunset⟩ := union_is_join hkinds.1 hkinds.2.1 hkinds.2.2 hr hs ht
  have hneutral := hunset (undefined .index) (hkind 1.5 4).symm (by decide +kernel)
  exact ⟨hkinds, ⟨hr, hs, ht⟩, by decide +kernel, hlaws.span, hlaws.assoc, hneutral.1⟩

end Range

end ChartGestures
