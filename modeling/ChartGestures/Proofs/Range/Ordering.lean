import ChartGestures.Proofs.Range.Domains
import ChartGestures.Proofs.Range.Shadows

/-!
# The bounds of a range are in order

A range of a domain is never upside down: its constructor exchanges bounds that are, and what builds a range without
the constructor compares the bounds first. An index range orders its shadows, and a shadow that is NaN slips through
the comparison and rounds to zero. So an index range is upside down exactly when one shadow is NaN and the bound of the
other lies on the wrong side of zero.
-/

namespace ChartGestures

open Scalar

/-! ### Intervals -/

namespace Interval

variable {α V : Type} {d : Domain α V}

/-- Whether the upper bound lies below the lower one. -/
def isInverted (r : Interval d) : Bool := d.lt r.max r.min

variable {r s : Interval d}

theorem isInverted_clipTo (hs : s.isInverted = false) (mode : ClipMode) : (r.clipTo s mode).isInverted = false := by
  rw [clipTo]
  generalize (if mode.clipsMin then d.greater r.min s.min else r.min) = min
  generalize (if mode.clipsMax then d.lesser r.max s.max else r.max) = max
  by_cases h : d.lt max min
  · rw [if_pos h]
    exact hs
  · rw [if_neg h]
    exact Bool.eq_false_iff.2 h

variable [IsStrictOrder V fun a b => d.lt a b]

theorem not_lt_of_lt {a b : V} (h : d.lt a b) : d.lt b a = false := by
  rw [Bool.eq_false_iff]
  exact asymm_of (fun a b => d.lt a b) h

theorem lt_of_lt_of_lt {a b c : V} (hab : d.lt a b) (hbc : d.lt b c) : d.lt a c :=
  trans_of (fun a b => d.lt a b) hab hbc

theorem isInverted_new (min max : V) : (new min max : Interval d).isInverted = false := by
  rw [new, isInverted]
  split
  · next h => exact not_lt_of_lt h
  · next h => exact Bool.eq_false_iff.2 h

/-- Each side takes a bound of `r`, or one of `s` that lies further out. -/
theorem isInverted_union (hr : r.isInverted = false) (hs : s.isInverted = false) :
    (r.union s).isInverted = false := by
  rw [union]
  split
  · exact hr
  split
  · exact hs
  rw [isInverted, Bool.eq_false_iff] at hr hs ⊢
  rw [Domain.lesser, Domain.greater]
  intro h
  by_cases hlow : d.lt s.min r.min
  · by_cases hhigh : d.lt r.max s.max
    · rw [if_pos hlow, if_pos hhigh] at h
      exact hs h
    · rw [if_pos hlow, if_neg hhigh] at h
      exact hr (lt_of_lt_of_lt h hlow)
  · by_cases hhigh : d.lt r.max s.max
    · rw [if_neg hlow, if_pos hhigh] at h
      exact hr (lt_of_lt_of_lt hhigh h)
    · rw [if_neg hlow, if_neg hhigh] at h
      exact hr h

variable [Scalar α]

theorem isInverted_withMinMax (min max : α) (limit : Option (Interval d)) :
    (withMinMax min max limit).isInverted = false := by
  cases limit with
  | none => exact isInverted_new _ _
  | some limit => exact isInverted_new _ _

theorem isInverted_growBy (minFraction maxFraction : α) : (r.growBy minFraction maxFraction).isInverted = false := by
  rw [growBy]
  split
  · exact isInverted_new _ _
  · exact isInverted_new _ _

end Interval

/-! ### Index ranges -/

namespace IndexRange

variable {α : Type} [Scalar α]

def isInverted (r : IndexRange α) : Bool := r.max < r.min

/-- What holds with or without numbers for shadows: both bounds are rounded shadows, and numbers are in order. -/
structure Rounded (r : IndexRange α) : Prop where
  lower : r.min = truncateIndex r.minShadow
  upper : r.max = truncateIndex r.maxShadow
  ordered : r.HasNumbers → r.min ≤ r.max

variable {r s : IndexRange α}

theorem Coherent.rounded (h : r.Coherent) : r.Rounded := ⟨h.lower, h.upper, fun _ => h.ordered⟩

variable [LawfulScalar α]

theorem truncateIndex_of_isNaN {x : α} (hx : isNaN x = true) : truncateIndex x = 0 := by
  rw [truncateIndex, toIntWithin, toRat?_of_isNaN hx, hx]
  rfl

/-- A bound without a number stands at zero, so only the other bound can be on the wrong side of it. -/
theorem Rounded.isInverted_iff (h : r.Rounded) :
    r.isInverted ↔ isNaN r.minShadow ∧ r.max < 0 ∨ isNaN r.maxShadow ∧ 0 < r.min := by
  have hinverted : r.isInverted ↔ r.max < r.min := decide_eq_true_iff
  rw [hinverted]
  by_cases hmin : isNaN r.minShadow = true
  · have hzero : r.min = 0 := by rw [h.lower, truncateIndex_of_isNaN hmin]
    simp [hmin, hzero]
  · by_cases hmax : isNaN r.maxShadow = true
    · have hzero : r.max = 0 := by rw [h.upper, truncateIndex_of_isNaN hmax]
      simp [hmin, hmax, hzero]
    · have hordered := h.ordered ⟨by simpa using hmin, by simpa using hmax⟩
      simpa [hmin, hmax] using Int32.not_lt.2 hordered

theorem rounded_new (min max : Int32) : (new min max : IndexRange α).Rounded := (coherent_new min max).1.rounded

theorem rounded_ofPrecise (min max : α) : (ofPrecise min max).Rounded :=
  ⟨rfl, rfl, fun h => (coherent_ofPrecise h).1.ordered⟩

theorem rounded_withMinMax (min max : α) (limit : Option (IndexRange α)) : (withMinMax min max limit).Rounded := by
  cases limit with
  | none => exact rounded_ofPrecise _ _
  | some limit => exact rounded_ofPrecise _ _

theorem rounded_growBy (minFraction maxFraction : α) : (r.growBy minFraction maxFraction).Rounded := by
  rw [growBy]
  split
  · exact rounded_ofPrecise _ _
  · exact rounded_new _ _

theorem rounded_setMin (min : Int32) : (r.setMin min).Rounded := by
  have hnew : (new min r.max : IndexRange α).Coherent := (coherent_new min r.max).1
  rw [setMin]
  split
  · next hkept => exact ⟨hnew.lower, beq_iff_eq.1 hkept, fun _ => hnew.ordered⟩
  · exact hnew.rounded

theorem rounded_setMax (max : Int32) : (r.setMax max).Rounded := by
  have hnew : (new r.min max : IndexRange α).Coherent := (coherent_new r.min max).1
  rw [setMax]
  split
  · next hkept => exact ⟨beq_iff_eq.1 hkept, hnew.upper, fun _ => hnew.ordered⟩
  · exact hnew.rounded

theorem rounded_clipTo (hr : r.Rounded) (hs : s.Rounded) (mode : ClipMode) : (r.clipTo s mode).Rounded := by
  rw [clipTo]
  set r₁ := if mode.clipsMin ∧ r.minShadow < s.canonicalMin then { r with min := s.min, minShadow := s.canonicalMin }
    else r with hr₁
  set r₂ := if mode.clipsMax ∧ s.canonicalMax < r₁.maxShadow then
    { r₁ with max := s.max, maxShadow := s.canonicalMax } else r₁ with hr₂
  have hkept₁ : r₁.min = truncateIndex r₁.minShadow ∧ r₁.max = truncateIndex r₁.maxShadow := by
    rw [hr₁]
    split
    · exact ⟨(truncateIndex_whole s.min).symm, hr.upper⟩
    · exact ⟨hr.lower, hr.upper⟩
  have hkept₂ : r₂.min = truncateIndex r₂.minShadow ∧ r₂.max = truncateIndex r₂.maxShadow := by
    rw [hr₂]
    split
    · exact ⟨hkept₁.1, (truncateIndex_whole s.max).symm⟩
    · exact hkept₁
  split
  · exact hs
  · next hinside =>
    refine ⟨hkept₂.1, hkept₂.2, fun hnumbers => ?_⟩
    rw [hkept₂.1, hkept₂.2]
    exact truncateIndex_mono hnumbers.lower hnumbers.upper ((not_lt_iff_le hnumbers.upper hnumbers.lower).1 hinside)

theorem rounded_union (hr : r.Rounded) (hs : s.Rounded) : (r.union s).Rounded := by
  rw [union]
  split
  · exact hr
  split
  · exact hs
  -- A side goes to `s` only by a comparison that holds, and then both of its shadows are numbers.
  by_cases hlow : s.minShadow < r.minShadow
  · obtain ⟨hsmin, hrmin⟩ := isNaN_of_lt hlow
    by_cases hhigh : r.maxShadow < s.maxShadow
    · rw [if_pos hlow, if_pos hhigh]
      exact hs
    · rw [if_pos hlow, if_neg hhigh]
      refine ⟨hs.lower, hr.upper, fun hnumbers => ?_⟩
      calc s.min = truncateIndex s.minShadow := hs.lower
        _ ≤ truncateIndex r.minShadow := truncateIndex_mono hsmin hrmin (Scalar.le_of_lt hsmin hrmin hlow)
        _ = r.min := hr.lower.symm
        _ ≤ r.max := hr.ordered ⟨hrmin, hnumbers.upper⟩
  · by_cases hhigh : r.maxShadow < s.maxShadow
    · obtain ⟨hrmax, hsmax⟩ := isNaN_of_lt hhigh
      rw [if_neg hlow, if_pos hhigh]
      refine ⟨hr.lower, hs.upper, fun hnumbers => ?_⟩
      calc r.min ≤ r.max := hr.ordered ⟨hnumbers.lower, hrmax⟩
        _ = truncateIndex r.maxShadow := hr.upper
        _ ≤ truncateIndex s.maxShadow := truncateIndex_mono hrmax hsmax (Scalar.le_of_lt hrmax hsmax hhigh)
        _ = s.max := hs.upper.symm
    · rw [if_neg hlow, if_neg hhigh]
      exact hr

end IndexRange

/-! ### Ranges of any kind -/

namespace Range

/-- Whether the upper bound lies below the lower one, both as values of the kind. -/
def isInverted {α : Type} [Scalar α] [Decimals α] : Range α → Bool
  | double r => r.isInverted
  | float r => r.isInverted
  | int32 r => r.isInverted
  | int64 r => r.isInverted
  | decimal r => r.isInverted
  | date r => r.isInverted
  | timeSpan r => r.isInverted
  | index r => r.isInverted

/-- The ranges that creation, typed writes and the operations on ranges of every kind lead to. -/
inductive Made {α : Type} [Scalar α] [Decimals α] : Range α → Prop where
  | ofCanonical (kind : RangeKind) (min max : α) : Made (.ofCanonical kind min max)
  | undefined (kind : RangeKind) : Made (.undefined kind)
  | unit (kind : RangeKind) : Made (.unit kind)
  | new {V : Type} {d : Domain α V} {wrap : Interval d → Range α} (hwrap : Wraps d wrap) (min max : V) :
      Made (wrap (.new min max))
  | setMin {V : Type} {d : Domain α V} {wrap : Interval d → Range α} (hwrap : Wraps d wrap) {r : Interval d}
      (hr : Made (wrap r)) (min : V) : Made (wrap (r.setMin min))
  | setMax {V : Type} {d : Domain α V} {wrap : Interval d → Range α} (hwrap : Wraps d wrap) {r : Interval d}
      (hr : Made (wrap r)) (max : V) : Made (wrap (r.setMax max))
  | newIndex (min max : Int32) : Made (index (.new min max))
  | setMinIndex {r : IndexRange α} (hr : Made (index r)) (min : Int32) : Made (index (r.setMin min))
  | setMaxIndex {r : IndexRange α} (hr : Made (index r)) (max : Int32) : Made (index (r.setMax max))
  | withMinMax {r : Range α} (hr : Made r) (min max : α) : Made (r.withMinMax min max none)
  | withMinMaxIn {r limit : Range α} (hr : Made r) (hlimit : Made limit) (min max : α) :
      Made (r.withMinMax min max (some limit))
  | growBy {r : Range α} (hr : Made r) (minFraction maxFraction : α) : Made (r.growBy minFraction maxFraction)
  | translate {r : Range α} (hr : Made r) (delta : α) : Made (r.translate delta)
  | clipTo {r maximum : Range α} (hr : Made r) (hmaximum : Made maximum) (mode : ClipMode) :
      Made (r.clipTo maximum mode)
  | union {r s : Range α} (hr : Made r) (hs : Made s) : Made (r.union s)
  | convert {r : Range α} (hr : Made r) (kind : RangeKind) : Made (r.convert kind)

/-- The invariant of every range that is made. -/
def Settled {α : Type} [Scalar α] [Decimals α] : Range α → Prop
  | index r => r.Rounded
  | r => r.isInverted = false

theorem convert_kind {α : Type} [Scalar α] [Decimals α] (r : Range α) : r.convert r.kind = r := by
  cases r <;> rfl

theorem convert_of_ne {α : Type} [Scalar α] [Decimals α] {r : Range α} {kind : RangeKind} (hkind : r.kind ≠ kind) :
    r.convert kind = ofCanonical kind r.preciseBounds.1 r.preciseBounds.2 := by
  cases r <;> cases kind <;> first | rfl | exact absurd rfl hkind

section

variable [Decimals Float] {r s : Range Float}

theorem settled_wrap {V : Type} {d : Domain Float V} {wrap : Interval d → Range Float} (hwrap : Wraps d wrap)
    (v : Interval d) : (wrap v).Settled ↔ v.isInverted = false := by
  cases hwrap <;> exact Iff.rfl

theorem settled_new {V : Type} {d : Domain Float V} {wrap : Interval d → Range Float} (hwrap : Wraps d wrap)
    (min max : V) : (wrap (.new min max)).Settled := by
  rw [settled_wrap hwrap]
  cases hwrap <;> exact Interval.isInverted_new min max

theorem settled_ofCanonical (kind : RangeKind) (min max : Float) : (ofCanonical kind min max).Settled := by
  cases kind with
  | index => exact IndexRange.rounded_ofPrecise min max
  | _ => exact Interval.isInverted_new _ _

theorem isInverted_undefined (kind : RangeKind) : (undefined kind : Range Float).isInverted = false := by
  -- each of the limits is a closed value, but for the decimals, which say themselves that theirs are in order
  cases kind with
  | double => exact (by decide +kernel : (.undefined : Interval (Domain.double (α := Float))).isInverted = false)
  | float => exact (by decide +kernel : (.undefined : Interval (Domain.float (α := Float))).isInverted = false)
  | int32 => exact (by decide +kernel : (.undefined : Interval (Domain.int32 (α := Float))).isInverted = false)
  | int64 => exact (by decide +kernel : (.undefined : Interval (Domain.int64 (α := Float))).isInverted = false)
  | decimal => exact Decimals.lowest_le_highest
  | date => exact (by decide +kernel : (.undefined : Interval (Domain.date (α := Float))).isInverted = false)
  | timeSpan => exact (by decide +kernel : (.undefined : Interval (Domain.timeSpan (α := Float))).isInverted = false)
  | index => exact (by decide +kernel : (.undefined : IndexRange Float).isInverted = false)

theorem settled_undefined (kind : RangeKind) : (undefined kind : Range Float).Settled := by
  cases kind with
  | index => exact IndexRange.rounded_new _ _
  | double => exact isInverted_undefined .double
  | float => exact isInverted_undefined .float
  | int32 => exact isInverted_undefined .int32
  | int64 => exact isInverted_undefined .int64
  | decimal => exact isInverted_undefined .decimal
  | date => exact isInverted_undefined .date
  | timeSpan => exact isInverted_undefined .timeSpan

theorem settled_unit (kind : RangeKind) : (unit kind : Range Float).Settled := by
  cases kind with
  | index => exact IndexRange.rounded_new _ _
  | _ => exact Interval.isInverted_new _ _

theorem Settled.convert (hr : r.Settled) (kind : RangeKind) : (r.convert kind).Settled := by
  by_cases hkind : r.kind = kind
  · rw [← hkind, convert_kind]
    exact hr
  · rw [convert_of_ne hkind]
    exact settled_ofCanonical kind _ _

/-- What keeps intervals and index ranges in order keeps ranges of every kind so. -/
theorem Settled.combine {f : ∀ {R : Type} [RangeOps Float R], R → Option R → R}
    (hinterval : ∀ {V : Type} {d : Domain Float V} [IsStrictOrder V fun a b => d.lt a b] (v : Interval d)
      (other : Option (Interval d)), v.isInverted = false → (∀ w ∈ other, w.isInverted = false) →
        (f v other).isInverted = false)
    (hindex : ∀ (v : IndexRange Float) (other : Option (IndexRange Float)), v.Rounded → (∀ w ∈ other, w.Rounded) →
      (f v other).Rounded)
    {other : Option (Range Float)} (hr : r.Settled) (hother : ∀ s ∈ other, s.Settled) :
    (r.combine f other).Settled := by
  have hconverted : ∀ kind, ∀ s ∈ other, (s.convert kind).Settled := fun kind s hs => (hother s hs).convert kind
  cases r with
  | double v => exact hinterval v _ hr (Option.forall_mem_map.2 (hconverted .double))
  | float v => exact hinterval v _ hr (Option.forall_mem_map.2 (hconverted .float))
  | int32 v => exact hinterval v _ hr (Option.forall_mem_map.2 (hconverted .int32))
  | int64 v => exact hinterval v _ hr (Option.forall_mem_map.2 (hconverted .int64))
  | decimal v => exact hinterval v _ hr (Option.forall_mem_map.2 (hconverted .decimal))
  | date v => exact hinterval v _ hr (Option.forall_mem_map.2 (hconverted .date))
  | timeSpan v => exact hinterval v _ hr (Option.forall_mem_map.2 (hconverted .timeSpan))
  | index v => exact hindex v _ hr (Option.forall_mem_map.2 (hconverted .index))

theorem Settled.withMinMax (hr : r.Settled) (min max : Float) {limit : Option (Range Float)}
    (hlimit : ∀ s ∈ limit, s.Settled) : (r.withMinMax min max limit).Settled :=
  hr.combine (fun _ limit _ _ => Interval.isInverted_withMinMax min max limit)
    (fun _ limit _ _ => IndexRange.rounded_withMinMax min max limit) hlimit

theorem Settled.growBy (hr : r.Settled) (minFraction maxFraction : Float) :
    (r.growBy minFraction maxFraction).Settled :=
  hr.combine (fun _ _ _ _ => Interval.isInverted_growBy minFraction maxFraction)
    (fun _ _ _ _ => IndexRange.rounded_growBy minFraction maxFraction) (by simp)

theorem Settled.clipTo (hr : r.Settled) (hs : s.Settled) (mode : ClipMode) : (r.clipTo s mode).Settled := by
  refine hr.combine (fun v other hv hother => ?_) (fun v other hv hother => ?_) (by simpa using hs)
  · cases other with
    | none => exact hv
    | some w => exact Interval.isInverted_clipTo (hother w rfl) mode
  · cases other with
    | none => exact hv
    | some w => exact IndexRange.rounded_clipTo hv (hother w rfl) mode

theorem Settled.union (hr : r.Settled) (hs : s.Settled) : (r.union s).Settled := by
  refine hr.combine (fun v other hv hother => ?_) (fun v other hv hother => ?_) (by simpa using hs)
  · cases other with
    | none => exact hv
    | some w => exact Interval.isInverted_union hv (hother w rfl)
  · cases other with
    | none => exact hv
    | some w => exact IndexRange.rounded_union hv (hother w rfl)

theorem Made.settled (h : r.Made) : r.Settled := by
  induction h with
  | ofCanonical kind min max => exact settled_ofCanonical kind min max
  | undefined kind => exact settled_undefined kind
  | unit kind => exact settled_unit kind
  | new hwrap min max => exact settled_new hwrap min max
  | setMin hwrap _ min _ => exact settled_new hwrap min _
  | setMax hwrap _ max _ => exact settled_new hwrap _ max
  | newIndex min max => exact IndexRange.rounded_new min max
  | setMinIndex _ min _ => exact IndexRange.rounded_setMin min
  | setMaxIndex _ max _ => exact IndexRange.rounded_setMax max
  | withMinMax _ min max ih => exact ih.withMinMax min max (by simp)
  | withMinMaxIn _ _ min max ih ihlimit => exact ih.withMinMax min max (by simpa using ihlimit)
  | growBy _ minFraction maxFraction ih => exact ih.growBy minFraction maxFraction
  | translate _ delta ih => exact ih.withMinMax _ _ (by simp)
  | clipTo _ _ mode ih ihmaximum => exact ih.clipTo ihmaximum mode
  | union _ _ ih ihother => exact ih.union ihother
  | convert _ kind ih => exact ih.convert kind

/-- A range is upside down exactly when it is an index range with a shadow that is NaN, whose other bound lies on the
wrong side of zero. -/
theorem isInverted_iff_nan_shadow (h : r.Made) :
    r.isInverted ↔ ∃ v, r = index v ∧ (isNaN v.minShadow ∧ v.max < 0 ∨ isNaN v.maxShadow ∧ 0 < v.min) := by
  have hsettled := h.settled
  cases r with
  | index v =>
    have hrounded : v.isInverted ↔ _ := hsettled.isInverted_iff
    simpa [isInverted] using hrounded
  | _ v =>
    have hordered : (isInverted _) = false := hsettled
    simp [hordered]

end

/-- A lower bound that is NaN stays at zero while the upper one moves below it. -/
theorem isInverted_iff_nan_shadow_translate :
    let r : Range Float := ((ofCanonical .double (0 / 0) 3).convert .index).translate (-10)
    r.Made ∧ r.isInverted ∧
      ∃ v, r = index v ∧ (isNaN v.minShadow ∧ v.max < 0 ∨ isNaN v.maxShadow ∧ 0 < v.min) := by
  intro r
  have hmade : r.Made := ((Made.ofCanonical .double (0 / 0) 3).convert .index).translate (-10)
  have hinverted : r.isInverted := by decide +kernel
  exact ⟨hmade, hinverted, (isInverted_iff_nan_shadow hmade).1 hinverted⟩

/-- The bounds from 5 to NaN, as an index range, come out as `[5, 0]`. -/
theorem ofCanonical_index_nan :
    let r : Range Float := ofCanonical .index 5 (0 / 0)
    r.Made ∧ r.kind ≠ .decimal ∧ r.isInverted := by
  intro r
  exact ⟨.ofCanonical .index 5 (0 / 0), by decide, by decide +kernel⟩

end Range

end ChartGestures
