import ChartGestures.Number.ExactDecimal
import ChartGestures.Proofs.Number.HeldNumbers
import ChartGestures.Proofs.Range.UnsetBounds
import ChartGestures.Proofs.Time.TickCounts

/-!
# There and back through doubles

A range that is converted to doubles and back is the same range again, if a double can tell its bounds: numbers of single
precision, whole numbers of 32 bits, whole numbers and ticks of up to 53 bits, and finite shadows of an index range.
Each bound comes back from its projection, and the bounds keep their order on both ways, so that neither constructor
exchanges them. A leap second does not come back, for ticks do not tell it from the next minute; and shadows that are
not in order are exchanged.
-/

namespace ChartGestures

open Scalar Domain

/-! ### Bounds -/

namespace Domain

/-- A finite number of single precision. -/
def IsSingle (x : Float) : Prop :=
  ∃ q, toRat? x = some q ∧ BinaryFormat.single.Holds q ∧ |q| ≤ dyadic 16777215 104

theorem IsSingle.isFinite {x : Float} (h : IsSingle x) : isFinite x = true := by
  obtain ⟨q, hvalue, -⟩ := h
  exact Option.isSome_iff_exists.2 ⟨q, hvalue⟩

theorem project_float {x : Float} (h : IsSingle x) : (float (α := Float)).project x = x := by
  obtain ⟨q, hvalue, hheld, hlimit⟩ := h
  obtain ⟨hlower, hupper⟩ := abs_le.1 hlimit
  have hnotLess : ¬ x < -largestSingle := by
    rw [lt_iff_of_toRat? hvalue toRat?_largestSingle.2, not_lt]
    exact hlower
  have hnotMore : ¬ largestSingle < x := by
    rw [lt_iff_of_toRat? toRat?_largestSingle.1 hvalue, not_lt]
    exact hupper
  change toSingle x = x
  rw [toSingle, if_neg hnotLess, if_neg hnotMore, hvalue]
  simp only [hheld.nearest]
  split
  · next hzero => exact Binary.mul_zero_of_value (hzero ▸ hvalue)
  · next hne => exact Binary.nearestTo_value hvalue hne

/-- Ticks that a double tells apart, in a value that holds nothing between them. -/
structure HasDoubleTicks (nanos ticks : Int) : Prop where
  whole : IsWholeTick nanos
  bits : ticks.natAbs ≤ 2 ^ 53

theorem project_date {d : Date} (h : HasDoubleTicks d.nanos d.toTicks) : (date (α := Float)).project d = d := by
  have hmin : minDateTicks ≤ -2 ^ 53 := by decide
  have hmax : 2 ^ 53 ≤ maxDateTicks := by decide
  have hbits := h.bits
  have hticks : toIntWithin roundHalfAway minDateTicks maxDateTicks (ofInt d.toTicks : Float) = d.toTicks :=
    toIntWithin_ofInt hbits (by omega) (by omega)
  change Date.ofTicks (toIntWithin _ _ _ (ofInt d.toTicks : Float)) = d
  rw [hticks, Date.ofTicks_toTicks h.whole hbits]

theorem project_timeSpan {s : TimeSpan} (h : HasDoubleTicks s.nanos s.toTicks) :
    (timeSpan (α := Float)).project s = s := by
  have hmin : Int64.minValue.toInt = -2 ^ 63 := rfl
  have hmax : Int64.maxValue.toInt = 2 ^ 63 - 1 := rfl
  have hbits := h.bits
  have hticks : toIntWithin roundHalfAway Int64.minValue.toInt Int64.maxValue.toInt (ofInt s.toTicks : Float) =
      s.toTicks := toIntWithin_ofInt hbits (by omega) (by omega)
  change TimeSpan.ofTicks (toIntWithin _ _ _ (ofInt s.toTicks : Float)) = s
  rw [hticks, TimeSpan.ofTicks_toTicks h.whole hbits]

end Domain

/-! ### Intervals -/

namespace Interval

variable {V P : Type} {d : Domain Float V} {r : Interval d}

theorem new_of_ordered (h : r.isInverted = false) : new r.min r.max = r := by
  rw [isInverted] at h
  rw [new, h]
  rfl

/-- Bounds in order that survive their projection come back in order. -/
theorem ofCanonical_canonical (hs : r.Survives) (hr : r.isInverted = false) :
    ofCanonical r.canonicalMin r.canonicalMax = r := by
  have hmin : d.ofCanonical r.canonicalMin = r.min := hs.1
  have hmax : d.ofCanonical r.canonicalMax = r.max := hs.2
  rw [ofCanonical, hmin, hmax, new_of_ordered hr]

theorem canonical_ordered [LinearOrder P] [Placed d P] (hs : r.Survives) (hr : r.isInverted = false) :
    ¬ r.canonicalMax < r.canonicalMin := by
  rw [canonicalMin, canonicalMax, Placed.toCanonical_lt_iff hs.2 hs.1]
  exact Bool.eq_false_iff.1 hr

/-- Finite numbers in order are the bounds of an interval of doubles as they are. -/
theorem ofCanonical_double {x y : Float} (hx : isFinite x = true) (hy : isFinite y = true) (hle : ¬ y < x) :
    (ofCanonical x y : Interval Domain.double) = ⟨x, y⟩ := by
  change new (saturate x) (saturate y) = _
  rw [saturate_of_isFinite hx, saturate_of_isFinite hy]
  exact new_of_ordered (r := ⟨x, y⟩) (decide_eq_false hle)

end Interval

/-! ### Ranges -/

namespace Range

section

variable [Decimals Float]

/-- A double can tell the bounds. -/
def FitsDouble : Range Float → Prop
  | double _ => True
  | float r => IsSingle r.min ∧ IsSingle r.max
  | int32 _ => True
  | int64 r => r.min.toInt.natAbs ≤ 2 ^ 53 ∧ r.max.toInt.natAbs ≤ 2 ^ 53
  | decimal _ => False
  | date r => HasDoubleTicks r.min.nanos r.min.toTicks ∧ HasDoubleTicks r.max.nanos r.max.toTicks
  | timeSpan r => HasDoubleTicks r.min.nanos r.min.toTicks ∧ HasDoubleTicks r.max.nanos r.max.toTicks
  | index r => r.ShadowsOrdered ∧ isFinite r.minShadow = true ∧ isFinite r.maxShadow = true

/-- The way through doubles leaves a range alone if its bounds are finite and in order and make the range again. -/
theorem convert_double_convert {r : Range Float} (hmin : isFinite r.preciseBounds.1 = true)
    (hmax : isFinite r.preciseBounds.2 = true) (hle : ¬ r.preciseBounds.2 < r.preciseBounds.1)
    (hmake : ofCanonical r.kind r.preciseBounds.1 r.preciseBounds.2 = r) :
    (r.convert .double).convert r.kind = r := by
  by_cases hkind : r.kind = .double
  · rw [hkind, ← hkind, convert_kind, convert_kind]
  · have hthere : r.convert .double = double ⟨r.preciseBounds.1, r.preciseBounds.2⟩ :=
      (convert_of_ne hkind).trans (congrArg double (Interval.ofCanonical_double hmin hmax hle))
    rw [hthere, convert_of_ne fun h => hkind h.symm]
    exact hmake

theorem convert_double_wrap {V P : Type} [LinearOrder P] {d : Domain Float V} [Placed d P]
    {wrap : Interval d → Range Float} (hwrap : Wraps d wrap) {r : Interval d} (hr : (wrap r).Settled)
    (hs : r.Survives) (hmin : isFinite r.canonicalMin = true) (hmax : isFinite r.canonicalMax = true) :
    ((wrap r).convert .double).convert (wrap r).kind = wrap r := by
  have hordered := (settled_wrap hwrap r).1 hr
  have hbounds : (wrap r).preciseBounds = (r.canonicalMin, r.canonicalMax) := by cases hwrap <;> rfl
  have hmake : ∀ x y, ofCanonical (wrap r).kind x y = wrap (.ofCanonical x y) := by
    intro x y
    cases hwrap <;> rfl
  refine convert_double_convert ?_ ?_ ?_ ?_ <;> rw [hbounds]
  · exact hmin
  · exact hmax
  · exact Interval.canonical_ordered hs hordered
  · rw [hmake, Interval.ofCanonical_canonical hs hordered]

theorem convert_double_index {r : IndexRange Float} (hr : (index r).Settled) (hordered : r.ShadowsOrdered)
    (hmin : isFinite r.minShadow = true) (hmax : isFinite r.maxShadow = true) :
    ((index r).convert .double).convert .index = index r := by
  have hle : ¬ r.maxShadow < r.minShadow :=
    (not_lt_iff_le (Binary.isNaN_of_isFinite hmax) (Binary.isNaN_of_isFinite hmin)).2 hordered
  refine convert_double_convert (r := index r) hmin hmax hle (congrArg index ?_)
  change IndexRange.ofPrecise r.minShadow r.maxShadow = r
  rw [IndexRange.ofPrecise, if_neg hle]
  dsimp only
  rw [← hr.lower, ← hr.upper]

/-- A range whose bounds a double can tell comes back from its conversion to doubles. -/
theorem comes_back_from_double {r : Range Float} (hr : r.Settled) (h : r.FitsDouble) :
    (r.convert .double).convert r.kind = r := by
  cases r with
  | double v => rfl
  | float v => exact convert_double_wrap .float hr ⟨project_float h.1, project_float h.2⟩ h.1.isFinite h.2.isFinite
  | int32 v =>
    have hfinite := fun n : Int32 => isFinite_ofInt (natAbs_int32_le n)
    exact convert_double_wrap .int32 hr (survives_int32 v) (hfinite v.min) (hfinite v.max)
  | int64 v =>
    have hfinite := fun n : Int64 => isFinite_ofInt (natAbs_int64_le n)
    exact convert_double_wrap .int64 hr ⟨project_int64 h.1, project_int64 h.2⟩ (hfinite v.min) (hfinite v.max)
  | decimal v => exact absurd h id
  | date v =>
    have hfinite := fun d : Date => isFinite_ofInt (natAbs_date_toTicks_le d)
    exact convert_double_wrap .date hr ⟨project_date h.1, project_date h.2⟩ (hfinite v.min) (hfinite v.max)
  | timeSpan v =>
    have hfinite := fun s : TimeSpan => isFinite_ofInt (natAbs_timeSpan_toTicks_le s)
    exact convert_double_wrap .timeSpan hr ⟨project_timeSpan h.1, project_timeSpan h.2⟩ (hfinite v.min) (hfinite v.max)
  | index v => exact convert_double_index hr h.1 h.2.1 h.2.2

end

/-- Dates on both sides of 1970, and categories that are shown in part. -/
theorem comes_back_from_double_fractions :
    let r : Range Float := .ofCanonical .date (-15) 7
    let s : Range Float := .ofCanonical .index (-3 / 2) (9 / 4)
    (r.Settled ∧ r.FitsDouble ∧ (r.convert .double).convert .date = r) ∧
      s.Settled ∧ s.FitsDouble ∧ (s.convert .double).convert .index = s := by
  intro r s
  have hr : r.Settled := settled_ofCanonical .date _ _
  have hs : s.Settled := settled_ofCanonical .index _ _
  have hdates : r.FitsDouble := ⟨⟨⟨⟨by decide +kernel, by decide +kernel⟩, by decide +kernel⟩, by decide +kernel⟩,
    ⟨⟨⟨by decide +kernel, by decide +kernel⟩, by decide +kernel⟩, by decide +kernel⟩⟩
  have hordered : (IndexRange.ofPrecise (-3 / 2) (9 / 4) : IndexRange Float).ShadowsOrdered := by
    unfold IndexRange.ShadowsOrdered
    decide +kernel
  have hshadows : s.FitsDouble := ⟨hordered, by decide +kernel, by decide +kernel⟩
  exact ⟨⟨hr, hdates, comes_back_from_double hr hdates⟩, hs, hshadows, comes_back_from_double hs hshadows⟩

/-- The leap second at the end of a minute is counted on past the minute, and comes back as a moment of the next one.
And a whole bound written below the shadow of the other leaves shadows that are not in order; they come back in
order. -/
theorem comes_back_moved :
    let leap : Date := ⟨59, 1500000000⟩
    let r : Range Float := date (.new leap leap)
    let v : IndexRange Float := (IndexRange.ofPrecise 2.5 10).setMax 2
    (nanosPerTick ∣ leap.nanos ∧ leap.toTicks = 605000000 ∧ r.Made ∧ r.isDefined ∧ r == r ∧
        (r.convert .double).convert .date == date ⟨⟨60, 500000000⟩, ⟨60, 500000000⟩⟩ ∧
        ((r.convert .double).convert .date == r) = false) ∧
      (index v).Made ∧ v.Rounded ∧ isFinite v.minShadow = true ∧ isFinite v.maxShadow = true ∧
        v.maxShadow < v.minShadow ∧ index v == index v ∧
        (((index v).convert .double).convert .index == index v) = false := by
  intro leap r v
  have hv : (index v).Made := .setMaxIndex (.ofCanonical .index 2.5 10) 2
  refine ⟨⟨by decide, by decide, .new .date leap leap, ?_⟩, hv, hv.settled, ?_⟩
  · decide +kernel
  · decide +kernel

/-- One more than a double can tell. -/
example : (Domain.int64 (α := Float)).project 9007199254740993 = 9007199254740992 := by decide +kernel

end Range

end ChartGestures
