import ChartGestures.Proofs.Number.NearestWhole
import ChartGestures.Proofs.Range.RoundTrips

/-!
# Conversions keep order

A domain of whole numbers or ticks makes its values of numbers in three steps: it rounds, it stays within its limits,
and it puts a date or a time span together from seconds and nanoseconds. Each step keeps order, so the conversion does.
Back to numbers, a value is counted and the count is stored as the nearest double, which keeps order as well. A count
that a double can tell makes its value again, unless the value holds more than whole ticks. Only dates before the reach
of a 64-bit count of ticks may change places on this way.
-/

namespace ChartGestures

open Scalar

namespace Domain

/-- Below or equal, as the domain compares. -/
def AtMost {α V : Type} (d : Domain α V) (a b : V) : Prop := d.lt a b ∨ d.eq a b

instance {α V : Type} (d : Domain α V) (a b : V) : Decidable (d.AtMost a b) := inferInstanceAs (Decidable (_ ∨ _))

/-- How the values of a domain are counted. -/
structure Counting (V : Type) where
  /-- The whole number that is projected. -/
  count : V → Int
  /-- What values the domain has. -/
  IsValue : V → Prop
  /-- The value holds nothing between two counts. -/
  IsWhole : V → Prop
  /-- The count does not come to the lower end of its word before all of the value is counted. -/
  IsInReach : V → Prop

namespace Counting

/-- Every value is a number of units. -/
def units {V : Type} (count : V → Int) : Counting V := ⟨count, fun _ => True, fun _ => True, fun _ => True⟩

def dates : Counting Date :=
  ⟨Date.toTicks, fun d => IsSubsecond d.nanos, fun d => nanosPerTick ∣ d.nanos, Date.IsInReach⟩

def timeSpans : Counting TimeSpan :=
  ⟨TimeSpan.toTicks, fun s => IsSubsecond s.nanos, fun s => nanosPerTick ∣ s.nanos, fun _ => True⟩

end Counting

/-- Larger numbers make no smaller values, none of them beyond the limits. A value whose count a double can tell comes
back exactly if it is whole, and from the reach of the count on larger values are projected as no smaller numbers. -/
structure ConvertsInOrder {V : Type} (d : Domain Float V) (c : Counting V) : Prop where
  numbers_in_order {x y : Float} : isNaN x = false → isNaN y = false → x ≤ y →
    d.AtMost (d.ofCanonical x) (d.ofCanonical y)
  within_limits (x : Float) : d.AtMost d.lowest (d.ofCanonical x) ∧ d.AtMost (d.ofCanonical x) d.highest
  comes_back_iff {v : V} : c.IsValue v → (c.count v).natAbs ≤ 2 ^ 53 →
    (d.ofCanonical (d.toCanonical v) = v ↔ c.IsWhole v)
  values_in_order {v w : V} : c.IsValue v → c.IsValue w → c.IsInReach v → d.AtMost v w →
    d.toCanonical v ≤ d.toCanonical w
  reaches {v : V} : c.IsValue v → d.AtMost d.lowest v → c.IsInReach v

/-! ### Steps of a conversion -/

variable {V : Type} {d : Domain Float V} {c : Counting V} {place : V → Int} {lo hi scale : Int}

/-- The values stand in line, those made of numbers `scale` apart from `lo` to `hi`, and what is projected is a count
that follows the places of the values. -/
structure Counts (d : Domain Float V) (c : Counting V) (place : V → Int) (lo hi scale : Int) : Prop where
  scale_pos : 0 < scale
  lo_nonpos : lo ≤ 0
  hi_nonneg : 0 ≤ hi
  lt_iff {v w : V} : c.IsValue v → c.IsValue w → (d.lt v w ↔ place v < place w)
  eq_iff {v w : V} : c.IsValue v → c.IsValue w → (d.eq v w ↔ place v = place w)
  isValue_ofCanonical (x : Float) : c.IsValue (d.ofCanonical x)
  place_ofCanonical (x : Float) : place (d.ofCanonical x) = scale * toIntWithin roundHalfAway lo hi x
  isValue_lowest : c.IsValue d.lowest
  isValue_highest : c.IsValue d.highest
  place_lowest : place d.lowest = scale * lo
  place_highest : place d.highest = scale * hi
  toCanonical_eq (v : V) : d.toCanonical v = ofInt (c.count v)
  natAbs_count_le (v : V) : (c.count v).natAbs ≤ 2 ^ 64
  count_mono {v w : V} : c.IsValue v → c.IsValue w → c.IsInReach v → place v ≤ place w → c.count v ≤ c.count w
  reaches {v : V} : c.IsValue v → scale * lo ≤ place v → c.IsInReach v

namespace Counts

variable (h : Counts d c place lo hi scale)

include h

theorem atMost_iff {v w : V} (hv : c.IsValue v) (hw : c.IsValue w) : d.AtMost v w ↔ place v ≤ place w := by
  rw [AtMost, h.lt_iff hv hw, h.eq_iff hv hw, le_iff_lt_or_eq]

theorem numbers_in_order {x y : Float} (hx : isNaN x = false) (hy : isNaN y = false) (hxy : x ≤ y) :
    d.AtMost (d.ofCanonical x) (d.ofCanonical y) := by
  have hlimits : lo ≤ hi := h.lo_nonpos.trans h.hi_nonneg
  have hrounded := toIntWithin_mono roundHalfAway_mono hlimits hx hy ((le_iff_rank_le hx hy).1 hxy)
  rw [h.atMost_iff (h.isValue_ofCanonical x) (h.isValue_ofCanonical y), h.place_ofCanonical, h.place_ofCanonical]
  exact Int.mul_le_mul_of_nonneg_left hrounded h.scale_pos.le

theorem within_limits (x : Float) :
    d.AtMost d.lowest (d.ofCanonical x) ∧ d.AtMost (d.ofCanonical x) d.highest := by
  have hmade := h.isValue_ofCanonical x
  obtain ⟨hlower, hupper⟩ := toIntWithin_bounds roundHalfAway h.lo_nonpos h.hi_nonneg x
  rw [h.atMost_iff h.isValue_lowest hmade, h.atMost_iff hmade h.isValue_highest, h.place_lowest, h.place_highest,
    h.place_ofCanonical]
  exact ⟨Int.mul_le_mul_of_nonneg_left hlower h.scale_pos.le, Int.mul_le_mul_of_nonneg_left hupper h.scale_pos.le⟩

theorem values_in_order {v w : V} (hv : c.IsValue v) (hw : c.IsValue w) (hreach : c.IsInReach v)
    (hvw : d.AtMost v w) : d.toCanonical v ≤ d.toCanonical w := by
  rw [h.atMost_iff hv hw] at hvw
  -- counts may run together when they are stored, but never past each other
  rw [h.toCanonical_eq, h.toCanonical_eq]
  exact ofInt_mono (h.natAbs_count_le v) (h.natAbs_count_le w) (h.count_mono hv hw hreach hvw)

theorem convertsInOrder
    (hback : ∀ v, c.IsValue v → (c.count v).natAbs ≤ 2 ^ 53 → (d.project v = v ↔ c.IsWhole v)) :
    ConvertsInOrder d c where
  numbers_in_order := h.numbers_in_order
  within_limits := h.within_limits
  comes_back_iff hv hbits := hback _ hv hbits
  values_in_order := h.values_in_order
  reaches hv hlowest := by
    rw [h.atMost_iff h.isValue_lowest hv, h.place_lowest] at hlowest
    exact h.reaches hv hlowest

end Counts

/-! ### The domains that count -/

/-- Where every value is a number of units, a count is a place. -/
theorem counts_units {count : V → Int} (hlo : lo ≤ 0) (hhi : 0 ≤ hi) (hlt : ∀ v w, d.lt v w ↔ count v < count w)
    (heq : ∀ v w, d.eq v w ↔ count v = count w)
    (hmade : ∀ x, count (d.ofCanonical x) = toIntWithin roundHalfAway lo hi x) (hlowest : count d.lowest = lo)
    (hhighest : count d.highest = hi) (hcanonical : ∀ v, d.toCanonical v = ofInt (count v))
    (hcount : ∀ v, (count v).natAbs ≤ 2 ^ 64) : Counts d (.units count) count lo hi 1 where
  scale_pos := Int.one_pos
  lo_nonpos := hlo
  hi_nonneg := hhi
  lt_iff _ _ := hlt _ _
  eq_iff _ _ := heq _ _
  isValue_ofCanonical _ := trivial
  place_ofCanonical x := by rw [hmade, Int.one_mul]
  isValue_lowest := trivial
  isValue_highest := trivial
  place_lowest := by rw [hlowest, Int.one_mul]
  place_highest := by rw [hhighest, Int.one_mul]
  toCanonical_eq := hcanonical
  natAbs_count_le := hcount
  count_mono _ _ _ h := h
  reaches _ _ := trivial

theorem counts_int32 :
    Counts (int32 (α := Float)) (.units Int32.toInt) Int32.toInt Int32.minValue.toInt Int32.maxValue.toInt 1 :=
  counts_units (by decide) (by decide) (fun _ _ => Placed.lt_iff trivial trivial)
    (fun _ _ => Placed.eq_iff trivial trivial) toInt_int32_ofCanonical rfl rfl (fun _ => rfl) natAbs_int32_le

theorem counts_int64 :
    Counts (int64 (α := Float)) (.units Int64.toInt) Int64.toInt Int64.minValue.toInt Int64.maxValue.toInt 1 :=
  counts_units (by decide) (by decide) (fun _ _ => Placed.lt_iff trivial trivial)
    (fun _ _ => Placed.eq_iff trivial trivial) toInt_int64_ofCanonical rfl rfl (fun _ => rfl) natAbs_int64_le

/-- The limits of a date range are well within the reach of its ticks. -/
theorem isInReach_of_lowest {v : Date} (hv : IsSubsecond v.nanos)
    (h : nanosPerTick * minDateTicks ≤ totalNanos v.seconds v.nanos) : v.IsInReach := by
  have hmin : Int64.minValue.toInt = -2 ^ 63 := rfl
  simp only [Date.IsInReach, IsSubsecond, totalNanos, nanosPerTick, nanosPerSecond, ticksPerSecond, minDateTicks,
    hmin] at *
  omega

theorem counts_date :
    Counts (date (α := Float)) .dates (fun v => totalNanos v.seconds v.nanos) minDateTicks maxDateTicks
      nanosPerTick where
  scale_pos := by decide
  lo_nonpos := by decide
  hi_nonneg := by decide
  lt_iff hv hw := Date.lt_iff.trans (totalNanos_lt hv hw).symm
  eq_iff hv hw := Date.beq_iff.trans (totalNanos_inj hv hw).symm
  isValue_ofCanonical _ := Date.isSubsecond_ofTicks _
  place_ofCanonical := totalNanos_date_ofCanonical
  isValue_lowest := Date.isSubsecond_ofTicks _
  isValue_highest := Date.isSubsecond_ofTicks _
  place_lowest := Date.totalNanos_ofTicks le_rfl (by decide)
  place_highest := Date.totalNanos_ofTicks (by decide) le_rfl
  toCanonical_eq _ := rfl
  natAbs_count_le := natAbs_date_toTicks_le
  count_mono := Date.toTicks_mono
  reaches := isInReach_of_lowest

theorem counts_timeSpan :
    Counts (timeSpan (α := Float)) .timeSpans (fun v => totalNanos v.seconds v.nanos) Int64.minValue.toInt
      Int64.maxValue.toInt nanosPerTick where
  scale_pos := by decide
  lo_nonpos := by decide
  hi_nonneg := by decide
  lt_iff hv hw := TimeSpan.lt_iff.trans (totalNanos_lt hv hw).symm
  eq_iff hv hw := TimeSpan.beq_iff.trans (totalNanos_inj hv hw).symm
  isValue_ofCanonical _ := TimeSpan.isSubsecond_ofTicks _
  place_ofCanonical := totalNanos_timeSpan_ofCanonical
  isValue_lowest := TimeSpan.isSubsecond_ofTicks _
  isValue_highest := TimeSpan.isSubsecond_ofTicks _
  place_lowest := TimeSpan.totalNanos_ofTicks Int64.minValue
  place_highest := TimeSpan.totalNanos_ofTicks Int64.maxValue
  toCanonical_eq _ := rfl
  natAbs_count_le := natAbs_timeSpan_toTicks_le
  count_mono hv hw _ h := TimeSpan.toTicks_mono hv hw h
  reaches _ _ := trivial

theorem project_date_iff {v : Date} (hv : IsSubsecond v.nanos) (hbits : v.toTicks.natAbs ≤ 2 ^ 53) :
    (date (α := Float)).project v = v ↔ nanosPerTick ∣ v.nanos := by
  refine ⟨fun h => ?_, fun hwhole => project_date ⟨⟨hv, hwhole⟩, hbits⟩⟩
  rw [← h]
  exact Date.nanosPerTick_dvd_ofTicks _

theorem project_timeSpan_iff {v : TimeSpan} (hv : IsSubsecond v.nanos) (hbits : v.toTicks.natAbs ≤ 2 ^ 53) :
    (timeSpan (α := Float)).project v = v ↔ nanosPerTick ∣ v.nanos := by
  refine ⟨fun h => ?_, fun hwhole => project_timeSpan ⟨⟨hv, hwhole⟩, hbits⟩⟩
  rw [← h]
  exact TimeSpan.nanosPerTick_dvd_ofTicks _

/-- Whole numbers, dates and time spans are made of numbers, and projected, in order. -/
theorem converts_in_order :
    ConvertsInOrder (int32 (α := Float)) (.units Int32.toInt) ∧
      ConvertsInOrder (int64 (α := Float)) (.units Int64.toInt) ∧
      ConvertsInOrder (date (α := Float)) .dates ∧ ConvertsInOrder (timeSpan (α := Float)) .timeSpans := by
  refine ⟨?int32, ?int64, ?date, ?timeSpan⟩
  case int32 => exact counts_int32.convertsInOrder fun n _ _ => iff_of_true (project_int32 n) trivial
  case int64 => exact counts_int64.convertsInOrder fun _ _ hbits => iff_of_true (project_int64 hbits) trivial
  case date => exact counts_date.convertsInOrder fun _ => project_date_iff
  case timeSpan => exact counts_timeSpan.convertsInOrder fun _ => project_timeSpan_iff

/-- Infinities make the limits of a word, and the tick before 1970 comes back. The first date in reach is projected in
order, and so is a time span that no count reaches. -/
theorem converts_in_order_limits :
    let low : Float := -1 / 0
    let high : Float := 1 / 0
    let tick : Date := .ofTicks (-1)
    let first : Date := ⟨-922337203685, 0⟩
    let beyond : TimeSpan := ⟨-922337203686, 0⟩
    (isNaN low = false ∧ isNaN high = false ∧ low ≤ high ∧ (int64 (α := Float)).ofCanonical low = Int64.minValue ∧
        (int64 (α := Float)).AtMost (int64.ofCanonical low) (int64.ofCanonical high)) ∧
      (tick.toTicks = -1 ∧ nanosPerTick ∣ tick.nanos ∧ (date (α := Float)).ofCanonical (date.toCanonical tick) = tick) ∧
      (first.IsInReach ∧ (date (α := Float)).toCanonical first ≤ date.toCanonical ⟨-922337203685, 99⟩) ∧
      (timeSpan (α := Float)).toCanonical beyond ≤ timeSpan.toCanonical (.ofTicks Int64.minValue.toInt) := by
  intro low high tick first beyond
  obtain ⟨-, hint64, hdate, hspan⟩ := converts_in_order
  have hlow : isNaN low = false := by decide +kernel
  have hhigh : isNaN high = false := by decide +kernel
  have hle : low ≤ high := by decide +kernel
  have htick : nanosPerTick ∣ tick.nanos := by decide
  have hreach : first.IsInReach := by decide
  refine ⟨⟨hlow, hhigh, hle, by decide +kernel, hint64.numbers_in_order hlow hhigh hle⟩, ⟨by decide, htick, ?_⟩,
    ⟨hreach, ?_⟩, ?_⟩
  · exact (hdate.comes_back_iff ⟨by decide, by decide⟩ (by decide)).2 htick
  · exact hdate.values_in_order ⟨by decide, by decide⟩ ⟨by decide, by decide⟩ hreach (by decide)
  · exact hspan.values_in_order ⟨by decide, by decide⟩ ⟨by decide, by decide⟩ trivial (by decide)

/-- Half a tick is lost on the way. A leap second, which is before the next minute, is projected above its start and
comes back as a later moment. And the date of the least 64-bit count of ticks is projected above a later date: its
seconds stop at the end of the word, and its nanoseconds are counted from there on. -/
theorem dates_lose_place :
    let half : Date := ⟨0, 50⟩
    let leap : Date := ⟨59, 1500000000⟩
    let minute : Date := ⟨60, 0⟩
    let earlier : Date := .ofTicks (-9223372036854775808)
    let later : Date := .ofTicks (-9223372036850000000)
    (Date.ofParts? 0 50 = some half ∧ half.toTicks = 0 ∧
        (date (α := Float)).ofCanonical (date.toCanonical half) ≠ half) ∧
      (leap.toTicks = 605000000 ∧ nanosPerTick ∣ leap.nanos ∧ (date (α := Float)).AtMost leap minute ∧
        (date (α := Float)).toCanonical minute < date.toCanonical leap ∧
        (date (α := Float)).ofCanonical (date.toCanonical leap) ≠ leap) ∧
      (date (α := Float)).AtMost earlier later ∧ (date (α := Float)).toCanonical later < date.toCanonical earlier := by
  decide +kernel

end Domain

end ChartGestures
