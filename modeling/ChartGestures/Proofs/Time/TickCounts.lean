import ChartGestures.Proofs.Range.Domains

/-!
# Ticks come back

A date or a time span that is made of ticks holds whole seconds, rounded down, and the nanoseconds past them. Counted in
ticks again it gives the ticks it was made of, although a time span is counted from seconds that are rounded toward
zero. Within the limits of a date range, and for a time span of any 64-bit count, no step on these ways falls back on a
default or stops at the end of a word. More ticks make a later date and a longer time.

The other way round, a later date has no fewer ticks from the first whole second on whose ticks a word can hold. Before
it the seconds stop at the end of the word while the nanoseconds go on. A longer time has no fewer ticks in any case.
-/

namespace ChartGestures

/-! ### Counting -/

theorem saturate64_eq_self {n : Int} (hmin : Int64.minValue.toInt ≤ n) (hmax : n ≤ Int64.maxValue.toInt) :
    saturate64 n = n := by
  rw [saturate64, min_eq_right hmax, max_eq_right hmin]

theorem saturate64_mono {n m : Int} (h : n ≤ m) : saturate64 n ≤ saturate64 m := by
  rw [saturate64, saturate64]
  omega

/-- Nanoseconds of whole ticks are counted in ticks without a rest, whichever way the seconds were rounded. -/
theorem count_eq {seconds nanos ticks : Int} (h : totalNanos seconds nanos = nanosPerTick * ticks) :
    seconds * ticksPerSecond + Int.tdiv nanos nanosPerTick = ticks := by
  have hnanos : nanos = nanosPerTick * (ticks - seconds * ticksPerSecond) := by
    simp only [totalNanos, nanosPerSecond, nanosPerTick, ticksPerSecond] at h ⊢
    omega
  rw [hnanos, Int.mul_tdiv_cancel_left _ (by decide)]
  omega

/-- So many seconds and nanoseconds are counted as `ticks`, and no word ends before the count does. -/
structure CountsTo (seconds nanos ticks : Int) : Prop where
  seconds_fit : saturate64 (seconds * ticksPerSecond) = seconds * ticksPerSecond
  count : seconds * ticksPerSecond + Int.tdiv nanos nanosPerTick = ticks
  fits : saturate64 ticks = ticks

theorem CountsTo.counted {seconds nanos ticks : Int} (h : CountsTo seconds nanos ticks) :
    saturate64 (saturate64 (seconds * ticksPerSecond) + Int.tdiv nanos nanosPerTick) = ticks := by
  rw [h.seconds_fit, h.count, h.fits]

theorem eq_of_saturate64_eq {n m : Int} (h : saturate64 n = m) (hbits : m.natAbs ≤ 2 ^ 62) : n = m := by
  have hmin : Int64.minValue.toInt = -2 ^ 63 := rfl
  have hmax : Int64.maxValue.toInt = 2 ^ 63 - 1 := rfl
  rw [saturate64, hmin, hmax] at h
  omega

/-- A count that does not come near the ends of a word is a count of all the nanoseconds, if they make whole ticks. -/
theorem totalNanos_of_counted {seconds nanos ticks : Int} (hnanos : nanos.natAbs < nanosPerSecond.natAbs)
    (hwhole : nanosPerTick ∣ nanos) (hbits : ticks.natAbs ≤ 2 ^ 53)
    (h : saturate64 (saturate64 (seconds * ticksPerSecond) + Int.tdiv nanos nanosPerTick) = ticks) :
    totalNanos seconds nanos = nanosPerTick * ticks := by
  obtain ⟨k, rfl⟩ := hwhole
  rw [Int.mul_tdiv_cancel_left _ (by decide)] at h
  have hcount := eq_of_saturate64_eq h (by omega)
  simp only [nanosPerTick, nanosPerSecond] at hnanos
  have hseconds := eq_of_saturate64_eq (m := ticks - k) (n := seconds * ticksPerSecond) (by omega) (by omega)
  simp only [totalNanos, ticksPerSecond, nanosPerSecond, nanosPerTick] at hseconds ⊢
  omega

/-- Nanoseconds past a second that make whole ticks. -/
structure IsWholeTick (nanos : Int) : Prop where
  subsecond : IsSubsecond nanos
  whole : nanosPerTick ∣ nanos

/-- A value is made of the parts of `ticks`, with room for the nanoseconds in a 32-bit word and no part refused. -/
def MadeOf {V : Type} (ofParts? : Int → Int → Option V) (ticks : Int) (v : V) : Prop :=
  ∃ nanos, tickNanos? ticks = some nanos ∧ ofParts? (ticks / ticksPerSecond) nanos = some v

theorem madeOf_iff {V : Type} {ofParts? : Int → Int → Option V} {ticks : Int} {v : V} :
    MadeOf ofParts? ticks v ↔
      ofParts? (ticks / ticksPerSecond) (ticks % ticksPerSecond * nanosPerTick) = some v := by
  simp [MadeOf, tickNanos?_eq]

/-! ### Dates -/

namespace Date

variable {t : Int}

theorem totalNanos_ofTicks (hmin : minDateTicks ≤ t) (hmax : t ≤ maxDateTicks) :
    totalNanos (ofTicks t).seconds (ofTicks t).nanos = nanosPerTick * t := by
  rw [ofTicks_of_mem hmin hmax]
  exact totalNanos_ticks t

theorem madeOf_ofTicks (hmin : minDateTicks ≤ t) (hmax : t ≤ maxDateTicks) : MadeOf ofParts? t (ofTicks t) := by
  obtain ⟨hnonneg, hbelow⟩ := isSubsecond_ticks t
  have hcalendar : -8334601228800 ≤ t / ticksPerSecond ∧ t / ticksPerSecond ≤ 8210266876799 := by
    simp only [minDateTicks, maxDateTicks, ticksPerSecond] at *
    omega
  rw [madeOf_iff, ofTicks_of_mem hmin hmax, ofParts?, if_pos ⟨hcalendar.1, hcalendar.2, hnonneg, hbelow⟩]

/-- The limits of a date range are so far inside a word that there is room to round the seconds down. -/
theorem countsTo_ofTicks (hmin : minDateTicks ≤ t) (hmax : t ≤ maxDateTicks) :
    CountsTo (ofTicks t).seconds (ofTicks t).nanos t := by
  have hcount := count_eq (totalNanos_ofTicks hmin hmax)
  have hlow : Int64.minValue.toInt + ticksPerSecond ≤ minDateTicks := by decide
  have hhigh : maxDateTicks ≤ Int64.maxValue.toInt := by decide
  have hseconds : t - ticksPerSecond ≤ (ofTicks t).seconds * ticksPerSecond ∧
      (ofTicks t).seconds * ticksPerSecond ≤ t := by
    rw [ofTicks_of_mem hmin hmax]
    simp only [ticksPerSecond]
    omega
  exact ⟨saturate64_eq_self (by omega) (by omega), hcount, saturate64_eq_self (by omega) (by omega)⟩

theorem lt_ofTicks_iff {s t : Int} (hs : minDateTicks ≤ s) (hs' : s ≤ maxDateTicks) (ht : minDateTicks ≤ t)
    (ht' : t ≤ maxDateTicks) : Date.lt (ofTicks s) (ofTicks t) ↔ s < t := by
  rw [lt_iff, ← totalNanos_lt (isSubsecond_ofTicks s) (isSubsecond_ofTicks t), totalNanos_ofTicks hs hs',
    totalNanos_ofTicks ht ht', nanosPerTick]
  omega

theorem nanosPerTick_dvd_ofTicks (n : Int) : nanosPerTick ∣ (ofTicks n).nanos := by
  rw [ofTicks, tickNanos?_eq, Option.getD_some, ofParts?]
  split
  · exact Int.dvd_mul_left _ _
  · exact Int.dvd_zero _

/-- The whole seconds of the date make ticks that a 64-bit word reaches down to. -/
def IsInReach (d : Date) : Prop := Int64.minValue.toInt ≤ d.seconds * ticksPerSecond

instance (d : Date) : Decidable d.IsInReach := inferInstanceAs (Decidable (_ ≤ _))

/-- Within reach nothing but the count itself may stop at the end of a word. -/
theorem toTicks_eq {d : Date} (h : IsSubsecond d.nanos) (hreach : d.IsInReach) :
    d.toTicks = saturate64 (totalNanos d.seconds d.nanos / nanosPerTick) := by
  have hmin : Int64.minValue.toInt = -2 ^ 63 := rfl
  have hmax : Int64.maxValue.toInt = 2 ^ 63 - 1 := rfl
  obtain ⟨hnonneg, hbelow⟩ := h
  rw [IsInReach] at hreach
  rw [toTicks, Int.tdiv_eq_ediv_of_nonneg hnonneg]
  -- the seconds can only stop at the upper end, where the nanoseconds add nothing
  simp only [saturate64, totalNanos, hmin, hmax, ticksPerSecond, nanosPerTick, nanosPerSecond] at *
  omega

theorem isInReach_of_le {a b : Date} (ha : IsSubsecond a.nanos) (hb : IsSubsecond b.nanos) (hreach : a.IsInReach)
    (h : totalNanos a.seconds a.nanos ≤ totalNanos b.seconds b.nanos) : b.IsInReach := by
  simp only [IsInReach, IsSubsecond, totalNanos, nanosPerSecond, ticksPerSecond] at *
  omega

theorem toTicks_mono {a b : Date} (ha : IsSubsecond a.nanos) (hb : IsSubsecond b.nanos) (hreach : a.IsInReach)
    (h : totalNanos a.seconds a.nanos ≤ totalNanos b.seconds b.nanos) : a.toTicks ≤ b.toTicks := by
  rw [toTicks_eq ha hreach, toTicks_eq hb (isInReach_of_le ha hb hreach h)]
  exact saturate64_mono (Int.ediv_le_ediv (by decide) h)

/-- Whole ticks make the date again that they were counted from. -/
theorem ofTicks_toTicks {d : Date} (h : IsWholeTick d.nanos) (hbits : d.toTicks.natAbs ≤ 2 ^ 53) :
    ofTicks d.toTicks = d := by
  have hmin : minDateTicks ≤ -2 ^ 53 := by decide
  have hmax : 2 ^ 53 ≤ maxDateTicks := by decide
  obtain ⟨hnonneg, hbelow⟩ := h.subsecond
  have htotal := totalNanos_of_counted (by omega) h.whole hbits rfl
  refine ext_iff.2 ((totalNanos_inj (isSubsecond_ofTicks _) h.subsecond).1 ?_)
  rw [htotal]
  exact totalNanos_ofTicks (by omega) (by omega)

end Date

/-! ### Time spans -/

namespace TimeSpan

theorem totalNanos_parts (s : TimeSpan) :
    totalNanos s.wholeSeconds s.subsecondNanos = totalNanos s.seconds s.nanos := by
  unfold wholeSeconds subsecondNanos
  split
  · simp only [totalNanos]
    rw [Int.add_mul]
    omega
  · rfl

/-- The parts that are counted are those of a division that rounds toward zero. -/
theorem parts_eq {s : TimeSpan} (h : IsSubsecond s.nanos) :
    s.wholeSeconds = Int.tdiv (totalNanos s.seconds s.nanos) nanosPerSecond ∧
      s.subsecondNanos = Int.tmod (totalNanos s.seconds s.nanos) nanosPerSecond := by
  obtain ⟨hnonneg, hbelow⟩ := h
  have hwhole : s.wholeSeconds = Int.tdiv (totalNanos s.seconds s.nanos) nanosPerSecond := by
    unfold wholeSeconds
    simp only [totalNanos, nanosPerSecond] at hbelow ⊢
    rw [Int.tdiv_eq_ediv, Int.sign_eq_one_of_pos (by decide)]
    split <;> split <;> omega
  refine ⟨hwhole, ?_⟩
  have hparts : s.wholeSeconds * nanosPerSecond + s.subsecondNanos = totalNanos s.seconds s.nanos := totalNanos_parts s
  rw [Int.tmod_def, ← hwhole, Int.mul_comm, ← hparts]
  omega

variable (t : Int64)

theorem ofTicks_toInt :
    ofTicks t.toInt = ⟨t.toInt / ticksPerSecond, t.toInt % ticksPerSecond * nanosPerTick⟩ :=
  ofTicks_of_mem t.minValue_le_toInt t.toInt_le

theorem totalNanos_ofTicks : totalNanos (ofTicks t.toInt).seconds (ofTicks t.toInt).nanos = nanosPerTick * t.toInt := by
  rw [ofTicks_toInt]
  exact totalNanos_ticks _

theorem madeOf_ofTicks : MadeOf ofParts? t.toInt (ofTicks t.toInt) := by
  obtain ⟨hnonneg, hbelow⟩ := isSubsecond_ticks t.toInt
  have htotal : t.toInt / ticksPerSecond * nanosPerSecond + t.toInt % ticksPerSecond * nanosPerTick =
      nanosPerTick * t.toInt := totalNanos_ticks t.toInt
  have hlow := t.le_toInt
  have hhigh := t.toInt_lt
  have hclock : -(9223372036854775807 * 1000000) ≤ nanosPerTick * t.toInt ∧
      nanosPerTick * t.toInt ≤ 9223372036854775807 * 1000000 := by
    simp only [nanosPerTick]
    omega
  rw [madeOf_iff, ofTicks_toInt, ofParts?]
  simp only [htotal]
  rw [if_pos ⟨hnonneg, hbelow, hclock.1, hclock.2⟩]

/-- The seconds are rounded toward zero, so they are never further from it than the ticks. -/
theorem countsTo_ofTicks : CountsTo (ofTicks t.toInt).wholeSeconds (ofTicks t.toInt).subsecondNanos t.toInt := by
  have hcount := count_eq ((totalNanos_parts _).trans (totalNanos_ofTicks t))
  have hseconds : min t.toInt 0 ≤ (ofTicks t.toInt).wholeSeconds * ticksPerSecond ∧
      (ofTicks t.toInt).wholeSeconds * ticksPerSecond ≤ max t.toInt 0 := by
    rw [(parts_eq (isSubsecond_ofTicks _)).1, totalNanos_ofTicks, Int.tdiv_eq_ediv, Int.sign_eq_one_of_pos (by decide)]
    simp only [ticksPerSecond, nanosPerTick, nanosPerSecond]
    omega
  have hmin : Int64.minValue.toInt ≤ 0 := by decide
  have hmax : 0 ≤ Int64.maxValue.toInt := by decide
  have hlow := t.minValue_le_toInt
  have hhigh := t.toInt_le
  exact ⟨saturate64_eq_self (by omega) (by omega), hcount, saturate64_eq_self hlow hhigh⟩

theorem lt_ofTicks_iff (s t : Int64) : TimeSpan.lt (ofTicks s.toInt) (ofTicks t.toInt) ↔ s.toInt < t.toInt := by
  rw [lt_iff, ← totalNanos_lt (isSubsecond_ofTicks _) (isSubsecond_ofTicks _), totalNanos_ofTicks, totalNanos_ofTicks,
    nanosPerTick]
  omega

theorem nanosPerTick_dvd_ofTicks (n : Int) : nanosPerTick ∣ (ofTicks n).nanos := by
  rw [ofTicks, tickNanos?_eq, Option.getD_some, ofParts?]
  split
  · exact Int.dvd_mul_left _ _
  · exact Int.dvd_zero _

/-- The seconds are rounded toward zero, so what is left of the nanoseconds never leads back from the end of a word. -/
theorem toTicks_eq {s : TimeSpan} (h : IsSubsecond s.nanos) :
    s.toTicks = saturate64 (Int.tdiv (totalNanos s.seconds s.nanos) nanosPerTick) := by
  have hmin : Int64.minValue.toInt = -2 ^ 63 := rfl
  have hmax : Int64.maxValue.toInt = 2 ^ 63 - 1 := rfl
  have hsign : Int.sign 100 = 1 := rfl
  obtain ⟨hnonneg, hbelow⟩ := h
  rw [toTicks, wholeSeconds, subsecondNanos]
  simp only [saturate64, totalNanos, hmin, hmax, ticksPerSecond, nanosPerTick, nanosPerSecond, Int.tdiv_eq_ediv,
    hsign] at *
  split <;> omega

theorem toTicks_mono {a b : TimeSpan} (ha : IsSubsecond a.nanos) (hb : IsSubsecond b.nanos)
    (h : totalNanos a.seconds a.nanos ≤ totalNanos b.seconds b.nanos) : a.toTicks ≤ b.toTicks := by
  rw [toTicks_eq ha, toTicks_eq hb]
  exact saturate64_mono (Int.tdiv_le_tdiv (by decide) h)

/-- Whole ticks make the time span again that they were counted from. -/
theorem ofTicks_toTicks {s : TimeSpan} (h : IsWholeTick s.nanos) (hbits : s.toTicks.natAbs ≤ 2 ^ 53) :
    ofTicks s.toTicks = s := by
  obtain ⟨hnonneg, hbelow⟩ := h.subsecond
  have hparts : s.subsecondNanos.natAbs < nanosPerSecond.natAbs ∧ nanosPerTick ∣ s.subsecondNanos := by
    have hsecond : nanosPerTick ∣ nanosPerSecond := by decide
    unfold subsecondNanos
    split
    · exact ⟨by omega, Int.dvd_sub h.whole hsecond⟩
    · exact ⟨by omega, h.whole⟩
  have htotal := totalNanos_of_counted hparts.1 hparts.2 hbits rfl
  have hword : (Int64.ofInt s.toTicks).toInt = s.toTicks := Int64.toInt_ofInt_of_le (by omega) (by omega)
  refine ext_iff.2 ((totalNanos_inj (isSubsecond_ofTicks _) h.subsecond).1 ?_)
  rw [← totalNanos_parts s, htotal]
  have hticks := totalNanos_ofTicks (Int64.ofInt s.toTicks)
  rw [hword] at hticks
  exact hticks

end TimeSpan

/-! ### There and back -/

/-- Ticks come back from the dates and time spans made of them, without a default or the end of a word on the way, and
make them in their own order. -/
theorem ticks_come_back :
    (∀ t ∈ Set.Icc minDateTicks maxDateTicks, (Date.ofTicks t).toTicks = t ∧
      MadeOf Date.ofParts? t (Date.ofTicks t) ∧ CountsTo (Date.ofTicks t).seconds (Date.ofTicks t).nanos t) ∧
    (∀ t : Int64, (TimeSpan.ofTicks t.toInt).toTicks = t.toInt ∧
      MadeOf TimeSpan.ofParts? t.toInt (TimeSpan.ofTicks t.toInt) ∧
      CountsTo (TimeSpan.ofTicks t.toInt).wholeSeconds (TimeSpan.ofTicks t.toInt).subsecondNanos t.toInt) ∧
    (∀ s ∈ Set.Icc minDateTicks maxDateTicks, ∀ t ∈ Set.Icc minDateTicks maxDateTicks,
      (Date.lt (Date.ofTicks s) (Date.ofTicks t) ↔ s < t)) ∧
    ∀ s t : Int64, TimeSpan.lt (TimeSpan.ofTicks s.toInt) (TimeSpan.ofTicks t.toInt) ↔ s < t := by
  refine ⟨?dates, ?spans, ?dateOrder, ?spanOrder⟩
  case dates =>
    rintro t ⟨hmin, hmax⟩
    have hcounts := Date.countsTo_ofTicks hmin hmax
    exact ⟨hcounts.counted, Date.madeOf_ofTicks hmin hmax, hcounts⟩
  case spans =>
    intro t
    have hcounts := TimeSpan.countsTo_ofTicks t
    exact ⟨hcounts.counted, TimeSpan.madeOf_ofTicks t, hcounts⟩
  case dateOrder =>
    rintro s ⟨hs, hs'⟩ t ⟨ht, ht'⟩
    exact Date.lt_ofTicks_iff hs hs' ht ht'
  case spanOrder =>
    intro s t
    rw [TimeSpan.lt_ofTicks_iff, Int64.lt_iff_toInt_lt]

/-- The tick before 1970 and the shortest time span: the one has its seconds rounded down, the other toward zero. -/
theorem ticks_come_back_negative :
    (-1 ∈ Set.Icc minDateTicks maxDateTicks) ∧ (Date.ofTicks (-1)).seconds = -1 ∧ (Date.ofTicks (-1)).toTicks = -1 ∧
      (TimeSpan.ofTicks Int64.minValue.toInt).seconds = -922337203686 ∧
      (TimeSpan.ofTicks Int64.minValue.toInt).wholeSeconds = -922337203685 ∧
      (TimeSpan.ofTicks Int64.minValue.toInt).toTicks = Int64.minValue.toInt := by
  obtain ⟨hdates, hspans, -, -⟩ := ticks_come_back
  have hdate : -1 ∈ Set.Icc minDateTicks maxDateTicks := ⟨by decide, by decide⟩
  exact ⟨hdate, by decide, (hdates (-1) hdate).1, by decide, by decide, (hspans Int64.minValue).1⟩

end ChartGestures
