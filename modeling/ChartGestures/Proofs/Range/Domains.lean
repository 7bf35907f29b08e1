import ChartGestures.Proofs.Number.Rounding
import ChartGestures.Range.Basic
import Mathlib.Data.Prod.Lex

/-!
# Domains in order

The comparison of a domain is a strict order of its values, in which one that is no number stands below and above
nothing. `Wraps` lists the domains with the kind of range that their intervals are.
-/

namespace ChartGestures

open Scalar

theorem Date.lt_iff {a b : Date} : Date.lt a b ↔ a.seconds < b.seconds ∨ a.seconds = b.seconds ∧ a.nanos < b.nanos := by
  simp [Date.lt]

/-- Seconds come first: a leap second is a moment with more nanoseconds than a second has. -/
theorem Date.lt_iff_toLex {a b : Date} :
    Date.lt a b ↔ (toLex (a.seconds, a.nanos) : Int ×ₗ Int) < toLex (b.seconds, b.nanos) := by
  rw [Date.lt_iff, Prod.Lex.toLex_lt_toLex]

theorem TimeSpan.lt_iff {a b : TimeSpan} :
    TimeSpan.lt a b ↔ a.seconds < b.seconds ∨ a.seconds = b.seconds ∧ a.nanos < b.nanos := by
  simp [TimeSpan.lt]

theorem TimeSpan.lt_iff_toLex {a b : TimeSpan} :
    TimeSpan.lt a b ↔ (toLex (a.seconds, a.nanos) : Int ×ₗ Int) < toLex (b.seconds, b.nanos) := by
  rw [TimeSpan.lt_iff, Prod.Lex.toLex_lt_toLex]

/-! ### Moments and lengths of time -/

/-- Seconds and the nanoseconds after them, as nanoseconds. -/
def totalNanos (seconds nanos : Int) : Int := seconds * nanosPerSecond + nanos

def IsSubsecond (nanos : Int) : Prop := 0 ≤ nanos ∧ nanos < nanosPerSecond

theorem totalNanos_inj {s t n m : Int} (hn : IsSubsecond n) (hm : IsSubsecond m) :
    totalNanos s n = totalNanos t m ↔ s = t ∧ n = m := by
  simp only [IsSubsecond, totalNanos, nanosPerSecond] at *
  omega

theorem totalNanos_lt {s t n m : Int} (hn : IsSubsecond n) (hm : IsSubsecond m) :
    totalNanos s n < totalNanos t m ↔ s < t ∨ s = t ∧ n < m := by
  simp only [IsSubsecond, totalNanos, nanosPerSecond] at *
  omega

theorem isSubsecond_ticks (n : Int) : IsSubsecond (n % ticksPerSecond * nanosPerTick) := by
  simp only [IsSubsecond, ticksPerSecond, nanosPerTick, nanosPerSecond]
  omega

theorem totalNanos_ticks (n : Int) :
    totalNanos (n / ticksPerSecond) (n % ticksPerSecond * nanosPerTick) = nanosPerTick * n := by
  simp only [totalNanos, ticksPerSecond, nanosPerTick, nanosPerSecond]
  omega

/-- A 32-bit word always has room. -/
theorem tickNanos?_eq (n : Int) : tickNanos? n = some (n % ticksPerSecond * nanosPerTick) := by
  obtain ⟨hnonneg, hbelow⟩ := isSubsecond_ticks n
  have hroom : nanosPerSecond ≤ 4294967296 := by decide
  rw [tickNanos?, if_pos ⟨hnonneg, hbelow.trans_le hroom⟩]

namespace Date

theorem ext_iff {a b : Date} : a = b ↔ a.seconds = b.seconds ∧ a.nanos = b.nanos := by
  cases a
  cases b
  simp

theorem beq_iff {a b : Date} : (a == b) = true ↔ a.seconds = b.seconds ∧ a.nanos = b.nanos := by
  have hbeq : (a == b) = (a.seconds == b.seconds && a.nanos == b.nanos) := rfl
  simp [hbeq]

theorem toLex_inj {a b : Date} : (toLex (a.seconds, a.nanos) : Int ×ₗ Int) = toLex (b.seconds, b.nanos) ↔ a = b := by
  rw [EmbeddingLike.apply_eq_iff_eq, Prod.mk_inj, ext_iff]

theorem ofTicks_of_mem {n : Int} (hmin : minDateTicks ≤ n) (hmax : n ≤ maxDateTicks) :
    Date.ofTicks n = ⟨n / ticksPerSecond, n % ticksPerSecond * nanosPerTick⟩ := by
  obtain ⟨hnonneg, hbelow⟩ := isSubsecond_ticks n
  have hcalendar : -8334601228800 ≤ n / ticksPerSecond ∧ n / ticksPerSecond ≤ 8210266876799 := by
    simp only [minDateTicks, maxDateTicks, ticksPerSecond] at *
    omega
  rw [ofTicks, tickNanos?_eq, Option.getD_some, ofParts?, if_pos ⟨hcalendar.1, hcalendar.2, hnonneg, hbelow⟩]
  rfl

theorem isSubsecond_ofTicks (n : Int) : IsSubsecond (Date.ofTicks n).nanos := by
  rw [ofTicks, ofParts?]
  split
  · next h => exact ⟨h.2.2.1, h.2.2.2⟩
  · exact ⟨le_rfl, by decide⟩

end Date

namespace TimeSpan

theorem ext_iff {a b : TimeSpan} : a = b ↔ a.seconds = b.seconds ∧ a.nanos = b.nanos := by
  cases a
  cases b
  simp

theorem beq_iff {a b : TimeSpan} : (a == b) = true ↔ a.seconds = b.seconds ∧ a.nanos = b.nanos := by
  have hbeq : (a == b) = (a.seconds == b.seconds && a.nanos == b.nanos) := rfl
  simp [hbeq]

theorem toLex_inj {a b : TimeSpan} :
    (toLex (a.seconds, a.nanos) : Int ×ₗ Int) = toLex (b.seconds, b.nanos) ↔ a = b := by
  rw [EmbeddingLike.apply_eq_iff_eq, Prod.mk_inj, ext_iff]

theorem ofTicks_of_mem {n : Int} (hmin : Int64.minValue.toInt ≤ n) (hmax : n ≤ Int64.maxValue.toInt) :
    TimeSpan.ofTicks n = ⟨n / ticksPerSecond, n % ticksPerSecond * nanosPerTick⟩ := by
  obtain ⟨hnonneg, hbelow⟩ := isSubsecond_ticks n
  have htotal : n / ticksPerSecond * nanosPerSecond + n % ticksPerSecond * nanosPerTick = nanosPerTick * n :=
    totalNanos_ticks n
  have hclock :
      -(9223372036854775807 * 1000000) ≤ nanosPerTick * n ∧ nanosPerTick * n ≤ 9223372036854775807 * 1000000 := by
    have hmin' : Int64.minValue.toInt = -2 ^ 63 := rfl
    have hmax' : Int64.maxValue.toInt = 2 ^ 63 - 1 := rfl
    simp only [nanosPerTick]
    omega
  rw [ofTicks, tickNanos?_eq, Option.getD_some, ofParts?]
  simp only [htotal]
  rw [if_pos ⟨hnonneg, hbelow, hclock.1, hclock.2⟩]
  rfl

theorem isSubsecond_ofTicks (n : Int) : IsSubsecond (TimeSpan.ofTicks n).nanos := by
  rw [ofTicks, ofParts?]
  split
  · next h => exact ⟨h.1, h.2.1⟩
  · exact ⟨le_rfl, by decide⟩

end TimeSpan

namespace Domain

variable {α : Type} [Scalar α] [LawfulScalar α]

instance : IsStrictOrder α fun a b => (double (α := α)).lt a b where
  irrefl a h := Scalar.lt_irrefl a (of_decide_eq_true h)
  trans _ _ _ hab hbc := decide_eq_true (Scalar.lt_trans (of_decide_eq_true hab) (of_decide_eq_true hbc))

instance : IsStrictOrder α fun a b => (float (α := α)).lt a b where
  irrefl a h := Scalar.lt_irrefl a (of_decide_eq_true h)
  trans _ _ _ hab hbc := decide_eq_true (Scalar.lt_trans (of_decide_eq_true hab) (of_decide_eq_true hbc))

omit [LawfulScalar α]

instance : IsStrictOrder Int32 fun a b => (int32 (α := α)).lt a b where
  irrefl _ h := Int32.lt_irrefl (of_decide_eq_true h)
  trans _ _ _ hab hbc := decide_eq_true (Int32.lt_trans (of_decide_eq_true hab) (of_decide_eq_true hbc))

instance : IsStrictOrder Int64 fun a b => (int64 (α := α)).lt a b where
  irrefl _ h := Int64.lt_irrefl (of_decide_eq_true h)
  trans _ _ _ hab hbc := decide_eq_true (Int64.lt_trans (of_decide_eq_true hab) (of_decide_eq_true hbc))

instance [Decimals α] : IsStrictOrder (Decimals.Value α) fun a b => (decimal (α := α)).lt a b where
  irrefl a := Bool.eq_false_iff.1 (Decimals.lt_irrefl a)
  trans _ _ _ := Decimals.lt_trans

instance : IsStrictOrder Date fun a b => (date (α := α)).lt a b where
  irrefl a h := by
    have := Date.lt_iff.1 h
    omega
  trans a b c hab hbc := by
    have := Date.lt_iff.1 hab
    have := Date.lt_iff.1 hbc
    exact Date.lt_iff.2 (by omega)

instance : IsStrictOrder TimeSpan fun a b => (timeSpan (α := α)).lt a b where
  irrefl a h := by
    have := TimeSpan.lt_iff.1 h
    omega
  trans a b c hab hbc := by
    have := TimeSpan.lt_iff.1 hab
    have := TimeSpan.lt_iff.1 hbc
    exact TimeSpan.lt_iff.2 (by omega)

/-! ### Places -/

/-- What a value comes back as from its projection. -/
def project {V : Type} (d : Domain α V) (v : V) : V := d.ofCanonical (d.toCanonical v)

/-- The values of a domain in line. `IsValue` are the values that the kind of range has, `IsNumber` those that have a
place. The projection may run values together; it never parts from its domain otherwise. -/
class Placed {V : Type} (d : Domain Float V) (P : outParam Type) [LinearOrder P] where
  IsValue : V → Prop
  IsNumber : V → Prop
  place : V → P
  lt_iff {a b : V} : IsNumber a → IsNumber b → (d.lt a b ↔ place a < place b)
  eq_iff {a b : V} : IsNumber a → IsNumber b → (d.eq a b ↔ place a = place b)
  isNumber {v : V} : IsValue v → d.isSentinel v = false → IsNumber v
  isNumber_ofCanonical {x : Float} : isNaN x = false → IsNumber (d.ofCanonical x)
  isFinite_toCanonical {v : V} : IsValue v → d.isSentinel v = false → isFinite (d.toCanonical v) = true
  project_eq {v : V} : IsValue v → d.isSentinel v = false → place (d.project v) = place v → d.project v = v
  toCanonical_lt_iff {a b : V} : d.project a = a → d.project b = b → (d.toCanonical a < d.toCanonical b ↔ d.lt a b)

theorem isFinite_of_not_sentinel {largest x : Float} (h : isFloatSentinel largest x = false) : isFinite x = true := by
  rw [isFloatSentinel, Bool.or_eq_false_iff, Bool.or_eq_false_iff] at h
  simpa using h.1.1

theorem saturate_of_isFinite {x : Float} (h : isFinite x = true) : saturate x = x := by
  rw [saturate, isInfinite, h]
  rfl

theorem isNaN_saturate {x : Float} (h : isNaN x = false) : isNaN (saturate x) = false := by
  rw [saturate]
  split
  · split <;> decide +kernel
  · exact h

theorem isNaN_toSingle {x : Float} (h : isNaN x = false) : isNaN (toSingle x) = false := by
  rw [toSingle]
  split
  · decide +kernel
  split
  · decide +kernel
  split
  · exact h
  · next q hq =>
    dsimp only
    split
    · exact Binary.isNaN_mul_zero (Option.isSome_iff_exists.2 ⟨q, hq⟩)
    · exact Binary.isNaN_nearestTo _

instance : Placed (double (α := Float)) (WithBot (WithTop ℚ)) where
  IsValue _ := True
  IsNumber x := isNaN x = false
  place := rank
  lt_iff hx hy := decide_eq_true_iff.trans (lt_iff_rank_lt hx hy)
  eq_iff hx hy := by
    rw [Binary.rank_eq_rank_unpack hx, Binary.rank_eq_rank_unpack hy]
    exact Binary.beq_iff hx hy
  isNumber _ h := Binary.isNaN_of_isFinite (isFinite_of_not_sentinel h)
  isNumber_ofCanonical := isNaN_saturate
  isFinite_toCanonical _ h := isFinite_of_not_sentinel h
  project_eq _ h _ := saturate_of_isFinite (isFinite_of_not_sentinel h)
  toCanonical_lt_iff _ _ := decide_eq_true_iff.symm

instance : Placed (float (α := Float)) (WithBot (WithTop ℚ)) where
  IsValue x := toSingle x = x
  IsNumber x := isNaN x = false
  place := rank
  lt_iff hx hy := decide_eq_true_iff.trans (lt_iff_rank_lt hx hy)
  eq_iff hx hy := by
    rw [Binary.rank_eq_rank_unpack hx, Binary.rank_eq_rank_unpack hy]
    exact Binary.beq_iff hx hy
  isNumber _ h := Binary.isNaN_of_isFinite (isFinite_of_not_sentinel h)
  isNumber_ofCanonical := isNaN_toSingle
  isFinite_toCanonical _ h := isFinite_of_not_sentinel h
  project_eq h _ _ := h
  toCanonical_lt_iff _ _ := decide_eq_true_iff.symm

/-! ### Whole numbers -/

theorem natAbs_saturate64_le (n : Int) : (saturate64 n).natAbs ≤ 2 ^ 64 := by
  have hmin : Int64.minValue.toInt = -2 ^ 63 := rfl
  have hmax : Int64.maxValue.toInt = 2 ^ 63 - 1 := rfl
  rw [saturate64, hmin, hmax]
  omega

theorem toIntWithin_bounds (round : ℚ → Int) {lo hi : Int} (hlo : lo ≤ 0) (hhi : 0 ≤ hi) (x : α) :
    lo ≤ toIntWithin round lo hi x ∧ toIntWithin round lo hi x ≤ hi := by
  rw [toIntWithin]
  split
  · omega
  · split
    · omega
    · split <;> omega

theorem isFinite_ofInt {n : Int} (hn : n.natAbs ≤ 2 ^ 64) : isFinite (ofInt n : Float) = true :=
  Binary.isFinite_nearestTo_whole hn

/-- Of values that come back from their projections, the projections compare as the values do. -/
theorem toCanonical_lt_iff_place {V : Type} {d : Domain Float V} {count : V → Int} {lo hi : Int} (place : V → Int)
    (scale : Int) (hscale : 0 < scale) (hlohi : lo ≤ hi) (hcanonical : ∀ v, d.toCanonical v = ofInt (count v))
    (hcount : ∀ v, (count v).natAbs ≤ 2 ^ 64)
    (hplace : ∀ x, place (d.ofCanonical x) = scale * toIntWithin roundHalfAway lo hi x) {a b : V}
    (hinj : place a = place b → a = b) (ha : d.project a = a) (hb : d.project b = b) :
    d.toCanonical a < d.toCanonical b ↔ place a < place b := by
  have hnumber : ∀ v, isNaN (d.toCanonical v) = false := by
    intro v
    rw [hcanonical]
    exact Binary.isNaN_of_isFinite (isFinite_ofInt (hcount v))
  have hmono : ∀ v w, d.project v = v → d.project w = w → ¬ d.toCanonical w < d.toCanonical v → place v ≤ place w := by
    intro v w hv hw hle
    rw [not_lt_iff_le (hnumber w) (hnumber v), le_iff_rank_le (hnumber v) (hnumber w)] at hle
    have hrounded := toIntWithin_mono roundHalfAway_mono hlohi (hnumber v) (hnumber w) hle
    have hplaced : place v = scale * toIntWithin roundHalfAway lo hi (d.toCanonical v) := by
      rw [← hplace]
      exact congrArg place hv.symm
    calc place v = scale * toIntWithin roundHalfAway lo hi (d.toCanonical v) := hplaced
      _ ≤ scale * toIntWithin roundHalfAway lo hi (d.toCanonical w) := Int.mul_le_mul_of_nonneg_left hrounded hscale.le
      _ = place w := by rw [← hplace]; exact congrArg place hw
  constructor
  · intro h
    refine lt_of_le_of_ne (hmono a b ha hb fun h' => Scalar.lt_irrefl _ (Scalar.lt_trans h h')) fun heq => ?_
    rw [hinj heq] at h
    exact Scalar.lt_irrefl _ h
  · intro h
    by_contra hle
    exact absurd h (not_lt.2 (hmono b a hb ha hle))

theorem natAbs_int32_le (n : Int32) : n.toInt.natAbs ≤ 2 ^ 64 := by
  have hlower := n.le_toInt
  have hupper := n.toInt_lt
  omega

theorem natAbs_int64_le (n : Int64) : n.toInt.natAbs ≤ 2 ^ 64 := by
  have hlower := n.le_toInt
  have hupper := n.toInt_lt
  omega

theorem toInt_int32_ofCanonical (x : α) : ((int32 (α := α)).ofCanonical x).toInt =
    toIntWithin roundHalfAway Int32.minValue.toInt Int32.maxValue.toInt x := by
  have hlo : Int32.minValue.toInt ≤ 0 := by decide
  have hhi : 0 ≤ Int32.maxValue.toInt := by decide
  obtain ⟨hlower, hupper⟩ := toIntWithin_bounds roundHalfAway hlo hhi x
  exact Int32.toInt_ofInt_of_le hlower (Int.lt_add_one_of_le hupper)

theorem toInt_int64_ofCanonical (x : Float) : ((int64 (α := Float)).ofCanonical x).toInt =
    toIntWithin roundHalfAway Int64.minValue.toInt Int64.maxValue.toInt x := by
  have hlo : Int64.minValue.toInt ≤ 0 := by decide
  have hhi : 0 ≤ Int64.maxValue.toInt := by decide
  obtain ⟨hlower, hupper⟩ := toIntWithin_bounds roundHalfAway hlo hhi x
  exact Int64.toInt_ofInt_of_le hlower (Int.lt_add_one_of_le hupper)

instance : Placed (int32 (α := Float)) Int where
  IsValue _ := True
  IsNumber _ := True
  place n := n.toInt
  lt_iff _ _ := decide_eq_true_iff.trans Int32.lt_iff_toInt_lt
  eq_iff _ _ := beq_iff_eq.trans Int32.toInt_inj.symm
  isNumber _ _ := trivial
  isNumber_ofCanonical _ := trivial
  isFinite_toCanonical {n} _ _ := isFinite_ofInt (natAbs_int32_le n)
  project_eq _ _ h := Int32.toInt_inj.1 h
  toCanonical_lt_iff ha hb := by
    have hlimits : Int32.minValue.toInt ≤ Int32.maxValue.toInt := by decide
    refine (toCanonical_lt_iff_place Int32.toInt 1 Int.one_pos hlimits (fun _ => rfl) natAbs_int32_le (fun x => ?_)
      Int32.toInt_inj.1 ha hb).trans (decide_eq_true_iff.trans Int32.lt_iff_toInt_lt).symm
    rw [toInt_int32_ofCanonical, Int.one_mul]

instance : Placed (int64 (α := Float)) Int where
  IsValue _ := True
  IsNumber _ := True
  place n := n.toInt
  lt_iff _ _ := decide_eq_true_iff.trans Int64.lt_iff_toInt_lt
  eq_iff _ _ := beq_iff_eq.trans Int64.toInt_inj.symm
  isNumber _ _ := trivial
  isNumber_ofCanonical _ := trivial
  isFinite_toCanonical {n} _ _ := isFinite_ofInt (natAbs_int64_le n)
  project_eq _ _ h := Int64.toInt_inj.1 h
  toCanonical_lt_iff ha hb := by
    have hlimits : Int64.minValue.toInt ≤ Int64.maxValue.toInt := by decide
    refine (toCanonical_lt_iff_place Int64.toInt 1 Int.one_pos hlimits (fun _ => rfl) natAbs_int64_le (fun x => ?_)
      Int64.toInt_inj.1 ha hb).trans (decide_eq_true_iff.trans Int64.lt_iff_toInt_lt).symm
    rw [toInt_int64_ofCanonical, Int.one_mul]

/-! ### Ticks -/

theorem natAbs_date_toTicks_le (d : Date) : d.toTicks.natAbs ≤ 2 ^ 64 := natAbs_saturate64_le _

theorem natAbs_timeSpan_toTicks_le (s : TimeSpan) : s.toTicks.natAbs ≤ 2 ^ 64 := natAbs_saturate64_le _

theorem totalNanos_date_ofCanonical (x : Float) :
    totalNanos ((date (α := Float)).ofCanonical x).seconds ((date (α := Float)).ofCanonical x).nanos =
      nanosPerTick * toIntWithin roundHalfAway minDateTicks maxDateTicks x := by
  have hlo : minDateTicks ≤ 0 := by decide
  have hhi : 0 ≤ maxDateTicks := by decide
  obtain ⟨hlower, hupper⟩ := toIntWithin_bounds roundHalfAway hlo hhi x
  have hticks : (date (α := Float)).ofCanonical x = _ := Date.ofTicks_of_mem hlower hupper
  rw [hticks]
  exact totalNanos_ticks _

theorem totalNanos_timeSpan_ofCanonical (x : Float) :
    totalNanos ((timeSpan (α := Float)).ofCanonical x).seconds ((timeSpan (α := Float)).ofCanonical x).nanos =
      nanosPerTick * toIntWithin roundHalfAway Int64.minValue.toInt Int64.maxValue.toInt x := by
  have hlo : Int64.minValue.toInt ≤ 0 := by decide
  have hhi : 0 ≤ Int64.maxValue.toInt := by decide
  obtain ⟨hlower, hupper⟩ := toIntWithin_bounds roundHalfAway hlo hhi x
  have hticks : (timeSpan (α := Float)).ofCanonical x = _ := TimeSpan.ofTicks_of_mem hlower hupper
  rw [hticks]
  exact totalNanos_ticks _

instance : Placed (date (α := Float)) (Int ×ₗ Int) where
  IsValue _ := True
  IsNumber _ := True
  place v := toLex (v.seconds, v.nanos)
  lt_iff _ _ := Date.lt_iff_toLex
  eq_iff _ _ := Date.beq_iff.trans (Date.ext_iff.symm.trans Date.toLex_inj.symm)
  isNumber _ _ := trivial
  isNumber_ofCanonical _ := trivial
  isFinite_toCanonical {v} _ _ := isFinite_ofInt (natAbs_date_toTicks_le v)
  project_eq _ _ h := Date.toLex_inj.1 h
  toCanonical_lt_iff {a b} ha hb := by
    have hvalue : ∀ v, (date (α := Float)).project v = v → IsSubsecond v.nanos := by
      intro v hv
      rw [← hv]
      exact Date.isSubsecond_ofTicks _
    have hlimits : minDateTicks ≤ maxDateTicks := by decide
    have hlt := Date.lt_iff.trans (totalNanos_lt (hvalue a ha) (hvalue b hb)).symm
    have hinj := fun h => Date.ext_iff.2 ((totalNanos_inj (hvalue a ha) (hvalue b hb)).1 h)
    exact (toCanonical_lt_iff_place (fun v => totalNanos v.seconds v.nanos) nanosPerTick (by decide) hlimits
      (fun _ => rfl) natAbs_date_toTicks_le totalNanos_date_ofCanonical hinj ha hb).trans hlt.symm

instance : Placed (timeSpan (α := Float)) (Int ×ₗ Int) where
  IsValue _ := True
  IsNumber _ := True
  place v := toLex (v.seconds, v.nanos)
  lt_iff _ _ := TimeSpan.lt_iff_toLex
  eq_iff _ _ := TimeSpan.beq_iff.trans (TimeSpan.ext_iff.symm.trans TimeSpan.toLex_inj.symm)
  isNumber _ _ := trivial
  isNumber_ofCanonical _ := trivial
  isFinite_toCanonical {v} _ _ := isFinite_ofInt (natAbs_timeSpan_toTicks_le v)
  project_eq _ _ h := TimeSpan.toLex_inj.1 h
  toCanonical_lt_iff {a b} ha hb := by
    have hvalue : ∀ v, (timeSpan (α := Float)).project v = v → IsSubsecond v.nanos := by
      intro v hv
      rw [← hv]
      exact TimeSpan.isSubsecond_ofTicks _
    have hlimits : Int64.minValue.toInt ≤ Int64.maxValue.toInt := by decide
    have hlt := TimeSpan.lt_iff.trans (totalNanos_lt (hvalue a ha) (hvalue b hb)).symm
    have hinj := fun h => TimeSpan.ext_iff.2 ((totalNanos_inj (hvalue a ha) (hvalue b hb)).1 h)
    exact (toCanonical_lt_iff_place (fun v => totalNanos v.seconds v.nanos) nanosPerTick (by decide) hlimits
      (fun _ => rfl) natAbs_timeSpan_toTicks_le totalNanos_timeSpan_ofCanonical hinj ha hb).trans hlt.symm

end Domain

namespace Range

variable {α : Type} [Scalar α] [Decimals α]

/-- The domains, and the ranges that their intervals are. -/
inductive Wraps : {V : Type} → (d : Domain α V) → (Interval d → Range α) → Prop where
  | double : Wraps .double double
  | float : Wraps .float float
  | int32 : Wraps .int32 int32
  | int64 : Wraps .int64 int64
  | decimal : Wraps .decimal decimal
  | date : Wraps .date date
  | timeSpan : Wraps .timeSpan timeSpan

end Range

end ChartGestures
