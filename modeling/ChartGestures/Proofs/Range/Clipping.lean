import ChartGestures.Number.ExactDecimal
import ChartGestures.Proofs.Range.HardStop

/-!
# Clipping as intersection

Clipping clamps the bounds that the mode clips. What is left are the values of the interval that lie past the extents on
none of these sides; where there is no such value the clamped bounds come out upside down, and the extents take the
place of the interval. All of this is about bounds that are numbers. A bound that is none compares with nothing, so it
passes the clamp and the test for bounds upside down, and a scaled candidate that is stretched to such a bound leaves
the extents.
-/

namespace ChartGestures

open Scalar

namespace Domain

variable {α V : Type}

/-- Only a value that is no number differs from itself. -/
def IsNumber (d : Domain α V) (v : V) : Prop := d.eq v v

instance (d : Domain α V) (v : V) : Decidable (d.IsNumber v) := inferInstanceAs (Decidable (_ = true))

/-- The numbers of a domain stand in line, equal ones at one place, and nothing else compares with anything. -/
class Compares (d : Domain α V) : Prop where
  isNumber_of_lt {a b : V} : d.lt a b → d.IsNumber a ∧ d.IsNumber b
  isNumber_of_eq {a b : V} : d.eq a b → d.IsNumber a
  eq_iff {a b : V} : d.IsNumber a → d.IsNumber b → (d.eq a b ↔ ¬ d.lt a b ∧ ¬ d.lt b a)
  lt_or_lt {a c : V} (b : V) : d.IsNumber b → d.lt a c → d.lt a b ∨ d.lt b c

/-! ### Which domains compare so -/

theorem Compares.of_place {P : Type} [LinearOrder P] {d : Domain α V} (place : V → P)
    (hlt : ∀ a b, d.lt a b → d.IsNumber a ∧ d.IsNumber b) (heq : ∀ a b, d.eq a b → d.IsNumber a)
    (hltPlace : ∀ a b, d.IsNumber a → d.IsNumber b → (d.lt a b ↔ place a < place b))
    (heqPlace : ∀ a b, d.IsNumber a → d.IsNumber b → (d.eq a b ↔ place a = place b)) : d.Compares where
  isNumber_of_lt := hlt _ _
  isNumber_of_eq := heq _ _
  eq_iff {a b} ha hb := by
    rw [heqPlace a b ha hb, hltPlace a b ha hb, hltPlace b a hb ha, not_lt, not_lt, le_antisymm_iff, and_comm]
  lt_or_lt {a c} b hb hac := by
    obtain ⟨ha, hc⟩ := hlt a c hac
    rw [hltPlace a c ha hc] at hac
    rw [hltPlace a b ha hb, hltPlace b c hb hc]
    exact (lt_or_ge (place a) (place b)).imp_right fun hle => hle.trans_lt hac

/-- A domain whose values are all numbers. -/
theorem Compares.of_total {P : Type} [LinearOrder P] {d : Domain α V} (place : V → P)
    (hlt : ∀ a b, d.lt a b ↔ place a < place b) (heq : ∀ a b, d.eq a b ↔ place a = place b) : d.Compares :=
  have hnumber : ∀ v, d.IsNumber v := fun v => (heq v v).2 rfl
  .of_place place (fun a b _ => ⟨hnumber a, hnumber b⟩) (fun a _ _ => hnumber a) (fun a b _ _ => hlt a b)
    (fun a b _ _ => heq a b)

theorem Compares.of_float {d : Domain Float Float} (hlt : ∀ a b, d.lt a b = decide (a < b))
    (heq : ∀ a b, d.eq a b = (a == b)) : d.Compares := by
  have hnumber : ∀ x, d.IsNumber x ↔ isNaN x = false := by
    intro x
    rw [IsNumber, heq, isNaN, bne, Bool.not_eq_false']
  refine .of_place rank (fun a b h => ?_) (fun a b h => ?_) (fun a b ha hb => ?_) (fun a b ha hb => ?_)
  · rw [hlt, decide_eq_true_iff] at h
    exact ⟨(hnumber a).2 (isNaN_of_lt h).1, (hnumber b).2 (isNaN_of_lt h).2⟩
  · rw [heq] at h
    exact (hnumber a).2 (Binary.isNaN_of_beq h).1
  · rw [hnumber] at ha hb
    rw [hlt, decide_eq_true_iff, lt_iff_rank_lt ha hb]
  · rw [hnumber] at ha hb
    rw [heq, Binary.beq_iff ha hb, Binary.rank_eq_rank_unpack ha, Binary.rank_eq_rank_unpack hb]

instance : (double (α := Float)).Compares := .of_float (fun _ _ => rfl) (fun _ _ => rfl)

instance : (float (α := Float)).Compares := .of_float (fun _ _ => rfl) (fun _ _ => rfl)

instance : (int32 (α := Float)).Compares :=
  .of_total Int32.toInt (fun _ _ => Placed.lt_iff trivial trivial) (fun _ _ => Placed.eq_iff trivial trivial)

instance : (int64 (α := Float)).Compares :=
  .of_total Int64.toInt (fun _ _ => Placed.lt_iff trivial trivial) (fun _ _ => Placed.eq_iff trivial trivial)

instance : (date (α := Float)).Compares :=
  .of_total (Placed.place (date (α := Float))) (fun _ _ => Placed.lt_iff trivial trivial)
    (fun _ _ => Placed.eq_iff trivial trivial)

instance : (timeSpan (α := Float)).Compares :=
  .of_total (Placed.place (timeSpan (α := Float))) (fun _ _ => Placed.lt_iff trivial trivial)
    (fun _ _ => Placed.eq_iff trivial trivial)

end Domain

namespace Interval

section Bounds

variable {α V : Type} {d : Domain α V} {c m r x : Interval d} {mode : ClipMode} {a b v : V}

/-- Both bounds are numbers. -/
def HasNumbers (r : Interval d) : Prop := d.IsNumber r.min ∧ d.IsNumber r.max

instance (r : Interval d) : Decidable r.HasNumbers := inferInstanceAs (Decidable (_ ∧ _))

/-- The bounds that the mode clips, brought to those of `m`. -/
def clamped (c m : Interval d) (mode : ClipMode) : Interval d where
  min := if mode.clipsMin then d.greater c.min m.min else c.min
  max := if mode.clipsMax then d.lesser c.max m.max else c.max

theorem min_clamped (c m : Interval d) (mode : ClipMode) :
    (c.clamped m mode).min = if mode.clipsMin then d.greater c.min m.min else c.min := rfl

theorem max_clamped (c m : Interval d) (mode : ClipMode) :
    (c.clamped m mode).max = if mode.clipsMax then d.lesser c.max m.max else c.max := rfl

theorem clipTo_eq (c m : Interval d) (mode : ClipMode) :
    c.clipTo m mode = if (c.clamped m mode).isInverted then m else c.clamped m mode := rfl

theorem isNumber_greater (ha : d.IsNumber a) (hb : d.IsNumber b) : d.IsNumber (d.greater a b) := by
  rw [Domain.greater]
  split
  · exact hb
  · exact ha

theorem isNumber_lesser (ha : d.IsNumber a) (hb : d.IsNumber b) : d.IsNumber (d.lesser a b) := by
  rw [Domain.lesser]
  split
  · exact hb
  · exact ha

theorem hasNumbers_clamped (hc : c.HasNumbers) (hm : m.HasNumbers) : (c.clamped m mode).HasNumbers := by
  rw [HasNumbers, min_clamped, max_clamped]
  constructor
  · split
    · exact isNumber_greater hc.1 hm.1
    · exact hc.1
  · split
    · exact isNumber_lesser hc.2 hm.2
    · exact hc.2

/-- A value of `c` that lies past `m` on none of the sides the mode clips. -/
structure Keeps (c m : Interval d) (mode : ClipMode) (v : V) : Prop where
  inside : c.contains v
  lower : mode.clipsMin → ¬ d.lt v m.min
  upper : mode.clipsMax → ¬ d.lt m.max v

/-! ### Clamped bounds -/

variable [IsStrictOrder V fun a b => d.lt a b]

theorem irrefl (v : V) : ¬ d.lt v v := irrefl_of (fun a b => d.lt a b) v

theorem not_lt_greater (a b : V) : ¬ d.lt (d.greater a b) b := by
  rw [Domain.greater]
  split
  · exact irrefl b
  · next h => exact h

theorem not_lesser_lt (a b : V) : ¬ d.lt b (d.lesser a b) := by
  rw [Domain.lesser]
  split
  · exact irrefl b
  · next h => exact h

theorem not_lt_clamped (h : mode.clipsMin) : ¬ d.lt (c.clamped m mode).min m.min := by
  rw [min_clamped, if_pos h]
  exact not_lt_greater _ _

theorem not_clamped_lt (h : mode.clipsMax) : ¬ d.lt m.max (c.clamped m mode).max := by
  rw [max_clamped, if_pos h]
  exact not_lesser_lt _ _

theorem not_lt_clipTo (h : mode.clipsMin) : ¬ d.lt (c.clipTo m mode).min m.min := by
  rw [clipTo_eq]
  split
  · exact irrefl _
  · exact not_lt_clamped h

theorem not_clipTo_lt (h : mode.clipsMax) : ¬ d.lt m.max (c.clipTo m mode).max := by
  rw [clipTo_eq]
  split
  · exact irrefl _
  · exact not_clamped_lt h

omit [IsStrictOrder V fun a b => d.lt a b] in
/-- Bounds that pass the extents on none of the clipped sides stay. -/
theorem clipTo_eq_self (hr : r.isInverted = false) (hlower : mode.clipsMin → ¬ d.lt r.min m.min)
    (hupper : mode.clipsMax → ¬ d.lt m.max r.max) : r.clipTo m mode = r := by
  have hmin : (r.clamped m mode).min = r.min := by
    rw [min_clamped, Domain.greater]
    split
    · next h => exact if_neg (hlower h)
    · rfl
  have hmax : (r.clamped m mode).max = r.max := by
    rw [max_clamped, Domain.lesser]
    split
    · next h => exact if_neg (hupper h)
    · rfl
  have hclamped : r.clamped m mode = r := by
    obtain ⟨min, max⟩ := r
    exact congrArg₂ Interval.mk hmin hmax
  rw [clipTo_eq, hclamped, hr]
  rfl

theorem clipTo_clipTo (hm : m.isInverted = false) (c : Interval d) (mode : ClipMode) :
    (c.clipTo m mode).clipTo m mode = c.clipTo m mode :=
  clipTo_eq_self (isInverted_clipTo hm mode) not_lt_clipTo not_clipTo_lt

/-! ### What clipping keeps -/

variable [d.Compares]

open Domain.Compares

omit [IsStrictOrder V fun a b => d.lt a b] in
theorem isNumber_of_contains (h : r.contains v) : d.IsNumber v := by
  rw [contains, Bool.and_eq_true, Bool.or_eq_true] at h
  rcases h.1 with hlt | heq
  · exact (isNumber_of_lt hlt).2
  · exact isNumber_of_eq heq

theorem lt_or_eq_iff (ha : d.IsNumber a) (hb : d.IsNumber b) : d.lt a b ∨ d.eq a b ↔ ¬ d.lt b a := by
  rw [eq_iff ha hb]
  constructor
  · rintro (hlt | ⟨-, hge⟩)
    · exact Bool.eq_false_iff.1 (not_lt_of_lt hlt)
    · exact hge
  · intro hge
    by_cases hlt : d.lt a b
    · exact .inl hlt
    · exact .inr ⟨hlt, hge⟩

theorem contains_iff_not_lt (hr : r.HasNumbers) (hv : d.IsNumber v) :
    r.contains v ↔ ¬ d.lt v r.min ∧ ¬ d.lt r.max v := by
  have hsymm : d.eq v r.min ↔ d.eq r.min v := by rw [eq_iff hv hr.1, eq_iff hr.1 hv, and_comm]
  rw [contains, Bool.and_eq_true, Bool.or_eq_true, Bool.or_eq_true, hsymm, lt_or_eq_iff hr.1 hv, lt_or_eq_iff hv hr.2]

theorem lt_greater_iff (ha : d.IsNumber a) (v : V) : d.lt v (d.greater a b) ↔ d.lt v a ∨ d.lt v b := by
  rw [Domain.greater]
  split
  · next hlt => exact ⟨.inr, fun h => h.elim (lt_of_lt_of_lt · hlt) id⟩
  · next hge => exact ⟨.inl, fun h => h.elim id fun hvb => (lt_or_lt a ha hvb).resolve_right hge⟩

theorem lesser_lt_iff (ha : d.IsNumber a) (v : V) : d.lt (d.lesser a b) v ↔ d.lt a v ∨ d.lt b v := by
  rw [Domain.lesser]
  split
  · next hlt => exact ⟨.inr, fun h => h.elim (lt_of_lt_of_lt hlt ·) id⟩
  · next hge => exact ⟨.inl, fun h => h.elim id fun hbv => (lt_or_lt a ha hbv).resolve_left hge⟩

/-- The values between the clamped bounds are those that both intervals share, as far as the mode asks. -/
theorem contains_clamped_iff (hc : c.HasNumbers) (hm : m.HasNumbers) :
    (c.clamped m mode).contains v ↔ c.Keeps m mode v := by
  by_cases hv : d.IsNumber v
  · have hmin : d.lt v (c.clamped m mode).min ↔ d.lt v c.min ∨ mode.clipsMin ∧ d.lt v m.min := by
      rw [min_clamped]
      by_cases h : mode.clipsMin
      · simp [h, lt_greater_iff hc.1]
      · simp [h]
    have hmax : d.lt (c.clamped m mode).max v ↔ d.lt c.max v ∨ mode.clipsMax ∧ d.lt m.max v := by
      rw [max_clamped]
      by_cases h : mode.clipsMax
      · simp [h, lesser_lt_iff hc.2]
      · simp [h]
    rw [contains_iff_not_lt (hasNumbers_clamped hc hm) hv, hmin, hmax, not_or, not_or, not_and, not_and]
    constructor
    · rintro ⟨⟨hlower, hlower'⟩, hupper, hupper'⟩
      exact ⟨(contains_iff_not_lt hc hv).2 ⟨hlower, hupper⟩, hlower', hupper'⟩
    · rintro ⟨hinside, hlower', hupper'⟩
      obtain ⟨hlower, hupper⟩ := (contains_iff_not_lt hc hv).1 hinside
      exact ⟨⟨hlower, hlower'⟩, hupper, hupper'⟩
  · exact iff_of_false (fun h => hv (isNumber_of_contains h)) fun h => hv (isNumber_of_contains h.inside)

/-- An interval has a value exactly if its bounds are in order. -/
theorem isInverted_iff_empty (hr : r.HasNumbers) : r.isInverted ↔ ∀ v, ¬ r.contains v := by
  constructor
  · intro hinverted v hv
    have hnumber := isNumber_of_contains hv
    obtain ⟨hlower, hupper⟩ := (contains_iff_not_lt hr hnumber).1 hv
    exact (lt_or_lt v hnumber hinverted).elim hupper hlower
  · intro hempty
    by_contra hordered
    exact hempty r.min ((contains_iff_not_lt hr hr.1).2 ⟨irrefl _, hordered⟩)

theorem isInverted_clamped_iff (hc : c.HasNumbers) (hm : m.HasNumbers) :
    (c.clamped m mode).isInverted ↔ ∀ v, ¬ c.Keeps m mode v := by
  rw [isInverted_iff_empty (hasNumbers_clamped hc hm)]
  exact forall_congr' fun _ => not_congr (contains_clamped_iff hc hm)

omit [IsStrictOrder V fun a b => d.lt a b] in
/-- A clamped bound is the interval's own unless a comparison with it holds, and neither that one nor the one that finds
the bounds upside down holds of a bound that is no number. -/
theorem min_clipTo_of_not_number (h : ¬ d.IsNumber x.min) : (x.clipTo m mode).min = x.min := by
  have hmin : (x.clamped m mode).min = x.min := by
    rw [min_clamped, Domain.greater]
    split
    · exact if_neg fun hlt => h (isNumber_of_lt hlt).1
    · rfl
  have hordered : ¬ (x.clamped m mode).isInverted := fun hinverted => h (hmin ▸ (isNumber_of_lt hinverted).2)
  rw [clipTo_eq, if_neg hordered, hmin]

omit [IsStrictOrder V fun a b => d.lt a b] in
theorem max_clipTo_of_not_number (h : ¬ d.IsNumber x.max) : (x.clipTo m mode).max = x.max := by
  have hmax : (x.clamped m mode).max = x.max := by
    rw [max_clamped, Domain.lesser]
    split
    · exact if_neg fun hlt => h (isNumber_of_lt hlt).2
    · rfl
  have hordered : ¬ (x.clamped m mode).isInverted := fun hinverted => h (hmax ▸ (isNumber_of_lt hinverted).1)
  rw [clipTo_eq, if_neg hordered, hmax]

end Bounds

/-! ### What clipping comes to -/

variable {V : Type} {d : Domain Float V} {c m r x : Interval d} {mode : ClipMode}

section Within

variable [IsStrictOrder V fun a b => d.lt a b] [d.Compares]

open Domain.Compares

theorem isWithin_of_not_lt (hr : r.HasNumbers) (hm : m.HasNumbers) (hordered : r.isInverted = false)
    (hlower : ¬ d.lt r.min m.min) (hupper : ¬ d.lt m.max r.max) : r.IsWithin m := by
  have hordered' : ¬ d.lt r.max r.min := Bool.eq_false_iff.1 hordered
  refine ⟨(contains_iff_not_lt hm hr.1).2 ⟨hlower, fun h => ?_⟩, (contains_iff_not_lt hm hr.2).2 ⟨fun h => ?_, hupper⟩⟩
  · exact (lt_or_lt r.max hr.2 h).elim hupper hordered'
  · exact (lt_or_lt r.min hr.1 h).elim hordered' hlower

theorem isWithin_clipTo_of_clips (hc : c.HasNumbers) (hm : m.HasNumbers) (hordered : m.isInverted = false)
    (hmin : mode.clipsMin) (hmax : mode.clipsMax) : (c.clipTo m mode).IsWithin m := by
  have hnumbers : (c.clipTo m mode).HasNumbers := by
    rw [clipTo_eq]
    split
    · exact hm
    · exact hasNumbers_clamped hc hm
  exact isWithin_of_not_lt hnumbers hm (isInverted_clipTo hordered mode) (not_lt_clipTo hmin) (not_clipTo_lt hmax)

theorem isWithin_clipTo_iff (hm : m.HasNumbers) (hordered : m.isInverted = false) (hmin : mode.clipsMin)
    (hmax : mode.clipsMax) : (x.clipTo m mode).IsWithin m ↔ x.HasNumbers := by
  refine ⟨fun hwithin => ⟨?_, ?_⟩, fun hx => isWithin_clipTo_of_clips hx hm hordered hmin hmax⟩
  · by_contra h
    rw [IsWithin, min_clipTo_of_not_number h] at hwithin
    exact h (isNumber_of_contains hwithin.1)
  · by_contra h
    rw [IsWithin, max_clipTo_of_not_number h] at hwithin
    exact h (isNumber_of_contains hwithin.2)

end Within

/-- How the interval `r` that clipping `c` to `m` comes to stands to both. -/
structure ClipsTo (c m : Interval d) (mode : ClipMode) (r : Interval d) : Prop where
  ordered : r.isInverted = false
  clamped : (c.clamped m mode).isInverted = false → r = c.clamped m mode
  reset : (c.clamped m mode).isInverted → r = m
  contains_iff (v : V) : (c.clamped m mode).isInverted = false → (r.contains v ↔ c.Keeps m mode v)
  inverted_iff : (c.clamped m mode).isInverted ↔ ∀ v, ¬ c.Keeps m mode v
  lower : mode.clipsMin → ¬ d.lt r.min m.min
  upper : mode.clipsMax → ¬ d.lt m.max r.max
  within : mode.clipsMin → mode.clipsMax → r.IsWithin m
  again : r.clipTo m mode = r

theorem clipsTo_clipTo [IsStrictOrder V fun a b => d.lt a b] [d.Compares] (hc : c.HasNumbers) (hm : m.HasNumbers)
    (hordered : m.isInverted = false) : c.ClipsTo m mode (c.clipTo m mode) where
  ordered := isInverted_clipTo hordered mode
  clamped h := if_neg (Bool.eq_false_iff.1 h)
  reset h := if_pos h
  contains_iff v h := by
    rw [clipTo_eq, h]
    exact contains_clamped_iff hc hm
  inverted_iff := isInverted_clamped_iff hc hm
  lower := not_lt_clipTo
  upper := not_clipTo_lt
  within := isWithin_clipTo_of_clips hc hm hordered
  again := clipTo_clipTo hordered c mode

end Interval

/-! ### Ranges of any kind -/

namespace Range

section

variable [Decimals Float] {V : Type} {d : Domain Float V} {wrap : Interval d → Range Float} {c m : Interval d}
  {mode : ClipMode}

theorem Wraps.isStrictOrder (hwrap : Wraps d wrap) : IsStrictOrder V fun a b => d.lt a b := by
  cases hwrap <;> infer_instance

theorem Wraps.compares (hwrap : Wraps d wrap) (hkind : d.kind ≠ .decimal) : d.Compares := by
  cases hwrap with
  | decimal => exact absurd rfl hkind
  | _ => infer_instance

theorem clipTo_wrap (hwrap : Wraps d wrap) (c m : Interval d) (mode : ClipMode) :
    (wrap c).clipTo (wrap m) mode = wrap (c.clipTo m mode) := by
  cases hwrap <;> rfl

theorem isDefined_wrap (hwrap : Wraps d wrap) (r : Interval d) : (wrap r).isDefined = r.isDefined := by
  cases hwrap <;> rfl

omit [Decimals Float] in
/-- Holding a scaled candidate at both extents clips it, or the range that stretching puts in its place. -/
theorem clipScaled_eq {α : Type} [Scalar α] [Decimals α] {candidate maximum : Range α} (hdefined : maximum.isDefined)
    (hmode : mode = .clipAtExtents ∨ mode = .stretchAtExtents) (half : DragHalf)
    (rescroll : DragHalf → Option (Range α)) :
    candidate.clipScaled maximum mode half rescroll =
      (((candidate.stretchedHalf maximum mode half).bind rescroll).getD candidate).clipTo maximum .clipAtExtents := by
  rcases hmode with rfl | rfl
  · have hhalf : candidate.stretchedHalf maximum .clipAtExtents half = none := if_neg (by simp)
    rw [hhalf, clipScaled, if_neg (by simp [hdefined]), if_pos (by decide)]
    rfl
  · rw [clipScaled, if_neg (by simp [hdefined]), if_neg (by simp)]
    cases (candidate.stretchedHalf maximum .stretchAtExtents half).bind rescroll <;> rfl

theorem clipScaled_wrap (hwrap : Wraps d wrap) (hdefined : m.isDefined)
    (hmode : mode = .clipAtExtents ∨ mode = .stretchAtExtents) (half : DragHalf)
    (rescroll : DragHalf → Option (Interval d)) :
    (wrap c).clipScaled (wrap m) mode half (fun other => (rescroll other).map wrap) =
      wrap (((((wrap c).stretchedHalf (wrap m) mode half).bind rescroll).getD c).clipTo m .clipAtExtents) := by
  rw [clipScaled_eq ((isDefined_wrap hwrap m).trans hdefined) hmode, ← clipTo_wrap hwrap]
  cases (wrap c).stretchedHalf (wrap m) mode half with
  | none => rfl
  | some other =>
    rw [Option.bind_some, Option.bind_some]
    cases rescroll other <;> rfl

/-- Clipping comes to the values that the range and the extents share on the sides the mode clips, or to the extents if
there are none; and a scaled candidate that is held at both extents ends within them, unless stretching puts in its
place a range with a bound that is no number. -/
theorem clips_to_shared_values (hwrap : Wraps d wrap) (hkind : d.kind ≠ .decimal) (hc : c.HasNumbers)
    (hm : m.HasNumbers) (hordered : m.isInverted = false) (mode : ClipMode) :
    (wrap c).clipTo (wrap m) mode = wrap (c.clipTo m mode) ∧ c.ClipsTo m mode (c.clipTo m mode) ∧
      ((mode = .clipAtExtents ∨ mode = .stretchAtExtents) → m.isDefined →
        ∀ (half : DragHalf) (rescroll : DragHalf → Option (Interval d)),
          ∃ r, (wrap c).clipScaled (wrap m) mode half (fun other => (rescroll other).map wrap) = wrap r ∧
            (r.IsWithin m ↔ ∀ x ∈ ((wrap c).stretchedHalf (wrap m) mode half).bind rescroll, x.HasNumbers)) := by
  have := hwrap.isStrictOrder
  have := hwrap.compares hkind
  refine ⟨clipTo_wrap hwrap c m mode, Interval.clipsTo_clipTo hc hm hordered, fun hmode hdefined half rescroll => ?_⟩
  refine ⟨_, clipScaled_wrap hwrap hdefined hmode half rescroll, ?_⟩
  rw [Interval.isWithin_clipTo_iff hm hordered rfl rfl]
  cases ((wrap c).stretchedHalf (wrap m) mode half).bind rescroll with
  | none => exact iff_of_true hc (by simp)
  | some x => simp

end

/-- A candidate that runs over at the near end of the extents is stretched at the far one. -/
theorem clips_to_shared_values_date :
    let c : Interval (Domain.date (α := Float)) := ⟨.ofTicks (-300), .ofTicks 200⟩
    let m : Interval (Domain.date (α := Float)) := ⟨.ofTicks 0, .ofTicks 1000⟩
    let rescroll : DragHalf → Option (Interval (Domain.date (α := Float))) := fun _ => some ⟨.ofTicks 0, .ofTicks 1500⟩
    c.HasNumbers ∧ m.HasNumbers ∧ m.isInverted = false ∧ m.isDefined ∧
      (date c).stretchedHalf (date m) .stretchAtExtents .near = some .far ∧
      ∃ r, (date c).clipScaled (date m) .stretchAtExtents .near (fun other => (rescroll other).map date) = date r ∧
        r.IsWithin m := by
  intro c m rescroll
  have hc : c.HasNumbers := by decide
  have hm : m.HasNumbers := by decide
  have hhalf : (date c).stretchedHalf (date m) .stretchAtExtents .near = some .far := by decide +kernel
  obtain ⟨-, -, hscaled⟩ := clips_to_shared_values .date (by decide) hc hm (by decide) .stretchAtExtents
  obtain ⟨r, hr, hwithin⟩ := hscaled (.inr rfl) (by decide) .near rescroll
  refine ⟨hc, hm, by decide, by decide, hhalf, r, hr, hwithin.2 fun x hx => ?_⟩
  rw [hhalf] at hx
  cases hx
  decide

/-- Stretching to the range from NaN to 13 leaves the extents from 0 to 20. -/
theorem stretch_leaves_extents :
    let c : Interval (Domain.double (α := Float)) := ⟨-3, 10⟩
    let m : Interval (Domain.double (α := Float)) := ⟨0, 20⟩
    let rescroll : DragHalf → Option (Interval (Domain.double (α := Float))) := fun _ => some (.ofCanonical (0 / 0) 13)
    c.HasNumbers ∧ c.isInverted = false ∧ m.HasNumbers ∧ m.isInverted = false ∧ m.isDefined ∧
      ∃ r, (double c).clipScaled (double m) .stretchAtExtents .near (fun other => (rescroll other).map double) =
        double r ∧ ¬ r.IsWithin m := by
  intro c m rescroll
  have hdefined : m.isDefined := by decide +kernel
  refine ⟨by decide +kernel, by decide +kernel, by decide +kernel, by decide +kernel, hdefined, _,
    clipScaled_wrap .double hdefined (.inr rfl) .near rescroll, ?_⟩
  decide +kernel

end Range

end ChartGestures
