import ChartGestures.Number.ExactDecimal
import ChartGestures.Proofs.Range.Ordering
import ChartGestures.Range.Clip

/-!
# The hard stop of a pan

A pan that is held at both extents decides on projected bounds where to stop, while the extents themselves are values of
the domain. As long as the projection tells the bounds apart, the panned range stops within the extents, and the bound
that ran over stands on the extent. Whole numbers and ticks of more than 53 bits run together in the projection: then an
overrun may go unnoticed, and an extent may come back from its projection further in.
-/

namespace ChartGestures

open Scalar Domain

namespace Interval

variable {V P : Type} {d : Domain Float V}

/-! ### Ranges within the extents -/

/-- Both bounds lie in `s`. -/
def IsWithin (r s : Interval d) : Prop := s.contains r.min ∧ s.contains r.max

instance (r s : Interval d) : Decidable (r.IsWithin s) := inferInstanceAs (Decidable (_ ∧ _))

/-- On the projected bounds, nothing is seen to reach past `m`. -/
structure LooksWithin (c m : Interval d) : Prop where
  span : ¬ m.diff ≤ c.diff
  lower : ¬ c.canonicalMin < m.canonicalMin
  upper : ¬ m.canonicalMax < c.canonicalMax

theorem looksWithin_iff {c m : Interval d} : c.LooksWithin m ↔
    ¬ m.diff ≤ c.diff ∧ ¬ c.canonicalMin < m.canonicalMin ∧ ¬ m.canonicalMax < c.canonicalMax :=
  ⟨fun h => ⟨h.span, h.lower, h.upper⟩, fun h => ⟨h.1, h.2.1, h.2.2⟩⟩

instance (c m : Interval d) : Decidable (c.LooksWithin m) := decidable_of_iff _ looksWithin_iff.symm

/-- The candidate reaches past `m`, and its projection does not show it. -/
def HidesOverrun (c m : Interval d) : Prop := ¬ c.IsWithin m ∧ c.LooksWithin m

instance (c m : Interval d) : Decidable (c.HidesOverrun m) := inferInstanceAs (Decidable (_ ∧ _))

/-- The bounds come back from their projection. -/
def Survives (r : Interval d) : Prop := d.project r.min = r.min ∧ d.project r.max = r.max

/-- What a pan held at both extents does to intervals of one domain. -/
def hardStop (c m : Interval d) : Interval d :=
  let (lo, hi) := (m.canonicalMin, m.canonicalMax)
  let (min, max) := (c.canonicalMin, c.canonicalMax)
  if hi - lo ≤ max - min then m
  else if min < lo then (Interval.ofCanonical lo (max + (lo - min)) : Interval d).clipTo m .clipAtExtents
  else if hi < max then (Interval.ofCanonical (min - (max - hi)) hi : Interval d).clipTo m .clipAtExtents
  else c

variable [LinearOrder P] [Placed d P] {c m x : Interval d}

/-- An interval as the extents and the candidates of a pan are. -/
structure IsProper (r : Interval d) : Prop where
  defined : r.isDefined
  ordered : r.isInverted = false
  lower : Placed.IsValue d r.min
  upper : Placed.IsValue d r.max

namespace IsProper

variable {r : Interval d} (h : r.IsProper)

include h

theorem not_sentinel : d.isSentinel r.min = false ∧ d.isSentinel r.max = false := by
  have hdefined := h.defined
  rw [isDefined, Bool.and_eq_true, Bool.not_eq_true', Bool.not_eq_true'] at hdefined
  exact hdefined

theorem isNumber_min : Placed.IsNumber d r.min := Placed.isNumber h.lower h.not_sentinel.1

theorem isNumber_max : Placed.IsNumber d r.max := Placed.isNumber h.upper h.not_sentinel.2

theorem isFinite_min : isFinite r.canonicalMin = true := Placed.isFinite_toCanonical h.lower h.not_sentinel.1

theorem isFinite_max : isFinite r.canonicalMax = true := Placed.isFinite_toCanonical h.upper h.not_sentinel.2

theorem place_le : Placed.place d r.min ≤ Placed.place d r.max := by
  have hordered := h.ordered
  rw [isInverted, Bool.eq_false_iff, ne_eq, Placed.lt_iff h.isNumber_max h.isNumber_min, not_lt] at hordered
  exact hordered

end IsProper

theorem contains_iff (hm : m.IsProper) {v : V} (hv : Placed.IsNumber d v) :
    m.contains v ↔ Placed.place d m.min ≤ Placed.place d v ∧ Placed.place d v ≤ Placed.place d m.max := by
  have hmin := hm.isNumber_min
  have hmax := hm.isNumber_max
  rw [contains, Bool.and_eq_true, Bool.or_eq_true, Bool.or_eq_true, Placed.lt_iff hmin hv, Placed.lt_iff hv hmax,
    Placed.eq_iff hv hmin, Placed.eq_iff hv hmax, le_iff_lt_or_eq, le_iff_lt_or_eq, eq_comm]

theorem isWithin_self (hm : m.IsProper) : m.IsWithin m := by
  have hmin := contains_iff hm hm.isNumber_min
  have hmax := contains_iff hm hm.isNumber_max
  exact ⟨hmin.2 ⟨le_rfl, hm.place_le⟩, hmax.2 ⟨hm.place_le, le_rfl⟩⟩

/-- Between ordered bounds it is enough to compare each side. -/
theorem isWithin_iff (hc : c.IsProper) (hm : m.IsProper) : c.IsWithin m ↔ ¬ d.lt c.min m.min ∧ ¬ d.lt m.max c.max := by
  rw [IsWithin, contains_iff hm hc.isNumber_min, contains_iff hm hc.isNumber_max,
    Placed.lt_iff hc.isNumber_min hm.isNumber_min, Placed.lt_iff hm.isNumber_max hc.isNumber_max, not_lt, not_lt]
  have hordered := hc.place_le
  constructor
  · rintro ⟨⟨hlower, -⟩, -, hupper⟩
    exact ⟨hlower, hupper⟩
  · rintro ⟨hlower, hupper⟩
    exact ⟨⟨hlower, hordered.trans hupper⟩, hlower.trans hordered, hupper⟩

/-! ### Clipping -/

theorem isNumber_new {a b : V} (ha : Placed.IsNumber d a) (hb : Placed.IsNumber d b) :
    Placed.IsNumber d (new a b : Interval d).min ∧ Placed.IsNumber d (new a b : Interval d).max := by
  rw [new]
  split
  · exact ⟨hb, ha⟩
  · exact ⟨ha, hb⟩

theorem isNumber_ofCanonical {a b : Float} (ha : isNaN a = false) (hb : isNaN b = false) :
    Placed.IsNumber d (ofCanonical a b : Interval d).min ∧ Placed.IsNumber d (ofCanonical a b : Interval d).max :=
  isNumber_new (Placed.isNumber_ofCanonical ha) (Placed.isNumber_ofCanonical hb)

theorem place_greater {a b : V} (ha : Placed.IsNumber d a) (hb : Placed.IsNumber d b) :
    Placed.IsNumber d (d.greater a b) ∧ Placed.place d b ≤ Placed.place d (d.greater a b) := by
  rw [greater]
  split
  · exact ⟨hb, le_rfl⟩
  · next h =>
    rw [Placed.lt_iff ha hb, not_lt] at h
    exact ⟨ha, h⟩

theorem place_lesser {a b : V} (ha : Placed.IsNumber d a) (hb : Placed.IsNumber d b) :
    Placed.IsNumber d (d.lesser a b) ∧ Placed.place d (d.lesser a b) ≤ Placed.place d b := by
  rw [lesser]
  split
  · exact ⟨hb, le_rfl⟩
  · next h =>
    rw [Placed.lt_iff hb ha, not_lt] at h
    exact ⟨ha, h⟩

theorem isWithin_clipTo (hx : Placed.IsNumber d x.min ∧ Placed.IsNumber d x.max) (hm : m.IsProper) :
    (x.clipTo m .clipAtExtents).IsWithin m := by
  obtain ⟨hmin, hlower⟩ := place_greater hx.1 hm.isNumber_min
  obtain ⟨hmax, hupper⟩ := place_lesser hx.2 hm.isNumber_max
  change (if d.lt (d.lesser x.max m.max) (d.greater x.min m.min) then m
    else (⟨d.greater x.min m.min, d.lesser x.max m.max⟩ : Interval d)).IsWithin m
  split
  · exact isWithin_self hm
  · next hordered =>
    rw [Placed.lt_iff hmax hmin, not_lt] at hordered
    exact ⟨(contains_iff hm hmin).2 ⟨hlower, hordered.trans hupper⟩,
      (contains_iff hm hmax).2 ⟨hlower.trans hordered, hupper⟩⟩

theorem min_clipTo (h : x.min = m.min ∨ d.lt x.min m.min) : (x.clipTo m .clipAtExtents).min = m.min := by
  have hgreater : d.greater x.min m.min = m.min := by
    rw [greater]
    split
    · rfl
    · next hlt => exact h.resolve_right hlt
  change (if d.lt (d.lesser x.max m.max) (d.greater x.min m.min) then m
    else (⟨d.greater x.min m.min, d.lesser x.max m.max⟩ : Interval d)).min = m.min
  split
  · rfl
  · exact hgreater

theorem max_clipTo (h : x.max = m.max ∨ d.lt m.max x.max) : (x.clipTo m .clipAtExtents).max = m.max := by
  have hlesser : d.lesser x.max m.max = m.max := by
    rw [lesser]
    split
    · rfl
    · next hlt => exact h.resolve_right hlt
  change (if d.lt (d.lesser x.max m.max) (d.greater x.min m.min) then m
    else (⟨d.greater x.min m.min, d.lesser x.max m.max⟩ : Interval d)).max = m.max
  split
  · rfl
  · exact hlesser

/-! ### Where the range stops -/

theorem hardStop_of_looksWithin (h : c.LooksWithin m) : c.hardStop m = c := by
  have hspan : ¬ m.canonicalMax - m.canonicalMin ≤ c.canonicalMax - c.canonicalMin := h.span
  simp only [hardStop]
  rw [if_neg hspan, if_neg h.lower, if_neg h.upper]

theorem isWithin_hardStop (hc : c.IsProper) (hm : m.IsProper) (h : ¬ c.LooksWithin m) :
    (c.hardStop m).IsWithin m := by
  have hlo := Binary.isNaN_of_isFinite hm.isFinite_min
  have hhi := Binary.isNaN_of_isFinite hm.isFinite_max
  have hmin := Binary.isNaN_of_isFinite hc.isFinite_min
  simp only [hardStop]
  split
  · exact isWithin_self hm
  · next hspan =>
    split
    · have hshifted := Binary.isNaN_add hc.isFinite_max (Binary.isNaN_sub hm.isFinite_min hmin)
      exact isWithin_clipTo (isNumber_ofCanonical hlo hshifted) hm
    · next hlower =>
      split
      · have hshifted := Binary.isNaN_sub hc.isFinite_min (Binary.isNaN_sub hc.isFinite_max hhi)
        exact isWithin_clipTo (isNumber_ofCanonical hshifted hhi) hm
      · next hupper => exact absurd ⟨hspan, hlower, hupper⟩ h

/-- Bounds that a shift has brought out of order still start below the extent. -/
theorem min_ofCanonical {y : Float} (hy : isNaN y = false) (hm : m.IsProper)
    (hproject : ¬ d.lt m.min (d.project m.min)) :
    let x : Interval d := .ofCanonical m.canonicalMin y
    x.min = m.min ∨ d.lt x.min m.min := by
  intro x
  have hmin := hm.isNumber_min
  have hback : Placed.IsNumber d (d.project m.min) :=
    Placed.isNumber_ofCanonical (Binary.isNaN_of_isFinite hm.isFinite_min)
  rw [Placed.lt_iff hmin hback, not_lt] at hproject
  have hx : x.min = (new (d.project m.min) (d.ofCanonical y) : Interval d).min := rfl
  rw [hx, new]
  split
  · next hswapped =>
    rw [Placed.lt_iff (Placed.isNumber_ofCanonical hy) hback] at hswapped
    exact .inr ((Placed.lt_iff (Placed.isNumber_ofCanonical hy) hmin).2 (hswapped.trans_le hproject))
  · rcases hproject.lt_or_eq with hlt | heq
    · exact .inr ((Placed.lt_iff hback hmin).2 hlt)
    · exact .inl (Placed.project_eq hm.lower hm.not_sentinel.1 heq)

theorem max_ofCanonical {y : Float} (hy : isNaN y = false) (hm : m.IsProper)
    (hproject : ¬ d.lt (d.project m.max) m.max) :
    let x : Interval d := .ofCanonical y m.canonicalMax
    x.max = m.max ∨ d.lt m.max x.max := by
  intro x
  have hmax := hm.isNumber_max
  have hback : Placed.IsNumber d (d.project m.max) :=
    Placed.isNumber_ofCanonical (Binary.isNaN_of_isFinite hm.isFinite_max)
  rw [Placed.lt_iff hback hmax, not_lt] at hproject
  have hx : x.max = (new (d.ofCanonical y) (d.project m.max) : Interval d).max := rfl
  rw [hx, new]
  split
  · next hswapped =>
    rw [Placed.lt_iff hback (Placed.isNumber_ofCanonical hy)] at hswapped
    exact .inr ((Placed.lt_iff hmax (Placed.isNumber_ofCanonical hy)).2 (hproject.trans_lt hswapped))
  · rcases hproject.lt_or_eq with hlt | heq
    · exact .inr ((Placed.lt_iff hmax hback).2 hlt)
    · exact .inl (Placed.project_eq hm.upper hm.not_sentinel.2 heq.symm)

theorem min_hardStop (hc : c.IsProper) (hm : m.IsProper)
    (hseen : m.diff ≤ c.diff ∨ c.canonicalMin < m.canonicalMin) (hproject : ¬ d.lt m.min (d.project m.min)) :
    (c.hardStop m).min = m.min := by
  have hmin := Binary.isNaN_of_isFinite hc.isFinite_min
  simp only [hardStop]
  by_cases hspan : m.canonicalMax - m.canonicalMin ≤ c.canonicalMax - c.canonicalMin
  · rw [if_pos hspan]
  · have hshifted := Binary.isNaN_add hc.isFinite_max (Binary.isNaN_sub hm.isFinite_min hmin)
    rw [if_neg hspan, if_pos (hseen.resolve_left hspan)]
    exact min_clipTo (min_ofCanonical hshifted hm hproject)

theorem max_hardStop (hc : c.IsProper) (hm : m.IsProper)
    (hseen : m.diff ≤ c.diff ∨ ¬ c.canonicalMin < m.canonicalMin ∧ m.canonicalMax < c.canonicalMax)
    (hproject : ¬ d.lt (d.project m.max) m.max) : (c.hardStop m).max = m.max := by
  have hhi := Binary.isNaN_of_isFinite hm.isFinite_max
  simp only [hardStop]
  by_cases hspan : m.canonicalMax - m.canonicalMin ≤ c.canonicalMax - c.canonicalMin
  · rw [if_pos hspan]
  · obtain ⟨hlower, hupper⟩ := hseen.resolve_left hspan
    have hshifted := Binary.isNaN_sub hc.isFinite_min (Binary.isNaN_sub hc.isFinite_max hhi)
    rw [if_neg hspan, if_neg hlower, if_pos hupper]
    exact max_clipTo (max_ofCanonical hshifted hm hproject)

/-! ### Bounds that survive their projection -/

theorem not_hidesOverrun (hc : c.IsProper) (hm : m.IsProper) (hc' : c.Survives) (hm' : m.Survives) :
    ¬ c.HidesOverrun m := by
  rintro ⟨hout, hlooks⟩
  have hlower : ¬ d.lt c.min m.min := fun h => hlooks.lower ((Placed.toCanonical_lt_iff hc'.1 hm'.1).2 h)
  have hupper : ¬ d.lt m.max c.max := fun h => hlooks.upper ((Placed.toCanonical_lt_iff hm'.2 hc'.2).2 h)
  exact hout ((isWithin_iff hc hm).2 ⟨hlower, hupper⟩)

theorem not_lt_self {v : V} (hv : Placed.IsNumber d v) : ¬ d.lt v v := by
  rw [Placed.lt_iff hv hv]
  exact lt_irrefl _

theorem hardStop_of_survives (hc : c.IsProper) (hm : m.IsProper) (hc' : c.Survives) (hm' : m.Survives) :
    (c.hardStop m).IsWithin m ∧
      (d.lt c.min m.min → (c.hardStop m).min = m.min) ∧
      (d.lt m.max c.max → ¬ d.lt c.min m.min → (c.hardStop m).max = m.max) := by
  refine ⟨?_, fun hlower => ?_, fun hupper hlower => ?_⟩
  · by_cases hlooks : c.LooksWithin m
    · rw [hardStop_of_looksWithin hlooks]
      by_contra hout
      exact not_hidesOverrun hc hm hc' hm' ⟨hout, hlooks⟩
    · exact isWithin_hardStop hc hm hlooks
  · have hseen := (Placed.toCanonical_lt_iff hc'.1 hm'.1).2 hlower
    refine min_hardStop hc hm (.inr hseen) ?_
    rw [hm'.1]
    exact not_lt_self hm.isNumber_min
  · have hseen := (Placed.toCanonical_lt_iff hm'.2 hc'.2).2 hupper
    have hunseen := fun h => hlower ((Placed.toCanonical_lt_iff hc'.1 hm'.1).1 h)
    refine max_hardStop hc hm (.inr ⟨hunseen, hseen⟩) ?_
    rw [hm'.2]
    exact not_lt_self hm.isNumber_max

end Interval

/-! ### Which bounds survive -/

namespace Domain

/-- Whole numbers of 53 bits are projected exactly. -/
theorem toIntWithin_ofInt {lo hi n : Int} (hbits : n.natAbs ≤ 2 ^ 53) (hlo : lo ≤ n) (hhi : n ≤ hi) :
    toIntWithin roundHalfAway lo hi (ofInt n : Float) = n := by
  rw [toIntWithin, toRat?_ofInt hbits]
  simp only [roundHalfAway_intCast]
  omega

theorem project_int32 (n : Int32) : (int32 (α := Float)).project n = n := by
  have hmin : Int32.minValue.toInt = -2 ^ 31 := rfl
  have hmax : Int32.maxValue.toInt = 2 ^ 31 - 1 := rfl
  have hlower := n.le_toInt
  have hupper := n.toInt_lt
  rw [← Int32.toInt_inj, project, toInt_int32_ofCanonical]
  exact toIntWithin_ofInt (by omega) (by omega) (by omega)

theorem project_int64 {n : Int64} (hbits : n.toInt.natAbs ≤ 2 ^ 53) : (int64 (α := Float)).project n = n := by
  have hmin : Int64.minValue.toInt = -2 ^ 63 := rfl
  have hmax : Int64.maxValue.toInt = 2 ^ 63 - 1 := rfl
  rw [← Int64.toInt_inj, project, toInt_int64_ofCanonical]
  exact toIntWithin_ofInt hbits (by omega) (by omega)

end Domain

/-! ### Panned ranges -/

namespace Range

section

variable [Decimals Float]

/-- The bounds are values that a range of the kind has: those of single precision are numbers of that format. -/
def HoldsValues : Range Float → Prop
  | float r => toSingle r.min = r.min ∧ toSingle r.max = r.max
  | _ => True

structure IsProper (r : Range Float) : Prop where
  defined : r.isDefined
  ordered : r.isInverted = false
  values : r.HoldsValues

variable {V : Type} {d : Domain Float V} {wrap : Interval d → Range Float} {c m : Interval d}

theorem clipPanned_clipAtExtents {candidate maximum : Range Float} (h : maximum.isDefined) :
    candidate.clipPanned maximum .clipAtExtents =
      if maximum.canonicalMax - maximum.canonicalMin ≤ candidate.preciseBounds.2 - candidate.preciseBounds.1 then maximum
      else if candidate.preciseBounds.1 < maximum.canonicalMin then
        (candidate.like maximum.canonicalMin
          (candidate.preciseBounds.2 + (maximum.canonicalMin - candidate.preciseBounds.1))).clipTo maximum .clipAtExtents
      else if maximum.canonicalMax < candidate.preciseBounds.2 then
        (candidate.like (candidate.preciseBounds.1 - (candidate.preciseBounds.2 - maximum.canonicalMax))
          maximum.canonicalMax).clipTo maximum .clipAtExtents
      else candidate := by
  simp [clipPanned, h, ClipMode.clipsMin, ClipMode.clipsMax]

theorem clipPanned_wrap (hwrap : Wraps d wrap) (hm : (wrap m).isDefined) :
    (wrap c).clipPanned (wrap m) .clipAtExtents = wrap (c.hardStop m) := by
  rw [clipPanned_clipAtExtents hm]
  simp only [Interval.hardStop, apply_ite wrap]
  cases hwrap <;> rfl

/-- How the range `r` that a pan of `c` comes to stands to the extents `m`. It is within them unless the projection hides
the overrun. A bound that is seen to run over ends on the extent, unless the extent comes back further in. Where all
bounds survive their projection, what lies beyond decides and not what is seen. -/
structure StopsAt (c m r : Interval d) : Prop where
  within_iff : r.IsWithin m ↔ ¬ c.HidesOverrun m
  lower : c.canonicalMin < m.canonicalMin → ¬ d.lt m.min (d.project m.min) → r.min = m.min
  upper : ¬ c.canonicalMin < m.canonicalMin → m.canonicalMax < c.canonicalMax → ¬ d.lt (d.project m.max) m.max →
    r.max = m.max
  survives : c.Survives → m.Survives →
    r.IsWithin m ∧ (d.lt c.min m.min → r.min = m.min) ∧ (d.lt m.max c.max → ¬ d.lt c.min m.min → r.max = m.max)

omit [Decimals Float] in
theorem stopsAt_hardStop {P : Type} [LinearOrder P] [Placed d P] (hc : c.IsProper) (hm : m.IsProper) :
    StopsAt c m (c.hardStop m) where
  within_iff := by
    by_cases hlooks : c.LooksWithin m
    · rw [Interval.hardStop_of_looksWithin hlooks, Interval.HidesOverrun]
      simp [hlooks]
    · exact iff_of_true (Interval.isWithin_hardStop hc hm hlooks) fun hhidden => hlooks hhidden.2
  lower hseen := Interval.min_hardStop hc hm (.inr hseen)
  upper hunseen hseen := Interval.max_hardStop hc hm (.inr ⟨hunseen, hseen⟩)
  survives := Interval.hardStop_of_survives hc hm

omit [Decimals Float] in
theorem survives_double {r : Interval (Domain.double (α := Float))} (h : r.IsProper) : r.Survives :=
  ⟨saturate_of_isFinite h.isFinite_min, saturate_of_isFinite h.isFinite_max⟩

omit [Decimals Float] in
theorem survives_int32 (r : Interval (Domain.int32 (α := Float))) : r.Survives := ⟨project_int32 _, project_int32 _⟩

theorem IsProper.interval {P : Type} [LinearOrder P] [Placed d P] (h : (wrap c).IsProper) (hwrap : Wraps d wrap)
    (hlower : Placed.IsValue d c.min) (hupper : Placed.IsValue d c.max) : c.IsProper := by
  obtain ⟨hdefined, hordered, -⟩ := h
  cases hwrap <;> exact ⟨hdefined, hordered, hlower, hupper⟩

/-- A pan held at both extents of its kind, with no overrun that the projection hides, stops within them; and numbers and
whole numbers of 32 bits hide nothing. -/
theorem clipPanned_stops (hwrap : Wraps d wrap) (hkind : d.kind ≠ .decimal) (hc : (wrap c).IsProper)
    (hm : (wrap m).IsProper) :
    ∃ r, (wrap c).clipPanned (wrap m) .clipAtExtents = wrap r ∧ StopsAt c m r ∧
      (d.kind = .double ∨ d.kind = .float ∨ d.kind = .int32 → c.Survives ∧ m.Survives) := by
  refine ⟨c.hardStop m, clipPanned_wrap hwrap hm.defined, ?_⟩
  cases hwrap with
  | double =>
    have hc' := hc.interval .double trivial trivial
    have hm' := hm.interval .double trivial trivial
    exact ⟨stopsAt_hardStop hc' hm', fun _ => ⟨survives_double hc', survives_double hm'⟩⟩
  | float =>
    have hc' := hc.interval .float hc.values.1 hc.values.2
    have hm' := hm.interval .float hm.values.1 hm.values.2
    exact ⟨stopsAt_hardStop hc' hm', fun _ => ⟨hc.values, hm.values⟩⟩
  | int32 =>
    have hc' := hc.interval .int32 trivial trivial
    have hm' := hm.interval .int32 trivial trivial
    exact ⟨stopsAt_hardStop hc' hm', fun _ => ⟨survives_int32 c, survives_int32 m⟩⟩
  | int64 =>
    have hc' := hc.interval .int64 trivial trivial
    have hm' := hm.interval .int64 trivial trivial
    exact ⟨stopsAt_hardStop hc' hm', fun h => absurd h (by decide)⟩
  | decimal => exact absurd rfl hkind
  | date =>
    have hc' := hc.interval .date trivial trivial
    have hm' := hm.interval .date trivial trivial
    exact ⟨stopsAt_hardStop hc' hm', fun h => absurd h (by decide)⟩
  | timeSpan =>
    have hc' := hc.interval .timeSpan trivial trivial
    have hm' := hm.interval .timeSpan trivial trivial
    exact ⟨stopsAt_hardStop hc' hm', fun h => absurd h (by decide)⟩

end

theorem clipPanned_stops_date :
    let c : Interval (Domain.date (α := Float)) := ⟨.ofTicks (-300), .ofTicks 200⟩
    let m : Interval (Domain.date (α := Float)) := ⟨.ofTicks 0, .ofTicks 1000⟩
    (date c).IsProper ∧ (date m).IsProper ∧ c.Survives ∧ m.Survives ∧
      ∃ r, (date c).clipPanned (date m) .clipAtExtents = date r ∧ r.IsWithin m ∧ r.min = .ofTicks 0 := by
  intro c m
  have hc : (date c).IsProper := ⟨by decide, by decide, trivial⟩
  have hm : (date m).IsProper := ⟨by decide, by decide, trivial⟩
  have hc' : c.Survives := ⟨by decide +kernel, by decide +kernel⟩
  have hm' : m.Survives := ⟨by decide +kernel, by decide +kernel⟩
  obtain ⟨r, hr, hstops, -⟩ := clipPanned_stops .date (by decide) hc hm
  obtain ⟨hwithin, hlower, -⟩ := hstops.survives hc' hm'
  exact ⟨hc, hm, hc', hm', r, hr, hwithin, hlower (by decide)⟩

/-- A candidate one below the extents is taken for one that starts on them and stays there; one further below extents
that start at `2 ^ 53 + 3` is brought to `2 ^ 53 + 4`. -/
theorem clipPanned_misses_extent :
    let c : Interval (Domain.int64 (α := Float)) := ⟨9007199254740992, 9007199254741000⟩
    let m : Interval (Domain.int64 (α := Float)) := ⟨9007199254740993, 9007199254742000⟩
    let c' : Interval (Domain.int64 (α := Float)) := ⟨9007199254740900, 9007199254740990⟩
    let m' : Interval (Domain.int64 (α := Float)) := ⟨9007199254740995, 9007199254742000⟩
    ((int64 c).IsProper ∧ (int64 m).IsProper ∧ c.max - c.min < m.max - m.min ∧ c.min < m.min ∧ c.max ≤ m.max ∧
        ∃ r, (int64 c).clipPanned (int64 m) .clipAtExtents = int64 r ∧ ¬ r.IsWithin m) ∧
      (int64 c').IsProper ∧ (int64 m').IsProper ∧ c'.max - c'.min < m'.max - m'.min ∧ c'.min < m'.min ∧
        c'.max ≤ m'.max ∧ ∃ r, (int64 c').clipPanned (int64 m') .clipAtExtents = int64 r ∧ r.min ≠ m'.min := by
  intro c m c' m'
  have hc : (int64 c).IsProper := ⟨by decide, by decide, trivial⟩
  have hm : (int64 m).IsProper := ⟨by decide, by decide, trivial⟩
  have hc' : (int64 c').IsProper := ⟨by decide, by decide, trivial⟩
  have hm' : (int64 m').IsProper := ⟨by decide, by decide, trivial⟩
  have hpassed : ¬ (c.hardStop m).IsWithin m := by decide +kernel
  have hmissed : (c'.hardStop m').min ≠ m'.min := by decide +kernel
  exact ⟨⟨hc, hm, by decide, by decide, by decide, _, clipPanned_wrap .int64 hm.defined, hpassed⟩,
    hc', hm', by decide, by decide, by decide, _, clipPanned_wrap .int64 hm'.defined, hmissed⟩

end Range

end ChartGestures
