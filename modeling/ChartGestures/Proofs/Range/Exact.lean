import ChartGestures.Proofs.Number.Exact
import ChartGestures.Range.Clip
import Mathlib.Algebra.Order.Field.Rat
import Mathlib.Tactic.Linarith

/-!
# Ranges over exact numbers

Without rounding a double range is an ordered pair of rational numbers. `IsOrdered` says that a range is one; every
operation on ranges of that kind gives one again, and the bounds it has are those that its definition computes. The
shadows of an index range are such a pair too.
-/

namespace ChartGestures

open Scalar

theorem saturate_exact (x : Rat) : Domain.saturate x = x := by
  simp [Domain.saturate, isInfinite, isFinite, toRat?]

namespace Range

variable [Decimals Rat]

/-- The bounds in either order. -/
def between (x y : Rat) : Range Rat := .double (.new x y)

theorem between_of_le {lo hi : Rat} (h : lo ≤ hi) : between lo hi = .double ⟨lo, hi⟩ := by
  rw [between, Interval.new, if_neg (by simpa [Domain.double] using h)]

theorem between_of_lt {x y : Rat} (h : y < x) : between x y = .double ⟨y, x⟩ := by
  rw [between, Interval.new, if_pos (by simpa [Domain.double] using h)]

theorem between_comm (x y : Rat) : between x y = between y x := by
  rcases lt_trichotomy x y with h | rfl | h
  · rw [between_of_le h.le, between_of_lt h]
  · rfl
  · rw [between_of_lt h, between_of_le h.le]

def IsOrdered (r : Range Rat) : Prop := ∃ lo hi, lo ≤ hi ∧ r = .double ⟨lo, hi⟩

/-- The one has the bounds of the other inside its own, or on them. -/
def Encloses (r s : Range Rat) : Prop :=
  r.preciseBounds.1 ≤ s.preciseBounds.1 ∧ s.preciseBounds.2 ≤ r.preciseBounds.2

def HasNoWidth (r : Range Rat) : Prop := r.preciseBounds.1 = r.preciseBounds.2

instance (r : Range Rat) : Decidable r.HasNoWidth := inferInstanceAs (Decidable (_ = _))

theorem isOrdered_between (x y : Rat) : (between x y).IsOrdered := by
  rcases le_or_gt x y with h | h
  · exact ⟨x, y, h, between_of_le h⟩
  · exact ⟨y, x, h.le, between_of_lt h⟩

theorem IsOrdered.eq_between {r : Range Rat} (hr : r.IsOrdered) :
    r.preciseBounds.1 ≤ r.preciseBounds.2 ∧ r = between r.preciseBounds.1 r.preciseBounds.2 := by
  obtain ⟨lo, hi, hle, rfl⟩ := hr
  exact ⟨hle, (between_of_le hle).symm⟩

theorem preciseBounds_between {x y : Rat} (h : x ≤ y) : (between x y).preciseBounds = (x, y) := by
  rw [between_of_le h]
  rfl

theorem encloses_between {r : Range Rat} {x y : Rat} (hx : r.preciseBounds.1 ≤ x ∧ x ≤ r.preciseBounds.2)
    (hy : r.preciseBounds.1 ≤ y ∧ y ≤ r.preciseBounds.2) : r.Encloses (between x y) := by
  rcases le_total x y with h | h
  · rw [Encloses, preciseBounds_between h]
    exact ⟨hx.1, hy.2⟩
  · rw [Encloses, between_comm, preciseBounds_between h]
    exact ⟨hy.1, hx.2⟩

theorem eq_of_beq_double {r s : Interval (Domain.double (α := Rat))} (h : (Range.double r == Range.double s) = true) :
    Range.double r = Range.double s := by
  obtain ⟨hmin, hmax⟩ := Bool.and_eq_true_iff.1 h
  obtain ⟨lo, hi⟩ := r
  obtain ⟨lo', hi'⟩ := s
  rw [show lo = lo' from beq_iff_eq.1 hmin, show hi = hi' from beq_iff_eq.1 hmax]

theorem ofCanonical_exact (x y : Rat) : Range.double (.ofCanonical x y) = between x y := by
  rw [Interval.ofCanonical]
  simp only [Domain.double, saturate_exact]
  rfl

variable {r s : Range Rat}

theorem IsOrdered.like (hr : r.IsOrdered) (x y : Rat) : r.like x y = between x y := by
  obtain ⟨lo, hi, -, rfl⟩ := hr
  exact ofCanonical_exact x y

/-- Any range whose bounds are in order becomes a double range with those bounds. -/
theorem convert_double (h : r.preciseBounds.1 ≤ r.preciseBounds.2) :
    r.convert .double = between r.preciseBounds.1 r.preciseBounds.2 := by
  cases r with
  | double r => exact (between_of_le h).symm
  | _ r => exact ofCanonical_exact _ _

/-! ### Growing, moving and clipping -/

omit [Decimals Rat] in
theorem canonicalMin_double (v : Interval (Domain.double (α := Rat))) : v.canonicalMin = v.min := rfl

omit [Decimals Rat] in
theorem canonicalMax_double (v : Interval (Domain.double (α := Rat))) : v.canonicalMax = v.max := rfl

theorem growBy_double_eq (v : Interval (Domain.double (α := Rat))) (below above : Rat) :
    (Range.double v).growBy below above =
      match grownBounds v.min v.max below above Domain.double.tolerance with
      | some (min, max) => between min max
      | none => between (-1) 1 := by
  change Range.double (v.growBy below above) = _
  rw [Interval.growBy, canonicalMin_double, canonicalMax_double]
  cases grownBounds v.min v.max below above Domain.double.tolerance with
  | none => rfl
  | some bounds => exact ofCanonical_exact _ _

/-- A range with a width grows by fractions of it. -/
theorem growBy_of_width {v : Interval (Domain.double (α := Rat))} (h : (Range.double v).isZero = false)
    (below above : Rat) :
    (Range.double v).growBy below above = between (v.min - below * (v.max - v.min)) (v.max + above * (v.max - v.min)) := by
  change v.isZero = false at h
  rw [Interval.isZero, Interval.diff, canonicalMin_double, canonicalMax_double, decide_eq_false_iff_not, not_le] at h
  rw [growBy_double_eq, grownBounds, if_pos h]

theorem IsOrdered.growBy (hr : r.IsOrdered) (below above : Rat) : (r.growBy below above).IsOrdered := by
  obtain ⟨lo, hi, -, rfl⟩ := hr
  rw [growBy_double_eq]
  split
  · exact isOrdered_between _ _
  · exact isOrdered_between (-1) 1

theorem IsOrdered.translate (hr : r.IsOrdered) (delta : Rat) : (r.translate delta).IsOrdered := by
  rw [Range.translate, hr.like]
  exact isOrdered_between _ _

theorem IsOrdered.clipTo (hr : r.IsOrdered) (hs : s.IsOrdered) (mode : ClipMode) : (r.clipTo s mode).IsOrdered := by
  obtain ⟨lo, hi, -, rfl⟩ := hr
  obtain ⟨lo', hi', hle', rfl⟩ := hs
  change (Range.double (Interval.clipTo ⟨lo, hi⟩ ⟨lo', hi'⟩ mode)).IsOrdered
  simp only [Interval.clipTo]
  generalize (if mode.clipsMin then Domain.double.greater lo lo' else lo) = low
  generalize (if mode.clipsMax then Domain.double.lesser hi hi' else hi) = high
  split
  · exact ⟨lo', hi', hle', rfl⟩
  · next hinside => exact ⟨low, high, not_lt.1 (by simpa [Domain.double] using hinside), rfl⟩

theorem IsOrdered.clipPanned (hr : r.IsOrdered) (hs : s.IsOrdered) (mode : ClipMode) :
    (r.clipPanned s mode).IsOrdered := by
  rw [Range.clipPanned]
  simp only [hr.like]
  split
  · exact hr
  split
  · exact hr.clipTo hs .clipAtExtents
  split
  · exact hs
  split
  · exact (isOrdered_between _ _).clipTo hs mode
  split
  · exact (isOrdered_between _ _).clipTo hs mode
  · exact hr

end Range

/-! ### Shadows -/

namespace IndexRange

variable {r : IndexRange Rat}

theorem ofPrecise_of_le {x y : Rat} (h : x ≤ y) : ofPrecise x y = ⟨truncateIndex x, truncateIndex y, x, y⟩ := by
  rw [ofPrecise, if_neg (not_lt.2 h)]

theorem growBy_of_width (h : r.minShadow < r.maxShadow) (below above : Rat) :
    r.growBy below above = ofPrecise (r.minShadow - below * (r.maxShadow - r.minShadow))
      (r.maxShadow + above * (r.maxShadow - r.minShadow)) := by
  have hpositive : 0 < r.maxShadow - r.minShadow := sub_pos.2 h
  have hwidth : 0 < Scalar.abs (r.maxShadow - r.minShadow) := by
    rw [Scalar.abs, if_neg (not_le.2 hpositive)]
    exact hpositive
  rw [growBy, grownBounds, if_pos hwidth]

end IndexRange

end ChartGestures
