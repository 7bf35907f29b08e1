import ChartGestures.Number.ExactDecimal
import ChartGestures.Proofs.Axis.Direct
import ChartGestures.Proofs.Axis.MarginPath

/-!
# Margins undo growth

Over exact numbers a data range with a width is grown by a margin to any pair of bounds, and a pair of bounds comes from
one margin. A range does not tell its bounds from the same bounds exchanged, so two margins lead to it: the one that is
solved for, which does not turn the data over, and its mirror image, which does.
-/

namespace ChartGestures

open Scalar

namespace Range

variable [Decimals Rat]

/-- The bounds in either order give the range. -/
theorem between_eq_double_iff {x y : Rat} {v : Interval (Domain.double (α := Rat))} (hv : v.min ≤ v.max) :
    between x y = .double v ↔ (x = v.min ∧ y = v.max) ∨ (x = v.max ∧ y = v.min) := by
  have hordered : between v.min v.max = .double v := between_of_le hv
  constructor
  · intro h
    rcases le_or_gt x y with hxy | hyx
    · rw [between_of_le hxy] at h
      cases h
      exact .inl ⟨rfl, rfl⟩
    · rw [between_of_lt hyx] at h
      cases h
      exact .inr ⟨rfl, rfl⟩
  · rintro (⟨rfl, rfl⟩ | ⟨rfl, rfl⟩)
    · exact hordered
    · rw [between_comm]
      exact hordered

end Range

namespace GrowMargin

open ChartAxis (marginTo)

/-- The margin that leads to the same bounds exchanged. -/
def mirrored (margin : GrowMargin Rat) : GrowMargin Rat := ⟨-1 - margin.max, -1 - margin.min⟩

section

variable [Decimals Rat] {margin : GrowMargin Rat} {d v : Interval (Domain.double (α := Rat))}

omit [Decimals Rat] in
theorem mirrored_marginTo (hspan : d.min < d.max) : (marginTo d v).mirrored = marginTo d ⟨v.max, v.min⟩ := by
  have hspan' : d.max - d.min ≠ 0 := (sub_pos.2 hspan).ne'
  simp only [mirrored, marginTo, GrowMargin.mk.injEq]
  constructor
  · field_simp
    ring
  · field_simp
    ring

omit [Decimals Rat] in
/-- One margin leads to a pair of bounds. -/
theorem eq_marginTo_iff (hspan : d.min < d.max) : margin = marginTo d v ↔
    d.min - margin.min * (d.max - d.min) = v.min ∧ d.max + margin.max * (d.max - d.min) = v.max := by
  have hspan' : d.max - d.min ≠ 0 := (sub_pos.2 hspan).ne'
  obtain ⟨below, above⟩ := margin
  simp only [marginTo, GrowMargin.mk.injEq, eq_div_iff hspan']
  constructor
  · rintro ⟨hbelow, habove⟩
    exact ⟨by linarith, by linarith⟩
  · rintro ⟨hmin, hmax⟩
    exact ⟨by linarith, by linarith⟩

theorem growBy_eq_iff (hspan : Domain.double.tolerance < (Range.double d).span) (hv : v.min ≤ v.max) :
    (Range.double d).growBy margin.min margin.max = .double v ↔
      margin = marginTo d v ∨ margin = (marginTo d v).mirrored := by
  have hwidth : d.min < d.max := sub_pos.1 (lt_of_le_of_lt tolerance_double_nonneg hspan)
  rw [Range.growBy_of_width (Range.isZero_of_span hspan), Range.between_eq_double_iff hv, mirrored_marginTo hwidth,
    eq_marginTo_iff hwidth, eq_marginTo_iff hwidth]

/-- A margin that does not turn the data over leads to bounds in order. -/
theorem growBy_ordered (hspan : Domain.double.tolerance < (Range.double d).span)
    (hscale : 0 < 1 + margin.min + margin.max) :
    ∃ u : Interval (Domain.double (α := Rat)), u.min < u.max ∧ margin = marginTo d u ∧
      (Range.double d).growBy margin.min margin.max = .double u := by
  have hpositive : 0 < d.max - d.min := lt_of_le_of_lt tolerance_double_nonneg hspan
  have hordered : d.min - margin.min * (d.max - d.min) < d.max + margin.max * (d.max - d.min) := by
    have hgrown := mul_pos hscale hpositive
    linarith
  refine ⟨⟨_, _⟩, hordered, (eq_marginTo_iff (sub_pos.1 hpositive)).2 ⟨rfl, rfl⟩, ?_⟩
  rw [Range.growBy_of_width (Range.isZero_of_span hspan), Range.between_of_le hordered.le]

omit [Decimals Rat] in
theorem scale_mirrored (margin : GrowMargin Rat) :
    1 + margin.mirrored.min + margin.mirrored.max = -(1 + margin.min + margin.max) := by
  rw [mirrored]
  ring

end

end GrowMargin

end ChartGestures
