import ChartGestures.Gesture.AnchoredZoom
import ChartGestures.Proofs.Range.Scrolling

/-!
# Axes that keep what they show

An axis that does not always follow its data shows what is written to it. Over exact numbers the bounds are then just
those that a gesture computes. For a zoom around an anchor that is the span times one plus its scale, with the value at
the anchor where it was.
-/

namespace ChartGestures

open Scalar

namespace ChartAxis

variable [Decimals Rat] {a : ChartAxis Rat} {r : Range Rat}

/-- The axis shows the range written, in its own kind. -/
theorem setVisible_shows (hdirect : a.autoRange ≠ .always) (hkind : a.visible.kind.KeepsFractions) (hr : r.InOrder) :
    ∃ v, (a.setVisible r).axis = { a with visible := v } ∧ v.kind = a.visible.kind ∧
      v.preciseBounds = r.preciseBounds := by
  have hbounds := Range.preciseBounds_convert hkind hr
  unfold setVisible
  dsimp only
  rw [if_neg hdirect]
  split
  · next hsame => exact ⟨a.visible, rfl, rfl, (Range.preciseBounds_of_beq hkind hsame).symm.trans hbounds⟩
  · exact ⟨r.convert a.visible.kind, rfl, Range.kind_convert .., hbounds⟩

theorem setVisible_unchanged {a : ChartAxis Rat} (h : (a.setVisible r).changed = false) : (a.setVisible r).axis = a := by
  unfold setVisible at h ⊢
  dsimp only at h ⊢
  split at h
  · next halways =>
    rw [if_pos halways]
    split at h
    · cases h
    · rfl
  · next hdirect =>
    rw [if_neg hdirect]
    split at h
    · next hsame =>
      rw [if_pos hsame]
      rfl
    · cases h

theorem visibleRange_direct (hdirect : a.autoRange ≠ .always) : a.visibleRange = a.visible := by
  rw [visibleRange, if_neg hdirect]

end ChartAxis

/-! ### Zooms around an anchor -/

/-- How far apart the bounds are. -/
def Range.span [Decimals Rat] (r : Range Rat) : Rat := r.preciseBounds.2 - r.preciseBounds.1

/-- A span of no more than this is none to a range that grows. -/
def Range.tolerance [Decimals Rat] : Range Rat → Rat
  | double _ => Domain.double.tolerance
  | float _ => Domain.float.tolerance
  | _ => 0

theorem tolerance_double_nonneg : (0 : Rat) ≤ Domain.double.tolerance := by decide +kernel

namespace Range

variable [Decimals Rat] {r : Range Rat}

theorem isZero_of_span {v : Interval (Domain.double (α := Rat))} (h : Domain.double.tolerance < (Range.double v).span) :
    (Range.double v).isZero = false := by
  have hpositive : ¬ v.max - v.min ≤ 0 := not_le.2 (lt_of_le_of_lt tolerance_double_nonneg h)
  change v.isZero = false
  rw [Interval.isZero, Interval.diff, canonicalMin_double, canonicalMax_double, decide_eq_false_iff_not, not_le, Scalar.abs,
    if_neg hpositive]
  exact h

theorem tolerance_double (h : r.kind = .double) : r.tolerance = Domain.double.tolerance := by
  cases r with
  | double v => rfl
  | _ v => cases h

theorem span_pos (hkind : r.kind.KeepsFractions) (h : r.tolerance < r.span) : 0 < r.span := by
  cases r with
  | double v => exact lt_of_le_of_lt tolerance_double_nonneg h
  | index v => exact h
  | _ v => rcases hkind with hkind | hkind <;> cases hkind

/-- A range with a width grows by fractions of it. -/
theorem growBy_shows (hkind : r.kind.KeepsFractions) (hspan : r.tolerance < r.span) {below above : Rat}
    (hgrown : 0 ≤ 1 + below + above) : (r.growBy below above).kind = r.kind ∧
      (r.growBy below above).preciseBounds = (r.preciseBounds.1 - below * r.span, r.preciseBounds.2 + above * r.span) := by
  have hpositive := span_pos hkind hspan
  have horder : r.preciseBounds.1 - below * r.span ≤ r.preciseBounds.2 + above * r.span := by
    have hwidth : r.preciseBounds.2 - r.preciseBounds.1 = r.span := rfl
    have hscaled := mul_nonneg hgrown hpositive.le
    linarith
  cases r with
  | double v =>
    rw [growBy_of_width (isZero_of_span hspan)]
    exact ⟨rfl, preciseBounds_between horder⟩
  | index v =>
    have hgrow : (Range.index v).growBy below above = .index (.ofPrecise _ _) :=
      congrArg Range.index (IndexRange.growBy_of_width (sub_pos.1 hpositive) below above)
    rw [hgrow]
    exact ⟨rfl, preciseBounds_ofPrecise horder⟩
  | _ v => rcases hkind with hkind | hkind <;> cases hkind

end Range

namespace ChartAxis

variable [Decimals Rat] {a : ChartAxis Rat}

/-- The share of a growth that goes below an anchor. -/
def share (a : ChartAxis Rat) (anchor : Point Rat) : Rat :=
  if a.isIncreasing then a.pixelOffset anchor / a.pixelExtent else 1 - a.pixelOffset anchor / a.pixelExtent

/-- The share of a growth that goes below an anchor is also the share of the span that lies there. -/
theorem valueAt_pixelOffset (hextent : 0 < a.pixelExtent) (r : Range Rat) (anchor : Point Rat) :
    a.scale.valueAt r (a.pixelOffset anchor) = r.preciseBounds.1 + a.share anchor * r.span := by
  have hready : a.scale.isDegenerate = false := PixelScale.not_isDegenerate hextent
  simp only [PixelScale.valueAt, hready, Bool.false_eq_true, if_false]
  change (if a.isIncreasing then _ else _) = _
  rw [share]
  split
  · rfl
  · simp only [Range.span, scale]
    ring

theorem zoomFractionsAt_eq (hextent : 0 < a.pixelExtent) (anchor : Point Rat) (scale : Rat) :
    a.zoomFractionsAt anchor scale = some (a.share anchor * scale, (1 - a.share anchor) * scale) := by
  have hready : (decide (a.pixelExtent ≤ 0) || !isFinite a.pixelExtent || !isFinite (a.pixelOffset anchor) ||
      !isFinite scale) = false := by
    simp [isFinite, toRat?, not_le.2 hextent]
  rw [zoomFractionsAt, zoomFractions, hready, share]
  cases a.isIncreasing with
  | true => rfl
  | false =>
    simp only [Bool.not_false, if_true, Bool.false_eq_true, if_false, sub_sub_cancel]

/-- A zoom multiplies the span, and leaves the value at its anchor. -/
theorem zoomAt_shows (hdirect : a.autoRange ≠ .always) (hkind : a.visible.kind.KeepsFractions)
    (hextent : 0 < a.pixelExtent) (hspan : a.visible.tolerance < a.visible.span) {scale : Rat} (hscale : 0 < 1 + scale)
    (anchor : Point Rat) :
    ∃ v, (a.zoomAt anchor scale).axis = { a with visible := v } ∧ v.kind = a.visible.kind ∧
      v.span = a.visible.span * (1 + scale) ∧
      v.preciseBounds.1 + a.share anchor * v.span = a.visible.preciseBounds.1 + a.share anchor * a.visible.span := by
  let grown := a.visible.growBy (a.share anchor * scale) ((1 - a.share anchor) * scale)
  have hshares : 1 + a.share anchor * scale + (1 - a.share anchor) * scale = 1 + scale := by ring
  have hbounds : grown.preciseBounds = _ := (Range.growBy_shows hkind hspan (hshares ▸ hscale.le)).2
  have hwidth : grown.span = a.visible.span * (1 + scale) := by
    rw [Range.span, hbounds]
    simp only [Range.span]
    ring
  have horder : grown.InOrder := by
    have hpositive := mul_pos (Range.span_pos hkind hspan) hscale
    rw [← hwidth] at hpositive
    exact (sub_pos.1 hpositive).le
  obtain ⟨v, hv, hvkind, hvbounds⟩ := setVisible_shows hdirect hkind horder
  have hvspan : v.span = grown.span := by rw [Range.span, hvbounds, Range.span]
  refine ⟨v, ?_, hvkind, hvspan.trans hwidth, ?_⟩
  · rw [zoomAt, zoomFractionsAt_eq hextent, ← hv]
    change (a.zoomBy _ _).axis = _
    rw [zoomBy, visibleRange_direct hdirect, applyRange, if_neg hdirect]
  · rw [hvspan, hwidth, hvbounds, hbounds]
    ring

end ChartAxis

end ChartGestures
