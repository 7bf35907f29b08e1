import ChartGestures.Axis.PixelScale
import ChartGestures.Proofs.Range.Exact
import Mathlib.Tactic.Ring

/-!
# Scrolling over exact numbers

Double ranges and index ranges take every exact number for a bound, an index range in its shadows. A range of these
kinds whose bounds are in order keeps its width under a scroll, and so two scrolls, the second from where the first led
to, come to one scroll by all of the pixels.
-/

namespace ChartGestures

open Scalar

/-- The kinds whose precise bounds are just the numbers they were made from. -/
def RangeKind.KeepsFractions (kind : RangeKind) : Prop := kind = .double ∨ kind = .index

instance (kind : RangeKind) : Decidable kind.KeepsFractions := inferInstanceAs (Decidable (_ ∨ _))

namespace Range

@[simp] theorem kind_convert {α : Type} [Scalar α] [Decimals α] (r : Range α) (kind : RangeKind) :
    (r.convert kind).kind = kind := by
  cases kind <;> rfl

variable [Decimals Rat]

/-- The precise bounds are in order. Ranges are made so; an index range loses it only where one of its whole bounds is
set by itself onto the other, on the wrong side of the fraction that the other one keeps. -/
def InOrder (r : Range Rat) : Prop := r.preciseBounds.1 ≤ r.preciseBounds.2

instance (r : Range Rat) : Decidable r.InOrder := inferInstanceAs (Decidable (_ ≤ _))

theorem preciseBounds_ofPrecise {x y : Rat} (h : x ≤ y) : (Range.index (.ofPrecise x y)).preciseBounds = (x, y) := by
  rw [IndexRange.ofPrecise_of_le h]
  rfl

variable {r : Range Rat} {kind : RangeKind}

theorem preciseBounds_convert (hkind : kind.KeepsFractions) (hr : r.InOrder) :
    (r.convert kind).preciseBounds = r.preciseBounds := by
  rcases hkind with rfl | rfl
  · rw [convert_double hr, preciseBounds_between hr]
  · cases r with
    | index r => rfl
    | _ r => exact preciseBounds_ofPrecise hr

@[simp] theorem kind_like (r : Range Rat) (x y : Rat) : (r.like x y).kind = r.kind := by
  cases r <;> rfl

theorem preciseBounds_like (hkind : r.kind.KeepsFractions) {x y : Rat} (h : x ≤ y) :
    (r.like x y).preciseBounds = (x, y) := by
  rcases hkind with hkind | hkind
  · cases r with
    | double r =>
      change (Range.double (.ofCanonical x y)).preciseBounds = (x, y)
      rw [ofCanonical_exact, preciseBounds_between h]
    | _ r => cases hkind
  · cases r with
    | index r => exact preciseBounds_ofPrecise h
    | _ r => cases hkind

theorem preciseBounds_translate (hkind : r.kind.KeepsFractions) (hr : r.InOrder) (delta : Rat) :
    (r.translate delta).preciseBounds = (r.preciseBounds.1 + delta, r.preciseBounds.2 + delta) :=
  preciseBounds_like hkind (add_le_add_left hr delta)

/-- Equal ranges have equal bounds. -/
theorem preciseBounds_of_beq {s : Range Rat} (hkind : s.kind.KeepsFractions) (h : (r == s) = true) :
    r.preciseBounds = s.preciseBounds := by
  change r.eq s = true at h
  rcases hkind with hkind | hkind
  · cases s with
    | double s =>
      cases r with
      | double r => exact congrArg preciseBounds (eq_of_beq_double h)
      | _ r => cases h
    | _ s => cases hkind
  · cases s with
    | index s =>
      cases r with
      | index r =>
        simp only [eq, IndexRange.eq, Bool.and_eq_true, beq_iff_eq] at h
        exact Prod.ext h.1.2 h.2
      | _ r => cases h
    | _ s => cases hkind

end Range

namespace PixelScale

variable [Decimals Rat]

variable {s : PixelScale Rat} {r start : Range Rat}

omit [Decimals Rat] in
theorem not_isDegenerate (hextent : 0 < s.extent) : s.isDegenerate = false := by
  simp [isDegenerate, isFinite, toRat?, not_le.2 hextent]

/-- How far a scroll moves the bounds. -/
def shift (s : PixelScale Rat) (r : Range Rat) (pixels : Rat) : Rat :=
  if s.isDegenerate then 0 else s.valueOffset r pixels

theorem shift_add (s : PixelScale Rat) (r : Range Rat) (pixels more : Rat) :
    s.shift r (pixels + more) = s.shift r pixels + s.shift r more := by
  unfold shift valueOffset
  dsimp only
  split
  · rw [add_zero]
  · split <;> ring

theorem shift_zero (s : PixelScale Rat) (r : Range Rat) : s.shift r 0 = 0 := by
  unfold shift valueOffset
  dsimp only
  split
  · rfl
  · split <;> ring

/-- Only the width of the range matters. -/
theorem shift_congr (h : r.preciseBounds.2 - r.preciseBounds.1 = start.preciseBounds.2 - start.preciseBounds.1)
    (pixels : Rat) : s.shift r pixels = s.shift start pixels := by
  rw [shift, shift, valueOffset, valueOffset, h]

theorem preciseBounds_scroll (hkind : r.kind.KeepsFractions) (hr : r.InOrder) (pixels : Rat) :
    (s.scroll r pixels).preciseBounds =
      (r.preciseBounds.1 + s.shift r pixels, r.preciseBounds.2 + s.shift r pixels) := by
  rw [scroll, shift]
  split
  · rw [add_zero, add_zero]
  · exact Range.preciseBounds_translate hkind hr _

theorem inOrder_scroll (hkind : r.kind.KeepsFractions) (hr : r.InOrder) (pixels : Rat) : (s.scroll r pixels).InOrder := by
  rw [Range.InOrder, preciseBounds_scroll hkind hr]
  exact add_le_add_left hr _

theorem preciseBounds_scroll_zero (hkind : r.kind.KeepsFractions) (hr : r.InOrder) :
    (s.scroll r 0).preciseBounds = r.preciseBounds := by
  rw [preciseBounds_scroll hkind hr, shift_zero, add_zero, add_zero]

/-- A scroll on from where another led to. -/
theorem preciseBounds_scroll_scroll (hkind : start.kind.KeepsFractions) (hstart : start.InOrder)
    (hkind' : r.kind.KeepsFractions) {pixels : Rat} (hr : r.preciseBounds = (s.scroll start pixels).preciseBounds)
    (more : Rat) : (s.scroll r more).preciseBounds = (s.scroll start (pixels + more)).preciseBounds := by
  have horder : r.InOrder := by
    rw [Range.InOrder, hr]
    exact inOrder_scroll hkind hstart pixels
  rw [preciseBounds_scroll hkind hstart] at hr
  have hwidth : r.preciseBounds.2 - r.preciseBounds.1 = start.preciseBounds.2 - start.preciseBounds.1 := by
    rw [hr]
    ring
  rw [preciseBounds_scroll hkind' horder, preciseBounds_scroll hkind hstart, shift_congr hwidth, hr, shift_add]
  exact Prod.ext (add_assoc ..) (add_assoc ..)

end PixelScale

end ChartGestures
