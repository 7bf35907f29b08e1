import ChartGestures.Number.ExactDecimal
import ChartGestures.Proofs.Axis.Direct
import Mathlib.Tactic.Ring
import Mathlib.Tactic.NormNum

/-!
# Which bound a growth moves

Two fractions grow a range, one for each bound. A range that is wide enough grows by fractions of its span, which is
never negative, so that each fraction moves its own bound outward. A range too narrow for that grows by fractions of its
bounds. Those keep the sides above zero; below zero they point inward, and where the bounds coincide, exchanging them
gives each fraction to the other side.
-/

namespace ChartGestures

open Scalar

namespace Range

section

variable [Decimals Rat]

/-- A growth from `r` moves each bound by the fraction that is named for it alone, outward, and further the larger the
fraction is. -/
structure GrowsOutward (grow : Rat → Rat → Range Rat) (r : Range Rat) : Prop where
  lower : ∀ a, 0 ≤ a → (grow a 0).preciseBounds.2 = r.preciseBounds.2 ∧
    (grow a 0).preciseBounds.1 ≤ r.preciseBounds.1
  upper : ∀ b, 0 ≤ b → (grow 0 b).preciseBounds.1 = r.preciseBounds.1 ∧
    r.preciseBounds.2 ≤ (grow 0 b).preciseBounds.2
  encloses : ∀ a b, 0 ≤ a → 0 ≤ b → (grow a b).Encloses r
  monotone : ∀ a a' b b', 0 ≤ a' → a' ≤ a → 0 ≤ b' → b' ≤ b → (grow a b).Encloses (grow a' b')

theorem growsOutward_of_between {grow : Rat → Rat → Range Rat} {lo hi below above : Rat} (hle : lo ≤ hi)
    (hbelow : 0 ≤ below) (habove : 0 ≤ above)
    (h : ∀ a b, grow a b = between (lo - a * below) (hi + b * above)) : GrowsOutward grow (between lo hi) := by
  have hbounds {a b : Rat} (ha : 0 ≤ a) (hb : 0 ≤ b) :
      (grow a b).preciseBounds = (lo - a * below, hi + b * above) := by
    have hlower := mul_nonneg ha hbelow
    have hupper := mul_nonneg hb habove
    rw [h, preciseBounds_between (by linarith)]
  have hstart : (between lo hi).preciseBounds = (lo, hi) := preciseBounds_between hle
  have hmonotone (a a' b b' : Rat) (ha' : 0 ≤ a') (ha : a' ≤ a) (hb' : 0 ≤ b') (hb : b' ≤ b) :
      (grow a b).Encloses (grow a' b') := by
    rw [Encloses, hbounds (ha'.trans ha) (hb'.trans hb), hbounds ha' hb']
    exact ⟨sub_le_sub_left (mul_le_mul_of_nonneg_right ha hbelow) lo,
      add_le_add_right (mul_le_mul_of_nonneg_right hb habove) hi⟩
  have hencloses (a b : Rat) (ha : 0 ≤ a) (hb : 0 ≤ b) : (grow a b).Encloses (between lo hi) := by
    have hnone := hmonotone a 0 b 0 le_rfl ha le_rfl hb
    rwa [h 0 0, zero_mul, zero_mul, sub_zero, add_zero] at hnone
  refine ⟨fun a ha => ⟨?_, (hencloses a 0 ha le_rfl).1⟩, fun b hb => ⟨?_, (hencloses 0 b le_rfl hb).2⟩,
    hencloses, hmonotone⟩
  · rw [hbounds ha le_rfl, hstart, zero_mul, add_zero]
  · rw [hbounds le_rfl hb, hstart, zero_mul, sub_zero]

variable {v : Interval (Domain.double (α := Rat))}

/-- A range without a width grows by fractions of its bounds, with their signs. -/
theorem growBy_of_narrow (hle : v.min ≤ v.max) (hnarrow : v.max - v.min ≤ Domain.double.tolerance)
    (hsize : Domain.double.tolerance < |v.min|) (a b : Rat) :
    (Range.double v).growBy a b = between (v.min - a * v.min) (v.max + b * v.max) := by
  rw [growBy_double_eq, grownBounds, Scalar.abs_eq, Scalar.abs_eq, abs_of_nonneg (sub_nonneg.2 hle), if_neg (not_lt.2 hnarrow),
    if_neg (not_le.2 hsize)]

theorem growsOutward_of_wide (hle : v.min ≤ v.max) (hwide : Domain.double.tolerance < v.max - v.min) :
    GrowsOutward (Range.double v).growBy (.double v) := by
  have hspan : 0 ≤ v.max - v.min := sub_nonneg.2 hle
  rw [← between_of_le hle]
  refine growsOutward_of_between hle hspan hspan fun a b => ?_
  rw [between_of_le hle]
  exact growBy_of_width (isZero_of_span hwide) a b

theorem growsOutward_of_pos (hle : v.min ≤ v.max) (hnarrow : v.max - v.min ≤ Domain.double.tolerance)
    (hsize : Domain.double.tolerance < |v.min|) (hpos : 0 < v.min) :
    GrowsOutward (Range.double v).growBy (.double v) := by
  rw [← between_of_le hle]
  refine growsOutward_of_between hle hpos.le (hpos.le.trans hle) fun a b => ?_
  rw [between_of_le hle]
  exact growBy_of_narrow hle hnarrow hsize a b

/-- A growth by twice its size takes a bound below zero as far above zero, past the other one. -/
theorem not_growsOutward_of_neg (hle : v.min ≤ v.max) (hnarrow : v.max - v.min ≤ Domain.double.tolerance)
    (hsize : Domain.double.tolerance < |v.min|) (hneg : v.min < 0) :
    ¬ GrowsOutward (Range.double v).growBy (.double v) := by
  intro hgrows
  have hnegative : v.max < 0 := by
    rw [abs_of_neg hneg] at hsize
    linarith
  have hturned : v.max ≤ v.min - 2 * v.min := by linarith
  have hkept := (hgrows.lower 2 (by norm_num)).1
  rw [growBy_of_narrow hle hnarrow hsize, zero_mul, add_zero, between_comm, preciseBounds_between hturned] at hkept
  have hsame : v.min - 2 * v.min = v.max := hkept
  linarith

/-- Where the bounds coincide below zero, each fraction moves the bound on the other side. -/
theorem growsOutward_exchanged {x : Rat} (hneg : x < 0) (hsize : Domain.double.tolerance < |x|) :
    GrowsOutward (fun a b => (between x x).growBy b a) (between x x) := by
  have hside : 0 ≤ -x := neg_nonneg.2 hneg.le
  refine growsOutward_of_between le_rfl hside hside fun a b => ?_
  have hnone : x - x ≤ Domain.double.tolerance := by
    rw [sub_self]
    exact tolerance_double_nonneg
  have hlower : x + a * x = x - a * -x := by ring
  have hupper : x - b * x = x + b * -x := by ring
  rw [between_of_le le_rfl, growBy_of_narrow (v := ⟨x, x⟩) le_rfl hnone hsize, between_comm]
  exact congrArg₂ between hlower hupper

/-- Growing moves each bound by its own fraction, outward and the further the larger it is, exactly from a range that is
wider than the tolerance or lies above zero. A range of no width below zero has its bounds exchanged: the first fraction
moves the upper bound and the second the lower one. -/
theorem growsOutward_iff {r : Range Rat} (hr : r.IsOrdered)
    (hsize : r.tolerance < r.span ∨ r.tolerance < |r.preciseBounds.1|) :
    (GrowsOutward r.growBy r ↔ r.tolerance < r.span ∨ 0 < r.preciseBounds.1) ∧
      (r.HasNoWidth → r.preciseBounds.1 < 0 → GrowsOutward (fun a b => r.growBy b a) r) := by
  obtain ⟨lo, hi, hle, rfl⟩ := hr
  change (Domain.double.tolerance < hi - lo ∨ Domain.double.tolerance < |lo|) at hsize
  change (_ ↔ Domain.double.tolerance < hi - lo ∨ 0 < lo) ∧ (lo = hi → lo < 0 → _)
  constructor
  · rcases lt_or_ge Domain.double.tolerance (hi - lo) with hwide | hnarrow
    · exact iff_of_true (growsOutward_of_wide hle hwide) (.inl hwide)
    · have hbound := hsize.resolve_left (not_lt.2 hnarrow)
      rcases lt_trichotomy lo 0 with hneg | rfl | hpos
      · exact iff_of_false (not_growsOutward_of_neg hle hnarrow hbound hneg)
          (not_or.2 ⟨not_lt.2 hnarrow, not_lt.2 hneg.le⟩)
      · rw [abs_zero] at hbound
        exact absurd hbound (not_lt.2 tolerance_double_nonneg)
      · exact iff_of_true (growsOutward_of_pos hle hnarrow hbound hpos) (.inr hpos)
  · rintro rfl hneg
    have hbound : Domain.double.tolerance < |lo| := by
      refine hsize.resolve_left (not_lt.2 ?_)
      rw [sub_self]
      exact tolerance_double_nonneg
    rw [← between_of_le le_rfl]
    exact growsOutward_exchanged hneg hbound

end

/-- At minus five a fraction for the lower bound moves the upper one. -/
theorem growsOutward_iff_neg_five :
    let r : Range Rat := between (-5) (-5)
    ¬ GrowsOutward r.growBy r ∧ GrowsOutward (fun a b => r.growBy b a) r := by
  intro r
  have hr : r = .double ⟨-5, -5⟩ := between_of_le le_rfl
  have hsize : r.tolerance < |r.preciseBounds.1| := by
    rw [hr]
    decide +kernel
  obtain ⟨hiff, hexchanged⟩ := growsOutward_iff ⟨-5, -5, le_rfl, hr⟩ (.inr hsize)
  have hwide : ¬ r.tolerance < r.span := by
    rw [hr]
    decide +kernel
  have hneg : r.preciseBounds.1 < 0 := by
    rw [hr]
    decide +kernel
  exact ⟨fun h => not_or.2 ⟨hwide, not_lt.2 hneg.le⟩ (hiff.1 h), hexchanged (by rw [hr]; rfl) hneg⟩

/-- A fifth for the lower bound alone takes the upper one from minus five to minus four. -/
theorem upper_moves_at_neg_five :
    let r : Range Rat := between (-5) (-5)
    (r.IsOrdered ∧ r.tolerance < |r.preciseBounds.1|) ∧
      (r.growBy 0.2 0).preciseBounds = (-5, -4) ∧ (r.growBy 0.2 0).preciseBounds.2 ≠ r.preciseBounds.2 := by
  refine ⟨⟨isOrdered_between _ _, ?_⟩, ?_, ?_⟩ <;> decide +kernel

end Range

end ChartGestures
