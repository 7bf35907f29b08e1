import ChartGestures.Number.ExactDecimal
import ChartGestures.Proofs.Range.Clipping
import ChartGestures.Proofs.Range.Exact
import Mathlib.Tactic.Ring

/-!
# The way back of a pan

Over exact numbers a pan that is held at the extents moves back by as little as brings it inside them, on the sides the
mode clips. It keeps its span, so at most one side is over, unless it is as wide as extents that hold both sides; it is
those extents then. Either way the range it comes to is left alone by a second pan.
-/

namespace ChartGestures

open Scalar

namespace Interval

variable {c m : Interval (Domain.double (α := Rat))} {mode : ClipMode} {shift : Rat}

/-- Moved by `shift`, `c` lies past `m` on none of the sides the mode clips. -/
structure Fits (c m : Interval (Domain.double (α := Rat))) (mode : ClipMode) (shift : Rat) : Prop where
  lower : mode.clipsMin → m.min ≤ c.min + shift
  upper : mode.clipsMax → c.max + shift ≤ m.max

/-- Of the shifts that fit, the one of least absolute value. -/
structure IsNearestShift (c m : Interval (Domain.double (α := Rat))) (mode : ClipMode) (shift : Rat) : Prop where
  fits : c.Fits m mode shift
  least (other : Rat) : c.Fits m mode other → other ≠ shift → |shift| < |other|

/-- Extents that hold both sides have no room for `c` to move in. -/
def Fills (c m : Interval (Domain.double (α := Rat))) (mode : ClipMode) : Prop :=
  mode = .clipAtExtents ∧ m.max - m.min ≤ c.max - c.min

instance (c m : Interval (Domain.double (α := Rat))) (mode : ClipMode) : Decidable (c.Fills m mode) :=
  inferInstanceAs (Decidable (_ ∧ _))

/-- How far `c` moves, from the bound that is over to the extent. -/
def wayBack (c m : Interval (Domain.double (α := Rat))) (mode : ClipMode) : Rat :=
  if mode.clipsMin ∧ c.min < m.min then m.min - c.min
  else if mode.clipsMax ∧ m.max < c.max then m.max - c.max
  else 0

def moved (c : Interval (Domain.double (α := Rat))) (shift : Rat) : Interval (Domain.double (α := Rat)) :=
  ⟨c.min + shift, c.max + shift⟩

/-! ### The nearest shift -/

theorem span_le_of_not_fills (hstretch : mode ≠ .stretchAtExtents) (h : ¬ c.Fills m mode) (hmin : mode.clipsMin)
    (hmax : mode.clipsMax) : c.max - c.min ≤ m.max - m.min := by
  cases mode with
  | clipAtExtents => exact (not_le.1 fun hle => h ⟨rfl, hle⟩).le
  | stretchAtExtents => exact absurd rfl hstretch
  | none | clipAtMax => cases hmin
  | clipAtMin => cases hmax

theorem isNearestShift_wayBack (hspan : mode.clipsMin → mode.clipsMax → c.max - c.min ≤ m.max - m.min) :
    c.IsNearestShift m mode (c.wayBack m mode) := by
  rw [wayBack]
  split
  -- Every shift that fits goes up at least to the lower extent.
  · next h =>
    refine ⟨⟨fun _ => by linarith, fun hmax => by linarith [hspan h.1 hmax]⟩, fun other hother hne => ?_⟩
    have hle : m.min - c.min ≤ other := by linarith [hother.lower h.1]
    rw [abs_of_pos (by linarith [h.2]), abs_of_pos (by linarith [h.2])]
    exact lt_of_le_of_ne hle hne.symm
  · next hlow =>
    have hlower : mode.clipsMin → m.min ≤ c.min := fun hmin => not_lt.1 fun hlt => hlow ⟨hmin, hlt⟩
    split
    -- Every shift that fits goes down at least to the upper extent.
    · next h =>
      refine ⟨⟨fun hmin => by linarith [hspan hmin h.1], fun _ => by linarith⟩, fun other hother hne => ?_⟩
      have hle : other ≤ m.max - c.max := by linarith [hother.upper h.1]
      rw [abs_of_neg (by linarith [h.2]), abs_of_neg (by linarith [h.2])]
      exact neg_lt_neg (lt_of_le_of_ne hle hne)
    · next hhigh =>
      have hupper : mode.clipsMax → c.max ≤ m.max := fun hmax => not_lt.1 fun hlt => hhigh ⟨hmax, hlt⟩
      refine ⟨⟨fun hmin => by linarith [hlower hmin], fun hmax => by linarith [hupper hmax]⟩, fun other _ hne => ?_⟩
      rw [abs_zero]
      exact abs_pos.2 hne

theorem wayBack_lower (hmin : mode.clipsMin) (h : c.min < m.min) : c.wayBack m mode = m.min - c.min := if_pos ⟨hmin, h⟩

/-- A range that keeps within the span of the extents is over on one side alone. -/
theorem wayBack_upper (hspan : mode.clipsMin → mode.clipsMax → c.max - c.min ≤ m.max - m.min) (hmax : mode.clipsMax)
    (h : m.max < c.max) : c.wayBack m mode = m.max - c.max := by
  have hlow : ¬ (mode.clipsMin ∧ c.min < m.min) := fun hlow => by linarith [hspan hlow.1 hmax, hlow.2]
  rw [wayBack, if_neg hlow, if_pos ⟨hmax, h⟩]

theorem wayBack_of_fits (h : c.Fits m mode 0) : c.wayBack m mode = 0 := by
  have hlow : ¬ (mode.clipsMin ∧ c.min < m.min) := fun hlow => by linarith [h.lower hlow.1, hlow.2]
  have hhigh : ¬ (mode.clipsMax ∧ m.max < c.max) := fun hhigh => by linarith [h.upper hhigh.1, hhigh.2]
  rw [wayBack, if_neg hlow, if_neg hhigh]

theorem moved_zero (c : Interval (Domain.double (α := Rat))) : c.moved 0 = c := by
  rw [moved, add_zero, add_zero]

theorem fits_moved (h : c.Fits m mode shift) : (c.moved shift).Fits m mode 0 := by
  refine ⟨fun hmin => ?_, fun hmax => ?_⟩
  · rw [add_zero]
    exact h.lower hmin
  · rw [add_zero]
    exact h.upper hmax

theorem fills_moved : (c.moved shift).Fills m mode ↔ c.Fills m mode := by
  rw [Fills, Fills, moved, add_sub_add_right_eq_sub]

/-- A clip leaves a range alone that needs no shift. -/
theorem clipTo_of_fits (hc : c.min ≤ c.max) (h : c.Fits m mode 0) : c.clipTo m mode = c := by
  refine clipTo_eq_self ?_ (fun hmin => ?_) (fun hmax => ?_)
  · simpa [isInverted, Domain.double] using hc
  · simpa [Domain.double] using h.lower hmin
  · simpa [Domain.double] using h.upper hmax

end Interval

/-! ### Panned ranges -/

namespace Range

section

variable [Decimals Rat] {c m : Interval (Domain.double (α := Rat))} {mode : ClipMode} {shift : Rat}

theorem between_moved (hc : c.min ≤ c.max) (shift : Rat) :
    between (c.min + shift) (c.max + shift) = double (c.moved shift) := between_of_le (add_le_add_left hc shift)

theorem like_double (hc : c.min ≤ c.max) (x y : Rat) : (double c).like x y = between x y :=
  IsOrdered.like ⟨c.min, c.max, hc, rfl⟩ x y

theorem translate_double (hc : c.min ≤ c.max) (shift : Rat) : (double c).translate shift = double (c.moved shift) :=
  (like_double hc _ _).trans (between_moved hc shift)

/-- The clip that follows a move has nothing to do. -/
theorem clipTo_like (hc : c.min ≤ c.max) {x y : Rat} (hx : x = c.min + shift) (hy : y = c.max + shift)
    (hfits : c.Fits m mode shift) : ((double c).like x y).clipTo (double m) mode = double (c.moved shift) := by
  rw [like_double hc, hx, hy, between_moved hc]
  exact congrArg double (Interval.clipTo_of_fits (add_le_add_left hc shift) (Interval.fits_moved hfits))

theorem clipPanned_double (hc : c.min ≤ c.max) (hdefined : m.isDefined) (hnone : mode ≠ .none)
    (hstretch : mode ≠ .stretchAtExtents) :
    (double c).clipPanned (double m) mode = double (if c.Fills m mode then m else c.moved (c.wayBack m mode)) := by
  have hdefined' : (double m).isDefined = true := hdefined
  -- The clip that follows each move is taken away below, where the move is known to fit.
  have hunfold : (double c).clipPanned (double m) mode =
      if c.Fills m mode then double m
      else if mode.clipsMin ∧ c.min < m.min then
        ((double c).like m.min (c.max + (m.min - c.min))).clipTo (double m) mode
      else if mode.clipsMax ∧ m.max < c.max then
        ((double c).like (c.min - (c.max - m.max)) m.max).clipTo (double m) mode
      else double c := by
    rw [clipPanned, if_neg (by simp [hnone, hdefined']), if_neg hstretch]
    rfl
  rw [hunfold]
  by_cases hfills : c.Fills m mode
  · rw [if_pos hfills, if_pos hfills]
  have hspan := Interval.span_le_of_not_fills hstretch hfills
  have hfits := (Interval.isNearestShift_wayBack hspan).fits
  rw [if_neg hfills, if_neg hfills]
  by_cases hlow : mode.clipsMin ∧ c.min < m.min
  · rw [Interval.wayBack_lower hlow.1 hlow.2] at hfits ⊢
    rw [if_pos hlow]
    exact clipTo_like hc (by ring) (by ring) hfits
  by_cases hhigh : mode.clipsMax ∧ m.max < c.max
  · rw [Interval.wayBack_upper hspan hhigh.1 hhigh.2] at hfits ⊢
    rw [if_neg hlow, if_pos hhigh]
    exact clipTo_like hc (by ring) (by ring) hfits
  · have hback : c.wayBack m mode = 0 := by rw [Interval.wayBack, if_neg hlow, if_neg hhigh]
    rw [if_neg hlow, if_neg hhigh, hback, Interval.moved_zero]

/-- How the range `r` that a pan of `c` comes to stands to the extents `m`. -/
structure PansTo (c m : Interval (Domain.double (α := Rat))) (mode : ClipMode)
    (r : Interval (Domain.double (α := Rat))) : Prop where
  fills : c.Fills m mode → r = m
  nearest : ¬ c.Fills m mode → ∃ shift, c.IsNearestShift m mode shift ∧ double r = (double c).translate shift
  span : ¬ c.Fills m mode → r.diff = c.diff
  lower : mode.clipsMin → c.min < m.min → r.min = m.min
  upper : mode.clipsMax → m.max < c.max → r.max = m.max
  again : (double r).clipPanned (double m) mode = double r

theorem pansTo_extents (hm : m.min ≤ m.max) (hdefined : m.isDefined) (hfills : c.Fills m mode) :
    PansTo c m mode m where
  fills _ := rfl
  nearest h := absurd hfills h
  span h := absurd hfills h
  lower _ _ := rfl
  upper _ _ := rfl
  again := by
    obtain rfl := hfills.1
    rw [clipPanned_double hm hdefined (by decide) (by decide), if_pos ⟨rfl, le_rfl⟩]

theorem pansTo_moved (hc : c.min ≤ c.max) (hdefined : m.isDefined) (hnone : mode ≠ .none)
    (hstretch : mode ≠ .stretchAtExtents) (hfills : ¬ c.Fills m mode) :
    PansTo c m mode (c.moved (c.wayBack m mode)) := by
  have hspan := Interval.span_le_of_not_fills hstretch hfills
  have hshift := Interval.isNearestShift_wayBack hspan
  refine ⟨fun h => absurd h hfills, fun _ => ⟨_, hshift, (translate_double hc _).symm⟩, fun _ => ?_, fun hmin h => ?_,
    fun hmax h => ?_, ?_⟩
  · exact add_sub_add_right_eq_sub _ _ _
  · rw [Interval.wayBack_lower hmin h]
    exact add_sub_cancel _ _
  · rw [Interval.wayBack_upper hspan hmax h]
    exact add_sub_cancel _ _
  · have hordered : (c.moved (c.wayBack m mode)).min ≤ (c.moved (c.wayBack m mode)).max := add_le_add_left hc _
    rw [clipPanned_double hordered hdefined hnone hstretch, if_neg (Interval.fills_moved.not.2 hfills),
      Interval.wayBack_of_fits (Interval.fits_moved hshift.fits), Interval.moved_zero]

/-- A pan that is held at one extent or at both comes to the nearest place inside, or to the extents that it fills. -/
theorem pans_to_nearest (hc : c.min ≤ c.max) (hm : m.min ≤ m.max) (hdefined : m.isDefined) (mode : ClipMode)
    (hnone : mode ≠ .none) (hstretch : mode ≠ .stretchAtExtents) :
    ∃ r, (double c).clipPanned (double m) mode = double r ∧ PansTo c m mode r := by
  refine ⟨_, clipPanned_double hc hdefined hnone hstretch, ?_⟩
  split
  · next hfills => exact pansTo_extents hm hdefined hfills
  · next hfills => exact pansTo_moved hc hdefined hnone hstretch hfills

end

/-- A pan past the upper extent comes back to it with its span. -/
theorem pans_to_nearest_upper :
    let c : Interval (Domain.double (α := Rat)) := ⟨803 / 10, 1107 / 10⟩
    let m : Interval (Domain.double (α := Rat)) := ⟨0, 100⟩
    c.min ≤ c.max ∧ m.min ≤ m.max ∧ m.isDefined ∧ ¬ c.Fills m .clipAtExtents ∧
      ∃ r, (double c).clipPanned (double m) .clipAtExtents = double r ∧ r.max = 100 ∧ r.diff = c.diff := by
  intro c m
  have hc : c.min ≤ c.max := by decide +kernel
  have hm : m.min ≤ m.max := by decide +kernel
  have hdefined : m.isDefined := by decide +kernel
  have hfills : ¬ c.Fills m .clipAtExtents := by decide +kernel
  obtain ⟨r, hr, hpans⟩ := pans_to_nearest hc hm hdefined .clipAtExtents (by decide) (by decide)
  exact ⟨hc, hm, hdefined, hfills, r, hr, hpans.upper rfl (by decide +kernel), hpans.span hfills⟩

end Range

end ChartGestures
