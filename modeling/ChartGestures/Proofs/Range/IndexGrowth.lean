import ChartGestures.Axis.Margin
import ChartGestures.Proofs.Range.Exact
import ChartGestures.Proofs.Range.Shadows
import Mathlib.Tactic.Ring
import Mathlib.Tactic.NormNum

/-!
# Growing an index range again and again

A gesture grows the positions of the categories a little at a time, by fractions of what is shown just then. Over exact
numbers the shadows keep all of it: growing again and again is growing once, by the margin that the single ones come
to, however small they are. What is rounded is only ever the whole bounds beside the shadows.
-/

namespace ChartGestures

open Scalar

namespace GrowMargin

/-- What a span is multiplied by when it grows by the margin. -/
def rate (m : GrowMargin Rat) : Rat := 1 + m.min + m.max

/-- The margin that grows a range by `m` and then, by fractions of the span it has by then, by `n`. -/
def followedBy (m n : GrowMargin Rat) : GrowMargin Rat := ⟨m.min + n.min * m.rate, m.max + n.max * m.rate⟩

variable (m n : GrowMargin Rat)

@[simp] theorem rate_zero : (zero : GrowMargin Rat).rate = 1 := by simp [rate, zero]

theorem rate_followedBy : (m.followedBy n).rate = m.rate * n.rate := by
  simp only [followedBy, rate]
  ring

theorem rate_foldl (margins : List (GrowMargin Rat)) :
    (margins.foldl followedBy m).rate = m.rate * (margins.map rate).prod := by
  induction margins generalizing m with
  | nil => simp
  | cons n margins ih =>
    simp only [List.foldl_cons, List.map_cons, List.prod_cons]
    rw [ih, rate_followedBy, mul_assoc]

end GrowMargin

namespace IndexRange

variable {r : IndexRange Rat} {m n : GrowMargin Rat}

/-- No growth leaves a range that rounds its shadows as it is. -/
theorem growBy_zero (hr : r.Coherent) (h : r.minShadow < r.maxShadow) :
    r.growBy GrowMargin.zero.min GrowMargin.zero.max = r := by
  have hmin : r.minShadow - (GrowMargin.zero : GrowMargin Rat).min * (r.maxShadow - r.minShadow) = r.minShadow := by
    simp [GrowMargin.zero]
  have hmax : r.maxShadow + (GrowMargin.zero : GrowMargin Rat).max * (r.maxShadow - r.minShadow) = r.maxShadow := by
    simp [GrowMargin.zero]
  rw [growBy_of_width h, hmin, hmax, ofPrecise_of_le h.le, ← hr.lower, ← hr.upper]

/-- The shadows after growing, still apart. -/
theorem shadows_growBy (h : r.minShadow < r.maxShadow) (hm : 0 < m.rate) :
    let grown := r.growBy m.min m.max
    grown.minShadow = r.minShadow - m.min * (r.maxShadow - r.minShadow) ∧
      grown.maxShadow = r.maxShadow + m.max * (r.maxShadow - r.minShadow) ∧
      grown.maxShadow - grown.minShadow = (r.maxShadow - r.minShadow) * m.rate ∧
      grown.minShadow < grown.maxShadow := by
  have hwidth : r.maxShadow + m.max * (r.maxShadow - r.minShadow) -
      (r.minShadow - m.min * (r.maxShadow - r.minShadow)) = (r.maxShadow - r.minShadow) * m.rate := by
    rw [GrowMargin.rate]
    ring
  have hordered : r.minShadow - m.min * (r.maxShadow - r.minShadow) <
      r.maxShadow + m.max * (r.maxShadow - r.minShadow) := by
    rw [← sub_pos, hwidth]
    exact mul_pos (sub_pos.2 h) hm
  intro grown
  have hgrown : grown = _ := (growBy_of_width h m.min m.max).trans (ofPrecise_of_le hordered.le)
  rw [hgrown]
  exact ⟨rfl, rfl, hwidth, hordered⟩

/-- Growing twice is growing once, even if the second time turns the bounds over. -/
theorem growBy_growBy (h : r.minShadow < r.maxShadow) (hm : 0 < m.rate) (n : GrowMargin Rat) :
    (r.growBy m.min m.max).growBy n.min n.max = r.growBy (m.followedBy n).min (m.followedBy n).max := by
  obtain ⟨hmin, hmax, hspan, hwidth⟩ := shadows_growBy h hm
  rw [growBy_of_width hwidth n.min n.max, hspan, hmin, hmax, growBy_of_width h (m.followedBy n).min]
  congr 1
  · simp only [GrowMargin.followedBy]
    ring
  · simp only [GrowMargin.followedBy]
    ring

theorem foldl_growBy (h : r.minShadow < r.maxShadow) {margins : List (GrowMargin Rat)}
    (hmargins : ∀ n ∈ margins, 0 < n.rate) (hm : 0 < m.rate) :
    margins.foldl (fun r n => r.growBy n.min n.max) (r.growBy m.min m.max) =
      r.growBy (margins.foldl GrowMargin.followedBy m).min (margins.foldl GrowMargin.followedBy m).max := by
  induction margins generalizing m with
  | nil => rfl
  | cons n margins ih =>
    have hboth : 0 < (m.followedBy n).rate := by
      rw [GrowMargin.rate_followedBy]
      exact mul_pos hm (hmargins n List.mem_cons_self)
    rw [List.foldl_cons, List.foldl_cons, growBy_growBy h hm]
    exact ih (fun k hk => hmargins k (List.mem_cons_of_mem n hk)) hboth

/-- An index range grown by margins one after another is the range grown once by what they come to, in its shadows and
in its whole bounds. The span has been multiplied by the rate of each, and the whole bounds round the shadows that this
leads to. -/
theorem grows_as_one (hr : r.Coherent) (h : r.minShadow < r.maxShadow) {margins : List (GrowMargin Rat)}
    (hmargins : ∀ m ∈ margins, 0 < 1 + m.min + m.max) :
    let total := margins.foldl GrowMargin.followedBy .zero
    let grown := margins.foldl (fun r m => r.growBy m.min m.max) r
    let span := r.maxShadow - r.minShadow
    grown = r.growBy total.min total.max ∧
      grown = ⟨truncateIndex (r.minShadow - total.min * span), truncateIndex (r.maxShadow + total.max * span),
        r.minShadow - total.min * span, r.maxShadow + total.max * span⟩ ∧
      grown.maxShadow - grown.minShadow = span * (margins.map fun m => 1 + m.min + m.max).prod := by
  intro total grown span
  have hone : grown = r.growBy total.min total.max := by
    have hrun := foldl_growBy (m := .zero) h hmargins (by simp)
    rw [growBy_zero hr h] at hrun
    exact hrun
  have hrate : total.rate = (margins.map GrowMargin.rate).prod := by
    rw [GrowMargin.rate_foldl, GrowMargin.rate_zero, one_mul]
  have htotal : 0 < total.rate := by
    rw [hrate]
    apply List.prod_pos
    intro rate hmem
    obtain ⟨m, hm, rfl⟩ := List.mem_map.1 hmem
    exact hmargins m hm
  obtain ⟨hmin, hmax, hspan, hwidth⟩ := shadows_growBy h htotal
  refine ⟨hone, ?_, ?_⟩
  · have hordered := hwidth.le
    rw [hmin, hmax] at hordered
    rw [hone, growBy_of_width h, ofPrecise_of_le hordered]
  · rw [hone, hspan, hrate]
    rfl

/-- Four hundredths of the span below, ten times over: never one whole category, and almost five together. -/
theorem grows_as_one_tenfold :
    let r : IndexRange Rat := new 0 10
    let margins : List (GrowMargin Rat) := List.replicate 10 ⟨0.04, 0⟩
    let grown := margins.foldl (fun r m => r.growBy m.min m.max) r
    grown = r.growBy (1.04 ^ 10 - 1) 0 ∧ grown.min = -4 ∧ grown.max = 10 ∧
      grown.maxShadow - grown.minShadow = 10 * 1.04 ^ 10 := by
  intro r margins grown
  have hmargins : ∀ m ∈ margins, 0 < 1 + m.min + m.max := by
    intro m hm
    rw [List.eq_of_mem_replicate hm]
    norm_num
  have hbelow : (margins.foldl GrowMargin.followedBy .zero).min = 1.04 ^ 10 - 1 := by decide +kernel
  have habove : (margins.foldl GrowMargin.followedBy .zero).max = 0 := by decide +kernel
  obtain ⟨hone, hbounds, -⟩ := grows_as_one (r := r) ⟨by decide, by decide, by decide⟩ (by decide) hmargins
  rw [hbelow, habove] at hone hbounds
  refine ⟨hone, ?_, ?_, ?_⟩ <;> rw [show grown = _ from hbounds] <;> decide +kernel

end IndexRange

end ChartGestures
