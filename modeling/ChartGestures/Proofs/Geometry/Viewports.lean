import ChartGestures.Geometry.Rect
import ChartGestures.Proofs.Number.Exact
import Mathlib.Tactic.Linarith

/-!
# Points and rectangles in a viewport

Over exact numbers the nearest point of a rectangle is each coordinate held between the two sides, so that it lies in
the rectangle, and a point of the rectangle is nearest to itself. The smallest rectangle around two points of a viewport
lies in it as well.
-/

namespace ChartGestures

namespace Rect

open Scalar (larger_eq_max smaller_eq_min)

variable {v : Rect Rat} {p q : Point Rat}

theorem contains_iff :
    v.contains p = true ↔ (v.x ≤ p.x ∧ p.x ≤ v.right) ∧ v.y ≤ p.y ∧ p.y ≤ v.bottom := by
  simp only [contains, Bool.and_eq_true, decide_eq_true_eq, and_assoc]

theorem clampPoint_eq (hwidth : 0 ≤ v.width) (hheight : 0 ≤ v.height) (p : Point Rat) :
    v.clampPoint p = ⟨Min.min (Max.max p.x v.x) v.right, Min.min (Max.max p.y v.y) v.bottom⟩ := by
  have hright : Max.max v.right v.x = v.right := max_eq_left (le_add_of_nonneg_right hwidth)
  have hbottom : Max.max v.bottom v.y = v.bottom := max_eq_left (le_add_of_nonneg_right hheight)
  simp only [clampPoint, Point.clamp, Point.larger, Point.smaller, min, max, larger_eq_max, smaller_eq_min, hright, hbottom]

theorem contains_clampPoint (hwidth : 0 ≤ v.width) (hheight : 0 ≤ v.height) (p : Point Rat) :
    v.contains (v.clampPoint p) = true := by
  rw [contains_iff, clampPoint_eq hwidth hheight]
  have hright : v.x ≤ v.right := le_add_of_nonneg_right hwidth
  have hbottom : v.y ≤ v.bottom := le_add_of_nonneg_right hheight
  exact ⟨⟨le_min (le_max_right ..) hright, min_le_right ..⟩, le_min (le_max_right ..) hbottom, min_le_right ..⟩

theorem clampPoint_of_contains (h : v.contains p = true) : v.clampPoint p = p := by
  obtain ⟨⟨hleft, hright⟩, htop, hbottom⟩ := contains_iff.1 h
  have hwidth : 0 ≤ v.width := le_add_iff_nonneg_right v.x |>.1 (hleft.trans hright)
  have hheight : 0 ≤ v.height := le_add_iff_nonneg_right v.y |>.1 (htop.trans hbottom)
  rw [clampPoint_eq hwidth hheight, max_eq_left hleft, min_eq_left hright, max_eq_left htop, min_eq_left hbottom]

/-- A rectangle with all of its sides inside another one, or on its sides. -/
structure LiesIn (r v : Rect Rat) : Prop where
  width : 0 ≤ r.width
  height : 0 ≤ r.height
  first : v.contains r.min = true
  last : v.contains r.max = true

theorem ofPoints_eq (p q : Point Rat) : ofPoints p q =
    ⟨Min.min p.x q.x, Min.min p.y q.y, Max.max p.x q.x - Min.min p.x q.x, Max.max p.y q.y - Min.min p.y q.y⟩ := by
  simp only [ofPoints, Point.larger, Point.smaller, larger_eq_max, smaller_eq_min]

theorem liesIn_ofPoints (hp : v.contains p = true) (hq : v.contains q = true) : (ofPoints p q).LiesIn v := by
  rw [contains_iff] at hp hq
  rw [ofPoints_eq]
  refine ⟨sub_nonneg.2 min_le_max, sub_nonneg.2 min_le_max, ?_, ?_⟩
  · rw [contains_iff]
    exact ⟨⟨le_min hp.1.1 hq.1.1, (min_le_left ..).trans hp.1.2⟩, le_min hp.2.1 hq.2.1, (min_le_left ..).trans hp.2.2⟩
  · rw [contains_iff]
    simp only [max, right, bottom, add_sub_cancel]
    exact ⟨⟨hp.1.1.trans (le_max_left ..), max_le hp.1.2 hq.1.2⟩, hp.2.1.trans (le_max_left ..), max_le hp.2.2 hq.2.2⟩

/-- A rectangle stretched over the full height of the viewport. -/
theorem LiesIn.stretched {r : Rect Rat} (h : r.LiesIn v) (hheight : 0 ≤ v.height) :
    Rect.LiesIn { r with y := v.y, height := v.height } v := by
  have hfirst := contains_iff.1 h.first
  have hlast := contains_iff.1 h.last
  have hbottom : v.y ≤ v.bottom := le_add_of_nonneg_right hheight
  exact ⟨h.width, hheight, contains_iff.2 ⟨hfirst.1, le_rfl, hbottom⟩, contains_iff.2 ⟨hlast.1, hbottom, le_rfl⟩⟩

theorem liesIn_point (hp : v.contains p = true) : Rect.LiesIn ⟨p.x, p.y, 0, 0⟩ v := by
  refine ⟨le_rfl, le_rfl, hp, ?_⟩
  rw [contains_iff] at hp ⊢
  simp only [max, right, bottom, add_zero]
  exact hp

end Rect

end ChartGestures
