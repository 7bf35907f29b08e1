import ChartGestures.Number.Exact
import Mathlib.Algebra.Order.Field.Rat
import Mathlib.Algebra.Order.Group.Unbundled.Abs

/-!
# Choosing between exact numbers

Among exact numbers every one is a number, so that what is chosen between two of them is their maximum, their minimum or
an absolute value as the order has it.
-/

namespace ChartGestures

namespace Scalar

theorem larger_eq_max (a b : Rat) : larger a b = max a b := by
  simp [larger, isNaN, max_def]

theorem smaller_eq_min (a b : Rat) : smaller a b = min a b := by
  simp [smaller, isNaN, min_comm a b, min_def]

theorem abs_eq (x : Rat) : abs x = |x| := by
  rw [abs]
  split
  · next hneg => rw [abs_of_nonpos hneg, zero_sub]
  · next hpos => rw [abs_of_nonneg (not_le.1 hpos).le]

end Scalar

end ChartGestures
