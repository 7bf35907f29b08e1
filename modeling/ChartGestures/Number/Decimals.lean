/-!
# Decimal numbers

Ranges can hold decimal numbers, of a format that this library leaves open. `Decimals α` is what it takes of that
format: its comparisons, the values that stand out, and the ways from and to the numbers of `α`. The laws say of a
comparison what any order and any equality of numbers satisfies, and nothing else is ever used about the format.
-/

namespace ChartGestures

class Decimals (α : Type) where
  Value : Type
  lt : Value → Value → Bool
  eq : Value → Value → Bool
  isNaN : Value → Bool
  isInfinite : Value → Bool
  nan : Value
  one : Value
  neg : Value → Value
  lowest : Value
  highest : Value
  leastPositive : Value
  /-- `none` if there is no such number. -/
  toScalar? : Value → Option α
  /-- `none` if there is no such decimal. -/
  ofScalar? : α → Option Value
  text : Value → String
  lt_irrefl (a : Value) : lt a a = false
  lt_trans {a b c : Value} : lt a b = true → lt b c = true → lt a c = true
  eq_symm {a b : Value} : eq a b = true → eq b a = true
  eq_trans {a b c : Value} : eq a b = true → eq b c = true → eq a c = true
  lowest_le_highest : lt highest lowest = false

end ChartGestures
