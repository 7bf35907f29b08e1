import ChartGestures.Number.Binary
import ChartGestures.Number.Decimals
import ChartGestures.Number.Exact
import ChartGestures.Text.Digits

/-!
# Exact decimals

One format of decimal numbers, with which the program runs: fractions that are held exactly, however many digits they
have. Besides the two infinities and a value that is no number there is a zero with a minus sign, which counts as less
than zero. A format whose numbers have only so many digits agrees with it as long as nothing has to be rounded.
-/

namespace ChartGestures

inductive ExactDecimal where
  | notANumber
  | infinite (negative : Bool)
  | negativeZero
  | finite (value : Rat)
  deriving DecidableEq

namespace ExactDecimal

/-- The largest number of 128 bits with the largest exponent. -/
def largest : Nat := (Nat.pow 2 128 - 1) * Nat.pow 10 32768

def highest : ExactDecimal := .finite largest

def lowest : ExactDecimal := .finite (-largest : Int)

/-- A one in the last place, with the smallest exponent. -/
def leastPositive : ExactDecimal := .finite (mkRat 1 (Nat.pow 10 32768))

def neg : ExactDecimal → ExactDecimal
  | .notANumber => .notANumber
  | .infinite negative => .infinite !negative
  | .negativeZero => .finite 0
  | .finite q => if q = 0 then .negativeZero else .finite (-q)

def isInfinite : ExactDecimal → Bool
  | .infinite _ => true
  | _ => false

def eq : ExactDecimal → ExactDecimal → Bool
  | .notANumber, _ => false
  | a, b => a == b

def lt : ExactDecimal → ExactDecimal → Bool
  | .notANumber, _ | _, .notANumber => false
  | .infinite a, .infinite b => a && !b
  | .infinite a, _ => a
  | _, .infinite b => !b
  | .negativeZero, .negativeZero => false
  | .negativeZero, .finite b => 0 ≤ b
  | .finite a, .negativeZero => a < 0
  | .finite a, .finite b => a < b

theorem lt_irrefl (a : ExactDecimal) : lt a a = false := by
  cases a <;> simp [lt]

theorem lt_trans {a b c : ExactDecimal} (hab : lt a b = true) (hbc : lt b c = true) : lt a c = true := by
  cases a <;> cases b <;> cases c <;> simp [lt] at hab hbc ⊢ <;> grind

theorem eq_of_eq {a b : ExactDecimal} (h : eq a b = true) : a = b := by
  cases a with
  | notANumber => cases h
  | infinite _ | negativeZero | finite _ => exact eq_of_beq h

variable {α : Type} [Scalar α]

open Scalar

def ofScalar (x : α) : ExactDecimal :=
  match toRat? x with
  | none => if isNaN x then .notANumber else .infinite (x < 0)
  | some q => if q = 0 ∧ 1 / x < 0 then .negativeZero else .finite q

def toScalar : ExactDecimal → α
  | .notANumber => 0 / 0
  | .infinite true => -1 / 0
  | .infinite false => 1 / 0
  | .negativeZero => -0
  | .finite q => ofRat q

/-- Places after the point that hold a fraction with the denominator `den`, at most `fuel`. -/
def placesFor (den : Nat) : Nat → Nat → Nat
  | 0, places => places
  | fuel + 1, places => if Nat.pow 10 places % den = 0 then places else placesFor den fuel (places + 1)

/-- Written out in full while the digits fit 128 bits; a longer whole number has an exponent. -/
def magnitudeText (q : Rat) : String :=
  if q.den = 1 then
    if q.num.natAbs < Nat.pow 2 128 then toString q.num.natAbs
    else
      let d := Digits.trim ⟨q.num.natAbs, 0⟩
      toString d.coefficient ++ "e+" ++ toString d.exponent
  else
    let places := placesFor q.den q.den.log2 0
    (Digits.mk (q.num.natAbs * Nat.pow 10 places / q.den) (-places)).positional

def text : ExactDecimal → String
  | .notANumber => "NaN"
  | .infinite negative => if negative then "-Inf" else "Inf"
  | .negativeZero => "-0"
  | .finite q => (if q < 0 then "-" else "") ++ magnitudeText q

/-- Exact decimals, from and to the numbers of `α`. -/
@[reducible] def decimals (α : Type) [Scalar α] : Decimals α where
  Value := ExactDecimal
  lt := lt
  eq := eq
  isNaN a := a == .notANumber
  isInfinite := isInfinite
  nan := .notANumber
  one := .finite 1
  neg := neg
  lowest := lowest
  highest := highest
  leastPositive := leastPositive
  toScalar? a := some a.toScalar
  ofScalar? x := some (ofScalar x)
  text := text
  lt_irrefl := lt_irrefl
  lt_trans := lt_trans
  eq_symm h := eq_of_eq h ▸ h
  eq_trans hab hbc := eq_of_eq hab ▸ hbc
  lowest_le_highest := by decide +kernel

instance : Decimals Float := decimals Float

instance : Decimals Rat := decimals Rat

end ExactDecimal

end ChartGestures
