/-!
# Decimal digits

A positive decimal number as its digits and a power of ten, and the ways it is written out.
-/

namespace ChartGestures

/-- The number `coefficient * 10 ^ exponent`. -/
structure Digits where
  coefficient : Nat
  exponent : Int
  deriving BEq, DecidableEq

namespace Digits

/-- Takes `n` trailing zeros off the coefficient if there are that many. -/
def strip (d : Digits) (n : Nat) : Digits :=
  if d.coefficient % Nat.pow 10 n = 0 then ⟨d.coefficient / Nat.pow 10 n, d.exponent + n⟩ else d

/-- Takes all trailing zeros off, if they are less than `2 ^ n`: first half of that many, then half of the rest. -/
def trimBelow : Nat → Digits → Digits
  | 0, d => d
  | n + 1, d => trimBelow n (d.strip (Nat.pow 2 n))

/-- Takes the trailing zeros off a coefficient, which has less of them than bits. -/
def trim (d : Digits) : Digits := if d.coefficient = 0 then d else d.trimBelow (d.coefficient.log2.log2 + 1)

/-- Digits before the decimal point; zero or less when the number starts after it. -/
def pointPosition (d : Digits) : Int := (Nat.toDigits 10 d.coefficient).length + d.exponent

def zeros (n : Nat) : String := String.ofList (List.replicate n '0')

/-- Written with every digit in place and never with an exponent. -/
def positional (d : Digits) : String :=
  let digits := Nat.toDigits 10 d.coefficient
  if 0 ≤ d.exponent then String.ofList digits ++ zeros d.exponent.toNat
  else if 0 < d.pointPosition then
    let (whole, fraction) := digits.splitAt d.pointPosition.toNat
    String.ofList whole ++ "." ++ String.ofList fraction
  else "0." ++ zeros (-d.pointPosition).toNat ++ String.ofList digits

end Digits

/-- `n` in at least `width` digits. -/
def zeroPadded (width n : Nat) : String :=
  let digits := Nat.toDigits 10 n
  String.ofList (List.replicate (width - digits.length) '0' ++ digits)

end ChartGestures
