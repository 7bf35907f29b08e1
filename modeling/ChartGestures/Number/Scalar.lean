/-!
# Numbers an axis computes with

Ranges, pixels and angles are computed in one number type `α`. `Scalar α` is what the rest of the library needs of it:
arithmetic in the order it is written, comparisons that may fail for a value that is no number, and the exact rational
value of everything finite. Rounding to whole numbers is defined here once, on that exact value, so it never depends on
how `α` stores a number.
-/

namespace ChartGestures

class Scalar (α : Type) extends Add α, Sub α, Mul α, Div α, Neg α, LT α, LE α, BEq α, OfScientific α where
  literal (n : Nat) : OfNat α n
  decidableLT : DecidableLT α
  decidableLE : DecidableLE α
  /-- The value nearest to an exact rational number. -/
  ofRat : Rat → α
  /-- The exact value; `none` for the infinities and for a value that is no number. -/
  toRat? : α → Option Rat

namespace Scalar

attribute [reducible, instance] literal decidableLT decidableLE

variable {α : Type} [Scalar α]

/-- Only a value that is no number differs from itself. -/
def isNaN (x : α) : Bool := x != x

def isFinite (x : α) : Bool := (toRat? x).isSome

def isInfinite (x : α) : Bool := !isFinite x && !isNaN x

def ofInt (n : Int) : α := ofRat n

/-- The larger of two numbers, and of two equal ones the second, which decides the sign of a zero. A value that is no
number gives way to the other. -/
def larger (a b : α) : α := if isNaN a || a ≤ b then b else a

/-- The smaller of two numbers, and of two equal ones the second, which decides the sign of a zero. A value that is no
number gives way to the other. -/
def smaller (a b : α) : α := if isNaN a || b ≤ a then b else a

/-- Brings `x` between `lo` and `hi`. A program may as well stop at limits that are upside down or no numbers. Here they
have a value too: the lower limit goes first, and one that is no number does not bind. -/
def clamp (x lo hi : α) : α := if x < lo then lo else if hi < x then hi else x

/-- Subtracting from zero also takes the sign off a negative zero. -/
def abs (x : α) : α := if x ≤ 0 then 0 - x else x

/-- The whole number `round` picks for a finite value, brought between `lo` and `hi`. An infinity goes to the limit on
its side, and a value that is no number to zero. -/
def toIntWithin (round : Rat → Int) (lo hi : Int) (x : α) : Int :=
  match toRat? x with
  | some q => max lo (min hi (round q))
  | none => if isNaN x then 0 else if x < 0 then lo else hi

/-- What is left of `x` after taking away whole turns toward zero. A zero remainder has the sign of `x`. -/
def modTurn (turn : Nat) (x : α) : α :=
  match toRat? x with
  | none => x - x
  | some q =>
    let r := q - turn * (Int.tdiv q.num (q.den * turn) : Rat)
    if r = 0 then x * 0 else ofRat r

/-- The remainder of `x` that is not negative; rounding may still bring it up to a whole turn. -/
def wrapTurn (turn : Nat) (x : α) : α :=
  let r := modTurn turn x
  if r < 0 then r + ofInt turn else r

end Scalar

/-- The nearest whole number; a half goes away from zero. -/
def roundHalfAway (q : Rat) : Int := if q < 0 then -(-q + 1 / 2).floor else (q + 1 / 2).floor

/-- The whole number next to `q` on the side of zero. -/
def truncate (q : Rat) : Int := if q < 0 then -(-q).floor else q.floor

/-- The nearest whole number; a half goes to the even neighbour. -/
def roundHalfEven (q : Rat) : Int :=
  let low := q.floor
  let rest := q - low
  if rest < 1 / 2 then low else if 1 / 2 < rest then low + 1 else if low % 2 = 0 then low else low + 1

end ChartGestures
