import ChartGestures.Number.Scalar

/-!
# Binary floating point

`Float` as a number type: every finite value is `± m * 2 ^ e`, so it has an exact rational value, and a rational
number has a nearest `Float`. The grid of a narrower format is described by its precision and its least exponent;
rounding to it is done on exact values.
-/

namespace ChartGestures

open Float.Model

/-- `m * 2 ^ e`. -/
def dyadic (m e : Int) : Rat := if 0 ≤ e then (m * Nat.pow 2 e.toNat : Int) else mkRat m (Nat.pow 2 (-e).toNat)

/-- A binary format holds the numbers `m * 2 ^ e` with `m < 2 ^ precision` and `leastExponent ≤ e`. -/
structure BinaryFormat where
  precision : Nat
  leastExponent : Int

namespace BinaryFormat

def double : BinaryFormat := ⟨53, -1074⟩

def single : BinaryFormat := ⟨24, -149⟩

/-- The exponent of the grid on which the positive number `q` is rounded. -/
def gridExponent (format : BinaryFormat) (q : Rat) : Int :=
  let guess := (q.num.natAbs.log2 : Int) - q.den.log2
  let log := if q < dyadic 1 guess then guess - 1 else guess
  max format.leastExponent (log + 1 - format.precision)

/-- The number of the format's grid nearest to `q`; a half goes to the even mantissa. -/
def nearest (format : BinaryFormat) (q : Rat) : Rat :=
  if q = 0 then 0
  else
    let e := format.gridExponent (if q < 0 then -q else q)
    dyadic (roundHalfEven (q / dyadic 1 e)) e

end BinaryFormat

namespace Binary

/-- The exact value of a finite number. -/
def value? (x : Float) : Option Rat :=
  match x.toModel.unpack with
  | .finite sign m e _ => some (dyadic (sign.apply m) e)
  | .zero _ => some 0
  | .infinity _ => none
  | .notANumber => none

/-- The number nearest to `q`, as the correctly rounded quotient of two whole numbers. A magnitude from `2 ^ 1024` on is
infinite. -/
def nearestTo (q : Rat) : Float :=
  if h : q.num = 0 then 0
  else if Nat.pow 2 1024 * q.den ≤ q.num.natAbs then if q.num < 0 then -1 / 0 else 1 / 0
  else
    .ofModel (pack (UnpackedFloat.div Format.binary64
      (.finite (if q.num < 0 then .negative else .positive) q.num.natAbs 0 (by omega))
      (.finite .positive q.den 0 q.den_pos)))

/-- The nearest number of single precision. A magnitude from `2 ^ 128` on is infinite in that format. -/
def roundSingle (x : Float) : Float :=
  match value? x with
  | none => x
  | some q =>
    let r := BinaryFormat.single.nearest q
    if r = 0 then x * 0 else if dyadic 1 128 ≤ r then 1 / 0 else if r ≤ dyadic (-1) 128 then -1 / 0 else nearestTo r

end Binary

instance : Scalar Float where
  literal n := inferInstanceAs (OfNat Float n)
  decidableLT := inferInstance
  decidableLE := inferInstance
  ofRat := Binary.nearestTo
  toRat? := Binary.value?

end ChartGestures
