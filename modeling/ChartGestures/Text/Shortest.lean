import ChartGestures.Number.Binary
import ChartGestures.Text.Digits

/-!
# Text of binary numbers

A number is written with the fewest digits that read back to it, the nearest such digits when there are several; when
two are equally near, a rule decides. The search is exact: the reals that round to a number form an interval, and the
first decimal grid with a point in that interval has one next to the number itself. The other form has a fixed count
of decimals, cut from the exact value.
-/

namespace ChartGestures

/-- A positive number `value / scale` with the interval from `low / scale` to `high / scale` of the reals that round to
it. The ends belong to it when `closed`. -/
structure RoundingInterval where
  value : Nat
  low : Nat
  high : Nat
  scale : Nat
  closed : Bool

/-- Which of two equally near digits is taken. -/
inductive TieRule where
  | upper
  | even
  deriving DecidableEq

namespace RoundingInterval

/-- Where the first digit stands: the number lies between `10 ^ (order - 1)` and `10 ^ order`. -/
def order (i : RoundingInterval) : Int :=
  if i.scale ≤ i.value then (Nat.toDigits 10 (i.value / i.scale)).length
  else go i.scale.log2 0 i.value
where
  go : Nat → Nat → Nat → Int
    | 0, j, _ => 1 - j
    | fuel + 1, j, scaled => if i.scale ≤ scaled then 1 - j else go fuel (j + 1) (10 * scaled)

/-- The point of the grid of `n` digits that rounds to the number, if there is one, the nearer of two. -/
def onGrid? (i : RoundingInterval) (tie : TieRule) (order : Int) (n : Nat) : Option Digits :=
  let k := order - n
  let up := Nat.pow 10 (-k).toNat
  let unit := i.scale * Nat.pow 10 k.toNat
  let value := i.value * up
  let inside (c : Nat) : Bool :=
    if i.closed then i.low * up ≤ c * unit && c * unit ≤ i.high * up
    else i.low * up < c * unit && c * unit < i.high * up
  let below := value / unit
  let lower := inside below
  let upper := inside (below + 1)
  let middle := (2 * below + 1) * unit
  let lowerIsNearer := 2 * value < middle || 2 * value == middle && tie = .even && below % 2 == 0
  if lower && (!upper || lowerIsNearer) then some ⟨below, k⟩
  else if upper then some ⟨below + 1, k⟩
  else none

def shortest (i : RoundingInterval) (tie : TieRule) : Digits :=
  let order := i.order
  (((List.range 17).findSome? fun n => i.onGrid? tie order (n + 1)).getD ⟨0, 0⟩).trim

end RoundingInterval

namespace BinaryFormat

/-- The reals that round to the positive number `q` of the format. Below a power of two the next number is half as far
away as above it. -/
def roundingInterval (format : BinaryFormat) (q : Rat) : RoundingInterval :=
  let e := format.gridExponent q
  let m := (q / dyadic 1 e).floor.toNat
  let narrow := m = Nat.pow 2 (format.precision - 1) ∧ format.leastExponent < e
  let up := Nat.pow 2 (e - 2).toNat
  { value := 4 * m * up
    low := (4 * m - if narrow then 1 else 2) * up
    high := (4 * m + 2) * up
    scale := Nat.pow 2 (2 - e).toNat
    closed := m % 2 = 0 }

def shortest (format : BinaryFormat) (tie : TieRule) (q : Rat) : Digits := (format.roundingInterval q).shortest tie

end BinaryFormat

namespace Binary

/-- Text of a number: sign, then the magnitude as `magnitude` writes it. -/
def textWith (magnitude : Rat → String) (zero : String) (x : Float) : String :=
  match x.toModel.unpack with
  | .notANumber => "NaN"
  | .infinity .positive => "inf"
  | .infinity .negative => "-inf"
  | .zero .positive => zero
  | .zero .negative => "-" ++ zero
  | .finite .positive m e _ => magnitude (dyadic m e)
  | .finite .negative m e _ => "-" ++ magnitude (dyadic m e)

/-- The fewest digits that read back in `format`, always positional. -/
def text (format : BinaryFormat) (x : Float) : String :=
  textWith (fun q => (format.shortest .upper q).positional) "0" x

/-- `places` decimals of the exact value, a half going to the even neighbour; a zero has no sign. -/
def fixedText (places : Nat) (x : Float) : String :=
  match value? x with
  | none => text .double x
  | some q =>
    let scaled := roundHalfEven ((if q < 0 then -q else q) * 10 ^ places)
    let digits := zeroPadded (places + 1) scaled.toNat
    let whole := digits.length - places
    (if q < 0 ∧ scaled ≠ 0 then "-" else "")
      ++ (digits.take whole).toString ++ "." ++ (digits.drop whole).toString

end Binary

end ChartGestures
