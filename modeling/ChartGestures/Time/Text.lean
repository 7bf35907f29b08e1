import ChartGestures.Text.Digits
import ChartGestures.Time.Ticks

/-!
# Text of times

Dates are written in the Gregorian calendar carried back before its introduction, spans as a count of seconds, and the
times of a recording in the largest unit that leaves a whole part.
-/

namespace ChartGestures

/-- The digits of `nanos` nanoseconds after the point, without the zeros at the end. -/
def fractionText (width : Nat) (fraction : Nat) : String :=
  let digits := ((zeroPadded width fraction).toList.reverse.dropWhile (· == '0')).reverse
  if digits.isEmpty then "" else "." ++ String.ofList digits

namespace Date

structure Civil where
  year : Int
  month : Int
  day : Int

/-- Years start in March here, so that the leap day is the last of its year; `400` years are `146097` days. -/
def civil (d : Date) : Civil :=
  let day := d.seconds / 86400 + 719468
  let cycle := day / 146097
  let dayOfCycle := day % 146097
  let yearOfCycle := (dayOfCycle - dayOfCycle / 1460 + dayOfCycle / 36524 - dayOfCycle / 146096) / 365
  let dayOfYear := dayOfCycle - (365 * yearOfCycle + yearOfCycle / 4 - yearOfCycle / 100)
  let monthOfYear := (5 * dayOfYear + 2) / 153
  let month := if monthOfYear < 10 then monthOfYear + 3 else monthOfYear - 9
  { year := yearOfCycle + cycle * 400 + if month ≤ 2 then 1 else 0
    month
    day := dayOfYear - (153 * monthOfYear + 2) / 5 + 1 }

/-- Four digits; a year that needs more, or lies before the year 0, has a sign. -/
def yearText (year : Int) : String :=
  (if year < 0 then "-" else if 9999 < year then "+" else "") ++ zeroPadded 4 year.natAbs

/-- The fraction of the second has the fewest of three, six and nine digits that hold it. -/
def fraction (nanos : Nat) : String :=
  if nanos = 0 then ""
  else if nanos % 1000000 = 0 then "." ++ zeroPadded 3 (nanos / 1000000)
  else if nanos % 1000 = 0 then "." ++ zeroPadded 6 (nanos / 1000)
  else "." ++ zeroPadded 9 nanos

def text (d : Date) : String :=
  let ⟨year, month, day⟩ := d.civil
  let second := (d.seconds % 86400).toNat
  let two := fun (n : Nat) => zeroPadded 2 n
  yearText year ++ "-" ++ two month.toNat ++ "-" ++ two day.toNat ++ " " ++ two (second / 3600) ++ ":"
    ++ two (second / 60 % 60) ++ ":" ++ two (second % 60) ++ fraction d.nanos.toNat ++ " UTC"

end Date

/-- The sign stands in front of the whole span, which is then counted upward. -/
def TimeSpan.text (s : TimeSpan) : String :=
  let total := (s.seconds * nanosPerSecond + s.nanos).natAbs
  if total = 0 then "P0D"
  else
    (if s.seconds < 0 then "-" else "") ++ "PT" ++ toString (total / 1000000000)
      ++ fractionText 9 (total % 1000000000) ++ "S"

/-- `nanos` nanoseconds in seconds, milliseconds, microseconds or nanoseconds, the first with a whole part. -/
def elapsedText (nanos : Nat) : String :=
  if 1000000000 ≤ nanos then toString (nanos / 1000000000) ++ fractionText 9 (nanos % 1000000000) ++ "s"
  else if 1000000 ≤ nanos then toString (nanos / 1000000) ++ fractionText 6 (nanos % 1000000) ++ "ms"
  else if 1000 ≤ nanos then toString (nanos / 1000) ++ fractionText 3 (nanos % 1000) ++ "µs"
  else toString nanos ++ "ns"

end ChartGestures
