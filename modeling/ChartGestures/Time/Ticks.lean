/-!
# Ticks

Dates and time spans are kept as whole seconds and nanoseconds, and range arithmetic counts them in ticks of 100 ns. A
date counts from the start of 1970, and seconds round down, so the nanoseconds of either are never negative. The
constructors refuse what a calendar or a clock cannot hold; no 64-bit tick count gets that far.
-/

namespace ChartGestures

def ticksPerSecond : Int := 10000000

def ticksPerDay : Int := 86400 * ticksPerSecond

def nanosPerTick : Int := 100

def nanosPerSecond : Int := 1000000000

/-- The start of the year 1. -/
def minDateTicks : Int := -621355968000000000

/-- The last tick a date range reaches. -/
def maxDateTicks : Int := 2534023007999999999

/-- Stops at the ends of a 64-bit word. -/
def saturate64 (n : Int) : Int := max Int64.minValue.toInt (min Int64.maxValue.toInt n)

/-- The nanoseconds that ticks have past their whole seconds, as long as a 32-bit word holds them. -/
def tickNanos? (ticks : Int) : Option Int :=
  let nanos := ticks % ticksPerSecond * nanosPerTick
  if 0 ≤ nanos ∧ nanos < 4294967296 then some nanos else none

/-- A moment, counted from the start of 1970. -/
structure Date where
  seconds : Int
  nanos : Int
  deriving BEq, DecidableEq

namespace Date

def epoch : Date := ⟨0, 0⟩

/-- The calendar holds 262143 years on either side of the year 0. -/
def ofParts? (seconds nanos : Int) : Option Date :=
  if -8334601228800 ≤ seconds ∧ seconds ≤ 8210266876799 ∧ 0 ≤ nanos ∧ nanos < nanosPerSecond then
    some ⟨seconds, nanos⟩
  else none

def ofTicks (ticks : Int) : Date :=
  (ofParts? (ticks / ticksPerSecond) ((tickNanos? ticks).getD 0)).getD epoch

def toTicks (d : Date) : Int :=
  saturate64 (saturate64 (d.seconds * ticksPerSecond) + Int.tdiv d.nanos nanosPerTick)

def lt (a b : Date) : Bool := a.seconds < b.seconds || a.seconds == b.seconds && a.nanos < b.nanos

end Date

/-- A length of time, which may be negative. -/
structure TimeSpan where
  seconds : Int
  nanos : Int
  deriving BEq, DecidableEq

namespace TimeSpan

def zero : TimeSpan := ⟨0, 0⟩

/-- A span holds as many milliseconds as a 64-bit word counts on either side of zero. -/
def ofParts? (seconds nanos : Int) : Option TimeSpan :=
  let millis := 9223372036854775807
  let total := seconds * nanosPerSecond + nanos
  if 0 ≤ nanos ∧ nanos < nanosPerSecond ∧ -(millis * 1000000) ≤ total ∧ total ≤ millis * 1000000 then
    some ⟨seconds, nanos⟩
  else none

def ofTicks (ticks : Int) : TimeSpan :=
  (ofParts? (ticks / ticksPerSecond) ((tickNanos? ticks).getD 0)).getD zero

/-- Whole seconds, rounded toward zero. -/
def wholeSeconds (s : TimeSpan) : Int := if s.seconds < 0 ∧ 0 < s.nanos then s.seconds + 1 else s.seconds

/-- What the whole seconds leave, with the sign of the span. -/
def subsecondNanos (s : TimeSpan) : Int :=
  if s.seconds < 0 ∧ 0 < s.nanos then s.nanos - nanosPerSecond else s.nanos

def toTicks (s : TimeSpan) : Int :=
  saturate64 (saturate64 (s.wholeSeconds * ticksPerSecond) + Int.tdiv s.subsecondNanos nanosPerTick)

def lt (a b : TimeSpan) : Bool := a.seconds < b.seconds || a.seconds == b.seconds && a.nanos < b.nanos

end TimeSpan

end ChartGestures
