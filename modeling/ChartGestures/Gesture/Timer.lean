import ChartGestures.Input.Events

/-!
# Timers

A timer that ticks at a fixed interval whenever it is asked. It never runs by itself: whoever owns the event loop
polls it between events. A poll hands out at most eight ticks, and a backlog beyond them is dropped.
-/

namespace ChartGestures

def minInterval : Nat := nanosPerMilli

def maxCatchUp : Nat := 8

structure IntervalTimer where
  interval : Nat
  nextDue : Option Nat
  deriving DecidableEq

namespace IntervalTimer

def new (interval : Nat) : IntervalTimer := ⟨max interval minInterval, none⟩

/-- The first tick is due one interval from `now`. -/
def start (t : IntervalTimer) (now : Nat) : IntervalTimer := { t with nextDue := some (now + t.interval) }

def stop (t : IntervalTimer) : IntervalTimer := { t with nextDue := none }

def isRunning (t : IntervalTimer) : Bool := t.nextDue.isSome

/-- The ticks due up to `now`, at most `room` of them, and when the next is due. -/
def catchUp (interval : Nat) (now : Nat) : Nat → Nat → Nat × Nat
  | 0, due => (0, due)
  | room + 1, due =>
    if due ≤ now then
      let (ticks, due) := catchUp interval now room (due + interval)
      (ticks + 1, due)
    else (0, due)

/-- How many ticks elapsed up to `now`. -/
def poll (t : IntervalTimer) (now : Nat) : Nat × IntervalTimer :=
  match t.nextDue with
  | none => (0, t)
  | some due =>
    let (ticks, due) := catchUp t.interval now maxCatchUp due
    (ticks, { t with nextDue := some (if due ≤ now then now + t.interval else due) })

end IntervalTimer

end ChartGestures
