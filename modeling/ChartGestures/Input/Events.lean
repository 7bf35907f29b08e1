import ChartGestures.Geometry.Point

/-!
# Input events

What happens at the pointer and on the touch screen, and which buttons start a gesture. Times are nanoseconds from a
common start.
-/

namespace ChartGestures

def nanosPerMilli : Nat := 1000000

/-! ### Buttons -/

structure MouseButtons where
  left : Bool
  middle : Bool
  right : Bool
  deriving DecidableEq

namespace MouseButtons

def none : MouseButtons := ⟨false, false, false⟩

def onlyLeft : MouseButtons := ⟨true, false, false⟩

def onlyMiddle : MouseButtons := ⟨false, true, false⟩

def onlyRight : MouseButtons := ⟨false, false, true⟩

def isEmpty (b : MouseButtons) : Bool := !b.left && !b.middle && !b.right

end MouseButtons

inductive Trigger where
  | leftButton
  | middleButton
  | rightButton
  /-- No button is pressed. -/
  | move
  deriving BEq, DecidableEq

namespace Trigger

def all : List Trigger := [leftButton, middleButton, rightButton, move]

/-- The trigger a combination of buttons stands for; several at once stand for none. -/
def ofButtons (b : MouseButtons) : Option Trigger :=
  match b.left, b.middle, b.right with
  | true, false, false => some leftButton
  | false, true, false => some middleButton
  | false, false, true => some rightButton
  | false, false, false => some move
  | _, _, _ => none

def accepts (t : Trigger) (b : MouseButtons) : Bool := ofButtons b == some t

end Trigger

/-! ### Mouse events -/

inductive MouseEventKind where
  | down
  | move
  | up
  | wheel
  | doubleClick
  deriving BEq, DecidableEq

inductive InputSource where
  | mouse
  /-- A single touch that passes for the left button. -/
  | touch
  deriving BEq, DecidableEq

structure KeyModifiers where
  shift : Bool
  ctrl : Bool
  alt : Bool

structure MouseArgs (α : Type) where
  point : Point α
  buttons : MouseButtons
  modifiers : KeyModifiers
  /-- 120 for each notch of the wheel. -/
  wheelDelta : α
  /-- Whether the pane is the one the gesture happened on. -/
  isMaster : Bool
  source : InputSource
  time : Nat

/-- A mouse event without modifiers on the pane it happened on. -/
def MouseArgs.new {α : Type} [Scalar α] (point : Point α) (buttons : MouseButtons) (time : Nat) : MouseArgs α where
  point := point
  buttons := buttons
  modifiers := ⟨false, false, false⟩
  wheelDelta := 0
  isMaster := true
  source := .mouse
  time := time

/-! ### Touch events -/

inductive TouchAction where
  | down
  | move
  | up
  deriving BEq, DecidableEq

/-- One touch point. -/
structure Manipulator (α : Type) where
  id : Nat
  position : Point α
  action : TouchAction

structure TouchArgs (α : Type) where
  manipulators : List (Manipulator α)
  isMaster : Bool
  time : Nat

end ChartGestures
