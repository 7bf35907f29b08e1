import ChartGestures.Gesture.Reaction

/-!
# Groups of controllers

The controllers of one pane, asked in the order they were added. One that claims an event hides it from those after
it, unless they want claimed events as well. A lone touch also passes for the left mouse button, and a second finger
ends the gesture it started.
-/

namespace ChartGestures

structure ControllerGroup (κ : Type) where
  controllers : List κ
  /-- The fingers on the screen. -/
  activeTouches : List Nat
  /-- The finger that passes for the mouse. -/
  promotedTouch : Option Nat
  attached : Bool

namespace ControllerGroup

variable {α κ : Type} [Scalar α] [Decimals α] [GestureController α κ]

open GestureController

def ofList (controllers : List κ) : ControllerGroup κ := ⟨controllers, [], none, false⟩

/-- A controller added to an attached group is not attached by that. -/
def add (g : ControllerGroup κ) (c : κ) : ControllerGroup κ := { g with controllers := g.controllers ++ [c] }

/-- Lets each controller act on the pane in turn. -/
def each (f : κ → Pane α → κ × Pane α) : List κ → Pane α → List κ × Pane α
  | [], p => ([], p)
  | c :: rest, p =>
    let (c, p) := f c p
    let (rest, p) := each f rest p
    (c :: rest, p)

/-- Offers an event to each controller in turn, and tells whether it was claimed. -/
def offer (react : κ → Pane α → Reaction α κ) : List κ → Pane α → Bool → List κ × Pane α × Bool
  | [], p, handled => ([], p, handled)
  | c :: rest, p, handled =>
    if !isEnabled α c || handled && !receivesHandled α c then
      let (rest, p, handled) := offer react rest p handled
      (c :: rest, p, handled)
    else
      let r := react c p
      let (rest, p, handled) := offer react rest r.pane (handled || r.handled)
      (r.controller :: rest, p, handled)

def forEach (g : ControllerGroup κ) (f : κ → Pane α → κ × Pane α) (p : Pane α) : ControllerGroup κ × Pane α :=
  let (controllers, p) := each f g.controllers p
  ({ g with controllers }, p)

/-! ### Coming and going -/

def attach (g : ControllerGroup κ) (p : Pane α) : ControllerGroup κ × Pane α :=
  if g.attached then (g, p)
  else
    let (g, p) := g.forEach GestureController.attached p
    ({ g with attached := true }, p)

def detach (g : ControllerGroup κ) (p : Pane α) : ControllerGroup κ × Pane α :=
  if !g.attached then (g, p)
  else
    let (g, p) := g.forEach detached p
    ({ g with attached := false, activeTouches := [], promotedTouch := none }, p)

/-- Takes out the first controller of the id, detaching it if the group is attached. -/
def remove (g : ControllerGroup κ) (id : OwnerId) (p : Pane α) : Option κ × ControllerGroup κ × Pane α :=
  match g.controllers.findIdx? fun c => GestureController.id α c == id with
  | none => (none, g, p)
  | some index =>
    let g' := { g with controllers := g.controllers.eraseIdx index }
    match g.controllers[index]? with
    | none => (none, g', p)
    | some c =>
      if g.attached then
        let (c, p) := detached c p
        (some c, g', p)
      else (some c, g', p)

/-! ### Input -/

def dispatchMouse (g : ControllerGroup κ) (kind : MouseEventKind) (args : MouseArgs α) (handled : Bool)
    (p : Pane α) : ControllerGroup κ × Pane α × Bool :=
  let (controllers, p, handled) := offer (fun c => mouse kind c args) g.controllers p handled
  ({ g with controllers }, p, handled)

def lostCapture (g : ControllerGroup κ) (p : Pane α) : ControllerGroup κ × Pane α :=
  g.forEach GestureController.lostCapture p

/-- What a finger does as the mouse. -/
inductive Promotion where
  | none
  | mouse (kind : MouseEventKind)
  /-- A second finger came. -/
  | lostCapture

/-- Follows one finger. -/
def follow {α κ : Type} (g : ControllerGroup κ) (m : Manipulator α) : ControllerGroup κ × Promotion :=
  let others := g.activeTouches.filter (· ≠ m.id)
  match m.action with
  | .down =>
    let g := { g with activeTouches := others ++ [m.id] }
    if others.isEmpty then ({ g with promotedTouch := some m.id }, .mouse .down)
    else ({ g with promotedTouch := none }, if g.promotedTouch.isSome then .lostCapture else .none)
  | .move => (g, if g.promotedTouch = some m.id then .mouse .move else .none)
  | .up =>
    let g := { g with activeTouches := others }
    if g.promotedTouch = some m.id then ({ g with promotedTouch := none }, .mouse .up) else (g, .none)

/-- The left button at the finger. -/
def promotedArgs (args : TouchArgs α) (m : Manipulator α) : MouseArgs α :=
  { MouseArgs.new m.position .onlyLeft args.time with isMaster := args.isMaster, source := .touch }

def promote (args : TouchArgs α) : List (Manipulator α) → ControllerGroup κ → Pane α → ControllerGroup κ × Pane α
  | [], g, p => (g, p)
  | m :: rest, g, p =>
    let (g, promotion) := g.follow m
    let (g, p) :=
      match promotion with
      | .none => (g, p)
      | .lostCapture => g.lostCapture p
      | .mouse kind =>
        let (g, p, _) := g.dispatchMouse kind (promotedArgs args m) false p
        (g, p)
    promote args rest g p

/-- A touch event goes to the controllers first and then passes for the mouse, whether it was claimed or not. -/
def dispatchTouch (g : ControllerGroup κ) (action : TouchAction) (args : TouchArgs α) (handled : Bool)
    (p : Pane α) : ControllerGroup κ × Pane α × Bool :=
  let (controllers, p, handled) := offer (fun c => touch action c args) g.controllers p handled
  let (g, p) := promote args args.manipulators { g with controllers } p
  (g, p, handled)

/-! ### Timers -/

def tick (g : ControllerGroup κ) (now : Nat) (p : Pane α) : ControllerGroup κ × Pane α :=
  g.forEach (fun c p => if isTimerActive α c then GestureController.tick now c p else (c, p)) p

def isTimerActive (α : Type) [Scalar α] [Decimals α] [GestureController α κ] (g : ControllerGroup κ) : Bool :=
  g.controllers.any (GestureController.isTimerActive α)

end ControllerGroup

end ChartGestures
