import ChartGestures.Gesture.Group

/-!
# Linked panes

Panes whose gestures drive each other. Input goes to the pane it happened on as the master, and to every other pane as a
slave when both take part; the controllers decide what a slave follows.
-/

namespace ChartGestures

structure LinkedPane (α κ : Type) [Scalar α] [Decimals α] where
  id : String
  pane : Pane α
  controllers : ControllerGroup κ

structure LinkedPanes (α κ : Type) [Scalar α] [Decimals α] where
  panes : List (LinkedPane α κ)
  /-- Whether a pane takes part, where that was set. -/
  sync : List (String × Bool)

namespace LinkedPane

variable {α κ : Type} [Scalar α] [Decimals α] [GestureController α κ]

def attach (l : LinkedPane α κ) : LinkedPane α κ :=
  let (controllers, pane) := l.controllers.attach l.pane
  { l with controllers, pane }

def detach (l : LinkedPane α κ) : LinkedPane α κ :=
  let (controllers, pane) := l.controllers.detach l.pane
  { l with controllers, pane }

def tick (now : Nat) (l : LinkedPane α κ) : LinkedPane α κ :=
  let (controllers, pane) := l.controllers.tick now l.pane
  { l with controllers, pane }

/-- Gives an event to the pane, and tells whether it was claimed. -/
def dispatchMouse (l : LinkedPane α κ) (kind : MouseEventKind) (args : MouseArgs α) (handled : Bool) :
    LinkedPane α κ × Bool :=
  let (controllers, pane, handled) := l.controllers.dispatchMouse kind args handled l.pane
  ({ l with controllers, pane }, handled)

def dispatchTouch (l : LinkedPane α κ) (action : TouchAction) (args : TouchArgs α) (handled : Bool) :
    LinkedPane α κ × Bool :=
  let (controllers, pane, handled) := l.controllers.dispatchTouch action args handled l.pane
  ({ l with controllers, pane }, handled)

end LinkedPane

namespace LinkedPanes

variable {α κ : Type} [Scalar α] [Decimals α] [GestureController α κ]

def empty : LinkedPanes α κ := ⟨[], []⟩

/-- Adds a pane and attaches its controllers. -/
def add (l : LinkedPanes α κ) (id : String) (pane : Pane α) (controllers : ControllerGroup κ) : LinkedPanes α κ :=
  { l with panes := l.panes ++ [LinkedPane.attach ⟨id, pane, controllers⟩] }

/-- Takes out the first pane of the id, with its controllers detached. -/
def remove (l : LinkedPanes α κ) (id : String) : Option (LinkedPane α κ) × LinkedPanes α κ :=
  match l.panes.findIdx? (·.id == id) with
  | none => (none, l)
  | some index =>
    (l.panes[index]?.map LinkedPane.detach,
      { panes := l.panes.eraseIdx index, sync := l.sync.filter fun entry => entry.1 ≠ id })

def pane? (l : LinkedPanes α κ) (id : String) : Option (LinkedPane α κ) := l.panes.find? (·.id == id)

/-- Changes the first pane of the id. -/
def updatePane (id : String) (f : LinkedPane α κ → LinkedPane α κ) : List (LinkedPane α κ) → List (LinkedPane α κ)
  | [] => []
  | pane :: rest => if pane.id == id then f pane :: rest else pane :: updatePane id f rest

def setSync (l : LinkedPanes α κ) (id : String) (sync : Bool) : LinkedPanes α κ :=
  { l with sync := (id, sync) :: l.sync.filter fun entry => entry.1 ≠ id }

/-- A pane takes part unless it was told otherwise. -/
def shouldSync (l : LinkedPanes α κ) (id : String) : Bool := (l.sync.lookup id).getD true

/-- Whether an event on `origin` reaches a pane as its master, as a slave, or not at all. -/
def role (l : LinkedPanes α κ) (origin : String) (pane : LinkedPane α κ) : Option Bool :=
  if pane.id == origin then some true
  else if l.shouldSync origin && l.shouldSync pane.id then some false
  else none

/-- Gives an event to every pane it reaches, and tells whether any of them claimed it. -/
def dispatch (give : Bool → LinkedPane α κ → LinkedPane α κ × Bool) (l : LinkedPanes α κ) (origin : String) :
    LinkedPanes α κ × Bool :=
  let results := l.panes.map fun pane =>
    match l.role origin pane with
    | some isMaster => give isMaster pane
    | none => (pane, false)
  ({ l with panes := results.map (·.1) }, results.any (·.2))

def dispatchMouse (l : LinkedPanes α κ) (origin : String) (kind : MouseEventKind) (args : MouseArgs α)
    (handled : Bool) : LinkedPanes α κ × Bool :=
  dispatch (fun isMaster pane => pane.dispatchMouse kind { args with isMaster } handled) l origin

def dispatchTouch (l : LinkedPanes α κ) (origin : String) (action : TouchAction) (args : TouchArgs α)
    (handled : Bool) : LinkedPanes α κ × Bool :=
  dispatch (fun isMaster pane => pane.dispatchTouch action { args with isMaster } handled) l origin

def tick (l : LinkedPanes α κ) (now : Nat) : LinkedPanes α κ := { l with panes := l.panes.map (·.tick now) }

def isTimerActive (l : LinkedPanes α κ) : Bool := l.panes.any fun pane => pane.controllers.isTimerActive α

def attachAll (l : LinkedPanes α κ) : LinkedPanes α κ := { l with panes := l.panes.map LinkedPane.attach }

def detachAll (l : LinkedPanes α κ) : LinkedPanes α κ := { l with panes := l.panes.map LinkedPane.detach }

end LinkedPanes

end ChartGestures
