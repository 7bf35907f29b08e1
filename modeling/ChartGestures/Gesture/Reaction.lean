import ChartGestures.Gesture.Config

/-!
# Reactions

What a gesture controller has to offer a group of controllers on a pane. Each callback takes the controller and the pane
and gives both back changed; a callback for input also says whether the controller claims the event, which hides it from
the controllers after it.
-/

namespace ChartGestures

structure Reaction (α : Type) [Scalar α] [Decimals α] (κ : Type) where
  controller : κ
  pane : Pane α
  handled : Bool

namespace Reaction

variable {α : Type} [Scalar α] [Decimals α] {κ μ : Type}

/-- Nothing happens, and the event goes on. -/
def ignore (c : κ) (p : Pane α) : Reaction α κ := ⟨c, p, false⟩

def map (f : κ → μ) (r : Reaction α κ) : Reaction α μ := ⟨f r.controller, r.pane, r.handled⟩

end Reaction

class GestureController (α : Type) [Scalar α] [Decimals α] (κ : Type) where
  id : κ → OwnerId
  name : κ → String
  isEnabled : κ → Bool
  /-- Whether events that an earlier controller claimed still reach this one. -/
  receivesHandled : κ → Bool
  attached : κ → Pane α → κ × Pane α
  /-- Stops timers and gives up all that the controller holds of the pane. -/
  detached : κ → Pane α → κ × Pane α
  mouse : MouseEventKind → κ → MouseArgs α → Pane α → Reaction α κ
  touch : TouchAction → κ → TouchArgs α → Pane α → Reaction α κ
  /-- The pointer was taken away before its release. -/
  lostCapture : κ → Pane α → κ × Pane α
  tick : Nat → κ → Pane α → κ × Pane α
  isTimerActive : κ → Bool

/-- A group may hold controllers of two types. -/
instance {α κ μ : Type} [Scalar α] [Decimals α] [GestureController α κ] [GestureController α μ] :
    GestureController α (κ ⊕ μ) where
  id := Sum.elim (GestureController.id α) (GestureController.id α)
  name := Sum.elim (GestureController.name α) (GestureController.name α)
  isEnabled := Sum.elim (GestureController.isEnabled α) (GestureController.isEnabled α)
  receivesHandled := Sum.elim (GestureController.receivesHandled α) (GestureController.receivesHandled α)
  attached
    | .inl c, p => (GestureController.attached c p).map .inl fun p => p
    | .inr c, p => (GestureController.attached c p).map .inr fun p => p
  detached
    | .inl c, p => (GestureController.detached c p).map .inl fun p => p
    | .inr c, p => (GestureController.detached c p).map .inr fun p => p
  mouse
    | kind, .inl c, args, p => (GestureController.mouse kind c args p).map .inl
    | kind, .inr c, args, p => (GestureController.mouse kind c args p).map .inr
  touch
    | action, .inl c, args, p => (GestureController.touch action c args p).map .inl
    | action, .inr c, args, p => (GestureController.touch action c args p).map .inr
  lostCapture
    | .inl c, p => (GestureController.lostCapture c p).map .inl fun p => p
    | .inr c, p => (GestureController.lostCapture c p).map .inr fun p => p
  tick
    | now, .inl c, p => (GestureController.tick now c p).map .inl fun p => p
    | now, .inr c, p => (GestureController.tick now c p).map .inr fun p => p
  isTimerActive := Sum.elim (GestureController.isTimerActive α) (GestureController.isTimerActive α)

namespace Pane

variable {α : Type} [Scalar α] [Decimals α]

/-- Subscribes the watch of `owner`, and ends the subscription held until then. -/
def startWatch (p : Pane α) (owner : OwnerId) (held : Option SubscriptionId) : Option SubscriptionId × Pane α :=
  let (notifier, id) := p.notifier.subscribeWatch owner
  (some id, { p with notifier := held.elim notifier notifier.unsubscribe })

def stopWatch (p : Pane α) (held : Option SubscriptionId) : Pane α :=
  { p with notifier := held.elim p.notifier p.notifier.unsubscribe }

end Pane

end ChartGestures
