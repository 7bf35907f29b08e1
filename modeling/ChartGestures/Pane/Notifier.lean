import ChartGestures.Range.Basic

/-!
# Change notification

Axes publish what they come to show, and a notifier hands the changes to the observers that subscribed. While updates
are suspended the changes wait, the latest for each axis in the place of its first, and the end of the last suspension
hands them over as one batch. An observer that no longer lives is passed over.

Two kinds of observers are known: one records the batches it receives, the other watches for changes that its owner did
not make itself.
-/

namespace ChartGestures

structure RangeChange (α : Type) [Scalar α] [Decimals α] where
  axisId : String
  range : Range α

/-- Batches seen while the owner has writes of its own open do not count as external. -/
structure ChangeWatch where
  ownWrites : Nat
  external : Bool

inductive Observer (α : Type) [Scalar α] [Decimals α] where
  | recorder (batches : List (List (RangeChange α)))
  | watch (state : ChangeWatch)

/-- Recorders are numbered; a watch goes by its owner. -/
inductive ObserverId where
  | recorder (number : Nat)
  | watch (owner : Nat)
  deriving DecidableEq

abbrev SubscriptionId := Nat

structure Notifier (α : Type) [Scalar α] [Decimals α] where
  subscriptions : List (SubscriptionId × ObserverId)
  /-- The observers that live. -/
  observers : List (ObserverId × Observer α)
  nextSubscription : SubscriptionId
  /-- How many suspensions are open. -/
  depth : Nat
  pending : List (RangeChange α)
  /-- How many batches were handed over. -/
  deliveries : Nat
  /-- What each subscription was handed, in the order of the hand-overs. -/
  handed : List ((SubscriptionId × ObserverId) × List (RangeChange α))

variable {α : Type} [Scalar α] [Decimals α]

def Observer.receive (batch : List (RangeChange α)) : Observer α → Observer α
  | .recorder batches => .recorder (batches ++ [batch])
  | .watch state => .watch { state with external := state.external || state.ownWrites == 0 }

namespace Notifier

def empty : Notifier α := ⟨[], [], 0, 0, [], 0, []⟩

/-! ### Observers and subscriptions -/

def isLive (n : Notifier α) (id : ObserverId) : Bool := (n.observers.lookup id).isSome

/-- Applies `f` to a living observer. -/
def updateObserver (n : Notifier α) (id : ObserverId) (f : Observer α → Observer α) : Notifier α :=
  { n with observers := n.observers.map fun (other, o) => (other, if other = id then f o else o) }

/-- Brings an observer to life, unless it lives already. -/
def addObserver (n : Notifier α) (id : ObserverId) (o : Observer α) : Notifier α :=
  if n.isLive id then n else { n with observers := n.observers ++ [(id, o)] }

def dropObserver (n : Notifier α) (id : ObserverId) : Notifier α :=
  { n with observers := n.observers.filter fun entry => entry.1 ≠ id }

/-- The same observer may subscribe any number of times. -/
def subscribe (n : Notifier α) (id : ObserverId) : Notifier α × SubscriptionId :=
  ({ n with
      subscriptions := n.subscriptions ++ [(n.nextSubscription, id)]
      nextSubscription := n.nextSubscription + 1 }, n.nextSubscription)

def unsubscribe (n : Notifier α) (id : SubscriptionId) : Notifier α :=
  { n with subscriptions := n.subscriptions.filter fun entry => entry.1 ≠ id }

/-- Forgets the subscriptions of observers that no longer live. -/
def prune (n : Notifier α) : Notifier α :=
  { n with subscriptions := n.subscriptions.filter fun entry => n.isLive entry.2 }

/-- How many subscriptions have a living observer. -/
def observerCount (n : Notifier α) : Nat := n.prune.subscriptions.length

/-! ### Delivery -/

/-- Hands a batch to the observer of a subscription. -/
def handOver (n : Notifier α) (entry : SubscriptionId × ObserverId) (batch : List (RangeChange α)) : Notifier α :=
  { n.updateObserver entry.2 (·.receive batch) with handed := n.handed ++ [(entry, batch)] }

/-- Hands a batch to every living observer, once for each of its subscriptions. -/
def deliver (n : Notifier α) (batch : List (RangeChange α)) : Notifier α :=
  let n := n.prune
  let n := { n with deliveries := n.deliveries + 1 }
  n.subscriptions.foldl (fun n entry => n.handOver entry batch) n

/-- Adds a change to those that wait, in place of an earlier one of the same axis. -/
def queue (pending : List (RangeChange α)) (change : RangeChange α) : List (RangeChange α) :=
  if pending.any (·.axisId == change.axisId) then
    pending.map fun earlier => if earlier.axisId == change.axisId then change else earlier
  else pending ++ [change]

def notify (n : Notifier α) (change : RangeChange α) : Notifier α :=
  if 0 < n.depth then { n with pending := queue n.pending change } else n.deliver [change]

def isSuspended (n : Notifier α) : Bool := 0 < n.depth

def suspend (n : Notifier α) : Notifier α := { n with depth := n.depth + 1 }

/-- Ends one suspension; without any, nothing happens. -/
def resume (n : Notifier α) : Notifier α :=
  match n.depth with
  | 0 => n
  | depth + 1 =>
    let n := { n with depth }
    if 0 < depth ∨ n.pending.isEmpty then n else { n with pending := [] }.deliver n.pending

/-! ### Watches -/

def updateWatch (n : Notifier α) (owner : Nat) (f : ChangeWatch → ChangeWatch) : Notifier α :=
  n.updateObserver (.watch owner) fun
    | .watch state => .watch (f state)
    | o => o

/-- Subscribes the watch of `owner`. -/
def subscribeWatch (n : Notifier α) (owner : Nat) : Notifier α × SubscriptionId :=
  (n.addObserver (.watch owner) (.watch ⟨0, false⟩)).subscribe (.watch owner)

/-- Until the matching end, changes count as those of the owner. -/
def beginOwnWrites (n : Notifier α) (owner : Nat) : Notifier α :=
  n.updateWatch owner fun state => { state with ownWrites := state.ownWrites + 1 }

def endOwnWrites (n : Notifier α) (owner : Nat) : Notifier α :=
  n.updateWatch owner fun state => { state with ownWrites := state.ownWrites - 1 }

/-- Whether somebody else made a change since the last call. -/
def takeExternal (n : Notifier α) (owner : Nat) : Bool × Notifier α :=
  (match n.observers.lookup (.watch owner) with
    | some (.watch state) => state.external
    | _ => false,
   n.updateWatch owner fun state => { state with external := false })

/-! ### Recorders -/

/-- The batches that a recorder received since the last call. -/
def takeBatches (n : Notifier α) (number : Nat) : List (List (RangeChange α)) × Notifier α :=
  (match n.observers.lookup (.recorder number) with
    | some (.recorder batches) => batches
    | _ => [],
   n.updateObserver (.recorder number) fun
    | .recorder _ => .recorder []
    | o => o)

end Notifier

end ChartGestures
