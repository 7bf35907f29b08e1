import ChartGestures.Proofs.Gesture.OthersCalls

/-!
# Own writes are not external

A pan and an axis drag write to the axes that they watch. Their watch still only sees what others do: whatever happens on
the pane, it has seen a change exactly if somebody else had a batch delivered since the controller last took it. So a
drag goes on from where it started, and a pan coasts on, until somebody else changes an axis.
-/

namespace ChartGestures

open Notifier (Attends Informs Shows attends_iff_shows)

variable {α : Type} [Scalar α] [Decimals α]

/-! ### Attaching -/

section Attaching

variable {n : Notifier α} {p : Pane α} {owner : OwnerId}

theorem Notifier.takeExternal_of_lookup {external : Bool} {own : Nat}
    (h : n.observers.lookup (.watch owner) = some (.watch ⟨own, external⟩)) : (n.takeExternal owner).1 = external := by
  rw [Notifier.takeExternal, h]

/-- Nothing waits without a suspension, and the owner has no watch, or one from before without own writes. -/
structure Pane.AwaitsWatch (p : Pane α) (owner : OwnerId) : Prop where
  settled : p.notifier.depth = 0 → p.notifier.pending = []
  idle : ∀ o, p.notifier.observers.lookup (.watch owner) = some o → ∃ external, o = .watch ⟨0, external⟩

theorem Pane.AwaitsWatch.attends (h : p.AwaitsWatch owner) :
    (p.startWatch owner none).2.notifier.Attends owner (p.takeExternal owner).1 := by
  change (p.notifier.subscribeWatch owner).1.Attends owner (p.notifier.takeExternal owner).1
  cases hlookup : p.notifier.observers.lookup (.watch owner) with
  | none =>
    have hfresh : p.notifier.isLive (.watch owner) = false := by rw [Notifier.isLive, hlookup]; rfl
    have hshows := Notifier.shows_subscribeWatch (n := p.notifier) rfl (Bool.not_not _).symm hfresh
    have hnothing : (p.notifier.takeExternal owner).1 = false := by rw [Notifier.takeExternal, hlookup]
    rw [hnothing]
    refine ⟨hshows.watch, hshows.subscribed, ?_⟩
    rw [Notifier.subscribeWatch, Notifier.addObserver, hfresh]
    exact h.settled
  | some o =>
    obtain ⟨external, rfl⟩ := h.idle o hlookup
    have hlive : p.notifier.isLive (.watch owner) = true := by rw [Notifier.isLive, hlookup]; rfl
    rw [Notifier.takeExternal_of_lookup hlookup, Notifier.subscribeWatch, Notifier.addObserver, if_pos hlive]
    refine ⟨hlookup, ?_, h.settled⟩
    rw [Notifier.subscriptionsOf, Notifier.subscribe, List.countP_append]
    simp

end Attaching

variable {p : Pane α} {external : Bool}

/-! ### Own calls -/

namespace AxisDrag

variable {c : AxisDrag α}

theorem shows_mouseMove (h : p.notifier.Shows c.id 0 false ⟨0, external⟩) (args : MouseArgs α) :
    (c.mouseMove args p).pane.notifier.Shows c.id 0 false ⟨0, external && !c.isDragging⟩ := by
  unfold mouseMove isDragging
  split
  · next hsession =>
    rw [hsession, Option.isSome_none, Bool.not_false, Bool.and_true]
    exact h
  · next s hsession =>
    rw [hsession, Option.isSome_some, Bool.not_true, Bool.and_false]
    refine Pane.shows_asOwnWrites (Pane.shows_takeExternal h).2 fun q hq => ?_
    exact Pane.shows_suspended_own hq Nat.one_pos [(_, _)]

/-- Where the drag started, and what the axis showed there. -/
def origin (c : AxisDrag α) : Option (Point α × Range α) := c.session.map fun s => (s.startPoint, s.startRange)

theorem origin_mouseMove (hquiet : (p.takeExternal c.id).1 = false) (args : MouseArgs α) :
    (c.mouseMove args p).controller.origin = c.origin := by
  unfold mouseMove origin
  split
  · rfl
  · next s hsession =>
    have hrebase (q : Pane α) : rebase s false q = s := by
      unfold rebase
      split <;> rfl
    dsimp only
    rw [hquiet, hrebase, hsession]
    split <;> rfl

end AxisDrag

/-- What becomes of the motion does not depend on the pane. -/
theorem Inertia.tick_fst (i : Inertia α) (now : Nat) (p q : Pane α) : (i.tick now p).1 = (i.tick now q).1 := by
  have hstep (i : Inertia α) (p q : Pane α) : (i.step p).1 = (i.step q).1 := by
    unfold step
    cases i.target <;> rfl
  have hsteps (count : Nat) (i : Inertia α) (p q : Pane α) : (steps count i p).1 = (steps count i q).1 := by
    induction count generalizing i p q with
    | zero => rfl
    | succ count ih =>
      unfold steps
      dsimp only
      rw [hstep i p q]
      split
      · rfl
      · exact ih ..
  exact hsteps ..

namespace ZoomPan

variable {c : ZoomPan α}

theorem shows_mouseMove (h : p.notifier.Shows c.id 0 false ⟨0, external⟩) (args : MouseArgs α) :
    (c.mouseMove args p).pane.notifier.Shows c.id 0 false ⟨0, external && !c.isDragging⟩ := by
  unfold isDragging
  cases hsession : c.session with
  | none =>
    rw [Option.isSome_none, Bool.not_false, Bool.and_true, mouseMove, hsession]
    exact h
  | some s =>
    rw [Option.isSome_some, Bool.not_true, Bool.and_false, mouseMove_of_session hsession rfl]
    exact watches_panTo (watches_takeExternal h).2 _ args

/-- Where the drag started, and what category axes showed there. -/
def origin (c : ZoomPan α) : Option (Point α × StartRanges α) := c.session.map fun s => (s.startPoint, s.categoryStarts)

theorem origin_mouseMove (hquiet : (p.takeExternal c.id).1 = false) (args : MouseArgs α) :
    (c.mouseMove args p).controller.origin = c.origin := by
  cases hsession : c.session with
  | none => rw [mouseMove, hsession, Reaction.ignore]
  | some s =>
    rw [mouseMove_of_session hsession hquiet, origin, origin, hsession]
    rfl

theorem inertia_tick (hquiet : (p.takeExternal c.id).1 = false) (now : Nat) :
    (c.tick now p).1.inertia = (c.inertia.tick now p).1 := by
  cases hactive : c.inertia.isActive with
  | false =>
    have hstopped : c.inertia.timer.nextDue = none := by simpa [Inertia.isActive, IntervalTimer.isRunning] using hactive
    rw [tick_of_idle hactive, Inertia.tick, IntervalTimer.poll, hstopped]
    rfl
  | true =>
    rw [tick_of_quiet hactive hquiet]
    exact Inertia.tick_fst ..

end ZoomPan

namespace Controller

variable [Trigonometry α] {c : Controller α}

/-- Whether the controller watches the axes that it writes to. -/
def isWatching {α : Type} [Scalar α] [Decimals α] : Controller α → Bool
  | axisDrag _ | zoomPan _ => true
  | _ => false

def subscription? {α : Type} [Scalar α] [Decimals α] : Controller α → Option SubscriptionId
  | axisDrag c => c.subscription
  | zoomPan c => c.subscription
  | _ => none

/-- Whether a call is one of those in which the controller writes to the axes: a move in session, or a tick of the
coasting. -/
def writesOwn {α : Type} [Scalar α] [Decimals α] (c : Controller α) : ControllerCall α → Bool
  | .mouse .move _ => c.inSession
  | .tick _ => c.isTimerActive
  | _ => false

/-- Whether the controller takes in the call what its watch has seen: also the press that starts a session does. -/
def takes (c : Controller α) (p : Pane α) : ControllerCall α → Bool
  | .mouse .down args => !c.inSession && (mouse .down c args p).controller.inSession
  | call => c.writesOwn call

/-- The drag goes on from where it started, and the coasting goes on whatever the axes show. -/
structure GoesOn (c : Controller α) (p : Pane α) : Prop where
  drag : ∀ d, c = axisDrag d → ∀ args, (d.mouseMove args p).controller.origin = d.origin
  pan : ∀ z, c = zoomPan z → ∀ args, (z.mouseMove args p).controller.origin = z.origin
  coasting : ∀ z, c = zoomPan z → ∀ now, (z.tick now p).1.inertia = (z.inertia.tick now p).1

omit [Trigonometry α] in
theorem goesOn (hquiet : (p.takeExternal c.id).1 = false) : c.GoesOn p where
  drag := by
    rintro d rfl
    exact d.origin_mouseMove hquiet
  pan := by
    rintro z rfl
    exact z.origin_mouseMove hquiet
  coasting := by
    rintro z rfl
    exact z.inertia_tick hquiet

theorem mouse_down_cases (hwatching : c.isWatching = true) (args : MouseArgs α) (p : Pane α) :
    mouse .down c args p = .ignore c p ∨
      c.inSession = false ∧ (mouse .down c args p).controller.inSession = true ∧
        (mouse .down c args p).pane.notifier = (p.takeExternal c.id).2.notifier := by
  cases c with
  | axisDrag c =>
    rcases c.mouseDown_cases args p with hignored | ⟨hnone, hstarted, htaken⟩
    · exact .inl (congrArg (Reaction.map axisDrag) hignored)
    · exact .inr ⟨congrArg Option.isSome hnone, hstarted, htaken⟩
  | zoomPan c =>
    rcases c.mouseDown_cases args p with hignored | ⟨hnone, hstarted, htaken⟩
    · exact .inl (congrArg (Reaction.map zoomPan) hignored)
    · exact .inr ⟨congrArg Option.isSome hnone, hstarted, htaken⟩
  | wheelZoom _ | pinchZoom _ | rubberBand _ | zoomExtents _ => cases hwatching

theorem notifier_mouse_up (hwatching : c.isWatching = true) (args : MouseArgs α) (p : Pane α) :
    (mouse .up c args p).pane.notifier = p.notifier := by
  cases c with
  | axisDrag c => exact c.notifier_endDrag p
  | zoomPan c => exact c.notifier_mouseUp args p
  | wheelZoom _ | pinchZoom _ | rubberBand _ | zoomExtents _ => cases hwatching

theorem shows_mouse_move (hwatching : c.isWatching = true) (h : p.notifier.Shows c.id 0 false ⟨0, external⟩)
    (args : MouseArgs α) : (mouse .move c args p).pane.notifier.Shows c.id 0 false ⟨0, external && !c.inSession⟩ := by
  cases c with
  | axisDrag c => exact AxisDrag.shows_mouseMove h args
  | zoomPan c => exact ZoomPan.shows_mouseMove h args
  | wheelZoom _ | pinchZoom _ | rubberBand _ | zoomExtents _ => cases hwatching

theorem shows_tick (hwatching : c.isWatching = true) (h : p.notifier.Shows c.id 0 false ⟨0, external⟩) (now : Nat) :
    (c.tick now p).2.notifier.Shows c.id 0 false ⟨0, external && !c.isTimerActive⟩ := by
  have hidle : external = (external && !false) := by simp
  cases c with
  | axisDrag c => exact hidle ▸ h
  | zoomPan c =>
    change (c.tick now p).2.notifier.Shows c.id 0 false ⟨0, external && !c.inertia.isActive⟩
    cases hactive : c.inertia.isActive with
    | false =>
      rw [ZoomPan.tick_of_idle hactive]
      exact hidle ▸ h
    | true =>
      have hid : (c.tick now p).1.id = c.id := (c.step_tick now p).id
      rw [Bool.not_true, Bool.and_false, ← hid]
      exact ZoomPan.watches_tick hactive h now
  | wheelZoom _ | pinchZoom _ | rubberBand _ | zoomExtents _ => cases hwatching

/-- Of its own calls a controller sees nothing, and those that take what its watch has seen leave nothing behind. -/
theorem shows_after (hwatching : c.isWatching = true) (h : p.notifier.Shows c.id 0 false ⟨0, external⟩)
    (call : ControllerCall α) :
    (c.after p call).2.notifier.Shows c.id 0 false ⟨0, external && !c.takes p call⟩ := by
  have hquiet (hnot : c.takes p call = false) (hsame : (c.after p call).2.notifier = p.notifier) :
      (c.after p call).2.notifier.Shows c.id 0 false ⟨0, external && !c.takes p call⟩ := by
    rw [hnot, hsame, Bool.not_false, Bool.and_true]
    exact h
  cases call with
  | mouse kind args =>
    cases kind with
    | down =>
      rcases mouse_down_cases hwatching args p with hignored | ⟨hout, hin, htaken⟩
      · refine hquiet ?_ (congrArg (·.pane.notifier) hignored)
        rw [takes, hignored]
        exact Bool.not_and_self _
      · rw [takes, hout, hin, after, htaken, Bool.not_false, Bool.true_and, Bool.not_true, Bool.and_false]
        exact h.takeExternal.2
    | move => exact shows_mouse_move hwatching h args
    | up => exact hquiet rfl (notifier_mouse_up hwatching args p)
    | wheel | doubleClick =>
      cases c with
      | axisDrag _ | zoomPan _ => exact hquiet rfl rfl
      | wheelZoom _ | pinchZoom _ | rubberBand _ | zoomExtents _ => cases hwatching
  | touch action args =>
    cases c with
    | axisDrag _ | zoomPan _ =>
      refine hquiet rfl ?_
      cases action <;> rfl
    | wheelZoom _ | pinchZoom _ | rubberBand _ | zoomExtents _ => cases hwatching
  | tick now => exact shows_tick hwatching h now
  | lostCapture => exact hquiet rfl (notifier_lostCapture c p)

theorem id_after (c : Controller α) (p : Pane α) (call : ControllerCall α) : (c.after p call).1.id = c.id := by
  cases call with
  | mouse kind args => exact (step_mouse kind c args p).id
  | touch action args => exact (step_touch action c args p).id
  | tick now => exact (step_tick now c p).id
  | lostCapture => exact (c.step_lostCapture p).id

theorem isWatching_after (hwatching : c.isWatching = true) (p : Pane α) (call : ControllerCall α) :
    (c.after p call).1.isWatching = true := by
  cases c with
  | axisDrag c | zoomPan c =>
    cases call with
    | mouse kind args => cases kind <;> rfl
    | touch action args => cases action <;> rfl
    | tick now => rfl
    | lostCapture => rfl
  | wheelZoom _ | pinchZoom _ | rubberBand _ | zoomExtents _ => cases hwatching

omit [Trigonometry α] in
theorem attends_attached (hwatching : c.isWatching = true) (hnew : c.subscription? = none) (hp : p.AwaitsWatch c.id) :
    (c.attached p).2.notifier.Attends c.id (p.takeExternal c.id).1 := by
  cases c with
  | axisDrag c =>
    change (p.startWatch c.id c.subscription).2.notifier.Attends c.id _
    rw [show c.subscription = none from hnew]
    exact hp.attends
  | zoomPan c =>
    change (p.startWatch c.id c.subscription).2.notifier.Attends c.id _
    rw [show c.subscription = none from hnew]
    exact hp.attends
  | wheelZoom _ | pinchZoom _ | rubberBand _ | zoomExtents _ => cases hwatching

end Controller

/-! ### Runs -/

/-- What anybody but the controller does on its pane. -/
inductive OthersEvent (α : Type) [Scalar α] [Decimals α] where
  | callback (c : Controller α) (call : ControllerCall α)
  | axisWrite (axisId : String) (write : ChartAxis α → AxisWrite α)
  | notify (change : RangeChange α)
  | suspend
  | resume

variable [Trigonometry α]

namespace OthersEvent

def on (p : Pane α) : OthersEvent α → Pane α
  | callback c call => (c.after p call).2
  | axisWrite axisId write => p.writeAxis axisId write
  | notify change => { p with notifier := p.notifier.notify change }
  | suspend => { p with notifier := p.notifier.suspend }
  | resume => { p with notifier := p.notifier.resume }

/-- Whether the event is not a callback of `owner` itself. -/
def sparesOwner (owner : OwnerId) : OthersEvent α → Bool
  | callback c _ => c.id != owner
  | _ => true

theorem informs_on {owner : OwnerId} (e : OthersEvent α) (h : e.sparesOwner owner = true) (p : Pane α) :
    Informs owner p.notifier (e.on p).notifier := by
  cases e with
  | callback c call => exact Controller.informs_after (bne_iff_ne.1 h) p call
  | axisWrite axisId write => exact p.informs_writeAxis axisId write
  | notify change => exact Notifier.informs_notify ..
  | suspend => exact Notifier.informs_suspend ..
  | resume => exact Notifier.informs_resume ..

end OthersEvent

inductive WatchedEvent (α : Type) [Scalar α] [Decimals α] where
  | own (call : ControllerCall α)
  | other (event : OthersEvent α)

/-- A controller on its pane. -/
structure WatchedController (α : Type) [Scalar α] [Decimals α] where
  controller : Controller α
  pane : Pane α
  /-- Whether a batch was delivered for somebody else that the controller has not taken notice of. -/
  unseen : Bool

namespace WatchedController

def attach {α : Type} [Scalar α] [Decimals α] (c : Controller α) (p : Pane α) : WatchedController α :=
  ⟨(c.attached p).1, (c.attached p).2, (p.takeExternal c.id).1⟩

def step (s : WatchedController α) : WatchedEvent α → WatchedController α
  | .own call =>
    let (controller, pane) := s.controller.after s.pane call
    ⟨controller, pane, s.unseen && !s.controller.takes s.pane call⟩
  | .other event =>
    let pane := event.on s.pane
    { s with pane, unseen := s.unseen || s.pane.notifier.deliveries < pane.notifier.deliveries }

def run (s : WatchedController α) (events : List (WatchedEvent α)) : WatchedController α := events.foldl step s

/-- The controller itself is called while no suspension is open, and others act in their own names. -/
def admits {α : Type} [Scalar α] [Decimals α] (s : WatchedController α) : WatchedEvent α → Bool
  | .own _ => s.pane.notifier.depth == 0
  | .other event => event.sparesOwner s.controller.id

def admitsAll (s : WatchedController α) : List (WatchedEvent α) → Bool
  | [] => true
  | e :: rest => s.admits e && (s.step e).admitsAll rest

/-- The watch has seen what others did and the controller took no notice of. -/
structure Sees (s : WatchedController α) (owner : OwnerId) : Prop where
  id : s.controller.id = owner
  watching : s.controller.isWatching = true
  attends : s.pane.notifier.Attends owner s.unseen

variable {s : WatchedController α} {owner : OwnerId}

theorem sees_attach {c : Controller α} (hwatching : c.isWatching = true) (hnew : c.subscription? = none)
    (hp : p.AwaitsWatch c.id) : (attach c p).Sees c.id where
  id := (c.step_attached p).id
  watching := by
    cases c with
    | axisDrag _ | zoomPan _ => rfl
    | wheelZoom _ | pinchZoom _ | rubberBand _ | zoomExtents _ => cases hwatching
  attends := Controller.attends_attached hwatching hnew hp

/-- After its own call the watch of a controller is as the call found it, or has been emptied. -/
theorem Sees.shows_own (h : s.Sees owner) (hdepth : s.pane.notifier.depth = 0) (call : ControllerCall α) :
    (s.controller.after s.pane call).2.notifier.Shows owner 0 false
      ⟨0, s.unseen && !s.controller.takes s.pane call⟩ := by
  have hshows := (attends_iff_shows hdepth).1 h.attends
  rw [← h.id] at hshows ⊢
  exact Controller.shows_after h.watching hshows call

theorem Sees.step {e : WatchedEvent α} (h : s.Sees owner) (he : s.admits e = true) : (s.step e).Sees owner := by
  cases e with
  | own call =>
    have hshows := h.shows_own (beq_iff_eq.1 he) call
    refine ⟨(Controller.id_after ..).trans h.id, Controller.isWatching_after h.watching _ call, ?_⟩
    exact (attends_iff_shows hshows.depth).2 hshows
  | other event =>
    have hspares : event.sparesOwner owner = true := h.id ▸ (show event.sparesOwner s.controller.id = true from he)
    have hinforms := event.informs_on hspares s.pane
    exact ⟨h.id, h.watching, hinforms.attends _ h.attends⟩

theorem Sees.run {events : List (WatchedEvent α)} (h : s.Sees owner) (hevents : s.admitsAll events = true) :
    (s.run events).Sees owner := by
  induction events generalizing s with
  | nil => exact h
  | cons e rest ih =>
    rw [admitsAll, Bool.and_eq_true] at hevents
    exact ih (h.step hevents.1) hevents.2

/-- At any time the watch of a pan or an axis drag has seen a change if and only if somebody else made one that the
controller took no notice of. A move of its session and a tick of its coasting leave the watch with nothing seen and the
notifier without a suspension. So a drag goes on from its origin and a pan coasts on unless somebody else intervened. -/
theorem watch_sees_only_others {c : Controller α} (hwatching : c.isWatching = true) (hnew : c.subscription? = none)
    (hp : p.AwaitsWatch c.id) {events : List (WatchedEvent α)} (hevents : (attach c p).admitsAll events = true) :
    let s := (attach c p).run events
    let watch (q : Pane α) := q.notifier.observers.lookup (.watch c.id)
    watch s.pane = some (.watch ⟨0, s.unseen⟩) ∧
      (∀ call, s.pane.notifier.depth = 0 → s.controller.writesOwn call = true →
        watch (s.controller.after s.pane call).2 = some (.watch ⟨0, false⟩) ∧
          (s.controller.after s.pane call).2.notifier.depth = 0) ∧
      (s.unseen = false → s.controller.GoesOn s.pane) := by
  intro s watch
  have hsees : s.Sees c.id := (sees_attach hwatching hnew hp).run hevents
  refine ⟨hsees.attends.watch, fun call hdepth hwrites => ?_, fun hquiet => ?_⟩
  · have hshows := hsees.shows_own hdepth call
    have htakes : s.controller.takes s.pane call = true := by
      cases call with
      | mouse kind args =>
        cases kind with
        | move => exact hwrites
        | down | up | wheel | doubleClick => cases hwrites
      | tick now => exact hwrites
      | touch action args => cases hwrites
      | lostCapture => cases hwrites
    rw [htakes, Bool.not_true, Bool.and_false] at hshows
    exact ⟨hshows.watch, hshows.depth⟩
  · refine Controller.goesOn ?_
    rw [hsees.id]
    exact (Notifier.takeExternal_of_lookup hsees.attends.watch).trans hquiet

/-- A pan that nobody disturbs coasts on, and a turn of the wheel stays seen until the next tick takes it. -/
theorem watch_sees_only_others_coasting :
    let p : Pane Float := (Pane.new ⟨0, 0, 400, 300⟩ .cartesian).addAxis .x (.new "x" true (.double (.new 0 100)))
    let c : Controller Float := .zoomPan (.ofInertia 1 { ZoomPanConfig.default with clipModeX := .none } (.atRest .default))
    let turn : MouseArgs Float := { MouseArgs.new ⟨200, 150⟩ .none 52000000 with wheelDelta := 120 }
    let coasting : List (WatchedEvent Float) :=
      [.own (.mouse .down (.new ⟨200, 150⟩ .onlyLeft 0)), .own (.mouse .move (.new ⟨180, 160⟩ .onlyLeft 16000000)),
        .own (.mouse .up (.new ⟨180, 160⟩ .onlyLeft 32000000)), .own (.tick 48000000)]
    let turned := coasting ++ [.other (.callback (.wheelZoom ⟨2, .default⟩) (.mouse .wheel turn))]
    let s := (attach c p).run coasting
    let t := (attach c p).run turned
    let watch (q : Pane Float) := q.notifier.observers.lookup (.watch c.id)
    (p.AwaitsWatch c.id ∧ (attach c p).admitsAll turned = true) ∧
      (s.controller.isTimerActive = true ∧ s.unseen = false ∧ s.controller.GoesOn s.pane) ∧
      t.controller.isTimerActive = true ∧ t.unseen = true ∧ watch t.pane = some (.watch ⟨0, t.unseen⟩) ∧
      watch (t.controller.after t.pane (.tick 64000000)).2 = some (.watch ⟨0, false⟩) := by
  intro p c turn coasting turned s t watch
  have hp : p.AwaitsWatch c.id := ⟨fun _ => rfl, fun _ hnone => nomatch hnone⟩
  have hcoasting : (attach c p).admitsAll coasting = true := by decide +kernel
  have hturned : (attach c p).admitsAll turned = true := by decide +kernel
  have hs : s.controller.isTimerActive = true ∧ s.unseen = false := by decide +kernel
  have ht : t.controller.isTimerActive = true ∧ t.unseen = true ∧ t.pane.notifier.depth = 0 := by decide +kernel
  obtain ⟨-, -, hgoes⟩ := watch_sees_only_others rfl rfl hp hcoasting
  obtain ⟨hseen, hown, -⟩ := watch_sees_only_others rfl rfl hp hturned
  exact ⟨⟨hp, hturned⟩, ⟨hs.1, hs.2, hgoes hs.2⟩, ht.1, ht.2.1, hseen, (hown (.tick 64000000) ht.2.2 ht.1).1⟩

end WatchedController

end ChartGestures
