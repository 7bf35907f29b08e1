import ChartGestures.Proofs.Gesture.Membership
import ChartGestures.Proofs.Gesture.OwnWrites
import ChartGestures.Proofs.Pane.Subscriptions

/-!
# Attaching and detaching in turns

A group that is attached attaches its controllers, and one that is detached detaches them; who leaves an attached group
is detached as well. So each controller is attached and detached in turns, and its watch is subscribed to the pane
exactly while it is in an attached group, as long as it comes into the group while that is not attached: nobody attaches
a controller that is added to an attached group.
-/

namespace ChartGestures

/-- What a controller is told of its pane. -/
inductive Callback where
  | attached
  | detached
  deriving DecidableEq, Repr

/-- Attached controllers are told that they are detached, and others that they are attached. -/
def Callback.after : Bool → Callback → Option Bool
  | false, attached => some true
  | true, detached => some false
  | _, _ => none

/-- A controller and what it was told of its pane. -/
structure Logged (κ : Type) where
  controller : κ
  callbacks : List Callback

namespace Logged

variable {κ : Type}

def new (c : κ) : Logged κ := ⟨c, []⟩

/-- Whether the controller was last told that it is attached, provided that it was told so in turns. -/
def isAttached? (c : Logged κ) : Option Bool := c.callbacks.foldlM Callback.after false

theorem isAttached?_append {c : κ} {callbacks : List Callback} {on : Bool}
    (h : (⟨c, callbacks⟩ : Logged κ).isAttached? = some on) (c' : κ) (callback : Callback) :
    (⟨c', callbacks ++ [callback]⟩ : Logged κ).isAttached? = callback.after on := by
  rw [isAttached?, List.foldlM_append, show callbacks.foldlM Callback.after false = some on from h]
  exact bind_pure (callback.after on)

variable {α : Type} [Scalar α] [Decimals α] [GestureController α κ]

instance : GestureController α (Logged κ) where
  id c := GestureController.id α c.controller
  name c := GestureController.name α c.controller
  isEnabled c := GestureController.isEnabled α c.controller
  receivesHandled c := GestureController.receivesHandled α c.controller
  attached c p := (GestureController.attached c.controller p).map (⟨·, c.callbacks ++ [.attached]⟩) fun p => p
  detached c p := (GestureController.detached c.controller p).map (⟨·, c.callbacks ++ [.detached]⟩) fun p => p
  mouse kind c args p := (GestureController.mouse kind c.controller args p).map (⟨·, c.callbacks⟩)
  touch action c args p := (GestureController.touch action c.controller args p).map (⟨·, c.callbacks⟩)
  lostCapture c p := (GestureController.lostCapture c.controller p).map (⟨·, c.callbacks⟩) fun p => p
  tick now c p := (GestureController.tick now c.controller p).map (⟨·, c.callbacks⟩) fun p => p
  isTimerActive c := GestureController.isTimerActive α c.controller

end Logged

/-! ### Logs change nothing -/

section

variable {α κ : Type} [Scalar α] [Decimals α] [GestureController α κ]

def ControllerGroup.unlogged (g : ControllerGroup (Logged κ)) : ControllerGroup κ :=
  ⟨g.controllers.map (·.controller), g.activeTouches, g.promotedTouch, g.attached⟩

omit [GestureController α κ] in
theorem ControllerGroup.each_unlogged (f : Logged κ → Pane α → Logged κ × Pane α) (f' : κ → Pane α → κ × Pane α)
    (hf : ∀ c p, f' c.controller p = ((f c p).1.controller, (f c p).2)) (cs : List (Logged κ)) (p : Pane α) :
    each f' (cs.map (·.controller)) p = ((each f cs p).1.map (·.controller), (each f cs p).2) := by
  induction cs generalizing p with
  | nil => rfl
  | cons c rest ih =>
    rw [List.map_cons, each, hf c p]
    dsimp only
    rw [ih (f c p).2]
    rfl

theorem ControllerGroup.unlogged_remove (g : ControllerGroup (Logged κ)) (id : OwnerId) (p : Pane α) :
    g.unlogged.remove id p =
      ((g.remove id p).1.map (·.controller), (g.remove id p).2.1.unlogged, (g.remove id p).2.2) := by
  have hid : ((fun c => GestureController.id α c == id) ∘ fun c : Logged κ => c.controller) =
      fun c => GestureController.id α c == id := rfl
  rw [remove, remove, unlogged, List.findIdx?_map, hid]
  cases g.controllers.findIdx? fun c => GestureController.id α c == id with
  | none => rfl
  | some index =>
    dsimp only
    rw [List.getElem?_map, List.eraseIdx_eq_take_drop_succ, List.eraseIdx_eq_take_drop_succ]
    cases g.controllers[index]? with
    | none => simp [unlogged]
    | some c => cases g.attached <;> simp [unlogged, GestureController.detached]

namespace GroupOnPane

def unlogged (s : GroupOnPane α (Logged κ)) : GroupOnPane α κ :=
  ⟨s.group.unlogged, s.pane, s.removed.map (·.controller)⟩

/-- The controllers of a group do not know of the logs kept of them. -/
theorem unlogged_apply (s : GroupOnPane α (Logged κ)) (call : MembershipCall κ) :
    (s.apply (call.map .new)).unlogged = s.unlogged.apply call := by
  cases call with
  | add c => simp [MembershipCall.map, apply, unlogged, ControllerGroup.add, ControllerGroup.unlogged, Logged.new]
  | attach =>
    have heach := ControllerGroup.each_unlogged GestureController.attached GestureController.attached (fun _ _ => rfl)
      s.group.controllers s.pane
    cases hattached : s.group.attached <;>
      simp [MembershipCall.map, apply, unlogged, ControllerGroup.attach, ControllerGroup.forEach,
        ControllerGroup.unlogged, hattached, heach]
  | detach =>
    have heach := ControllerGroup.each_unlogged GestureController.detached GestureController.detached (fun _ _ => rfl)
      s.group.controllers s.pane
    cases hattached : s.group.attached <;>
      simp [MembershipCall.map, apply, unlogged, ControllerGroup.detach, ControllerGroup.forEach,
        ControllerGroup.unlogged, hattached, heach]
  | putBack id =>
    show (s.putBack id).unlogged = s.unlogged.putBack id
    have hid : ((fun c => GestureController.id α c == id) ∘ fun c : Logged κ => c.controller) =
        fun c => GestureController.id α c == id := rfl
    rw [putBack, putBack, unlogged, unlogged, List.find?_map, hid]
    cases s.removed.find? fun c => GestureController.id α c == id with
    | none => rfl
    | some c => simp [ControllerGroup.add, ControllerGroup.unlogged, List.eraseP_map, hid]
  | remove id =>
    show (s.remove id).unlogged = s.unlogged.remove id
    rw [remove, remove, unlogged, unlogged, s.group.unlogged_remove id s.pane]
    cases hremoved : (s.group.remove id s.pane).1 <;> simp [hremoved]

end GroupOnPane

end

variable {α : Type} [Scalar α] [Decimals α]

/-! ### Watches of controllers -/

namespace Controller

variable {c : Controller α} {p : Pane α}

/-- The watch of a controller. -/
def watch (c : Controller α) : ObserverId := .watch c.id

/-- A controller has the subscription that it says, and it has one if it watches and is attached. -/
structure Keeps (c : Controller α) (p : Pane α) (on : Bool) : Prop where
  holds : p.notifier.Holds c.watch c.subscription?
  watches : c.subscription?.isSome = (on && c.isWatching)

theorem Keeps.subscription?_eq_none (h : c.Keeps p false) : c.subscription? = none :=
  Option.isSome_eq_false_iff.1 h.watches |> Option.isNone_iff_eq_none.1

theorem Keeps.subscriptionsOf_prune {on : Bool} (h : c.Keeps p on) :
    p.notifier.prune.subscriptionsOf c.watch = (on && c.isWatching).toNat := by
  rw [h.holds.subscriptionsOf_prune, h.watches]

/-- Attaching a controller subscribes its watch, if it watches. -/
theorem attached_cases (c : Controller α) (p : Pane α) :
    (c.isWatching = false ∧ c.attached p = (c, p)) ∨
      c.isWatching = true ∧ (c.attached p).1.id = c.id ∧ (c.attached p).1.isWatching = true ∧
        (c.attached p).1.subscription? = (p.startWatch c.id c.subscription?).1 ∧
        (c.attached p).2 = (p.startWatch c.id c.subscription?).2 := by
  cases c with
  | axisDrag _ | zoomPan _ => exact .inr ⟨rfl, rfl, rfl, rfl, rfl⟩
  | wheelZoom _ | pinchZoom _ | rubberBand _ | zoomExtents _ => exact .inl ⟨rfl, rfl⟩

/-- Detaching a controller ends its subscription, whatever else it gives up. -/
theorem detached_spec (c : Controller α) (p : Pane α) :
    (c.detached p).1.id = c.id ∧ (c.detached p).1.isWatching = c.isWatching ∧
      (c.detached p).1.subscription? = none ∧
      (c.detached p).2.notifier = (p.stopWatch c.subscription?).notifier := by
  cases c with
  | axisDrag c =>
    refine ⟨?_, rfl, rfl, ?_⟩
    · show (c.endDrag p).controller.id = c.id
      unfold AxisDrag.endDrag
      split <;> rfl
    · show c.subscription.elim (c.endDrag p).pane.notifier (c.endDrag p).pane.notifier.unsubscribe = _
      rw [c.notifier_endDrag p]
      rfl
  | zoomPan c =>
    refine ⟨?_, rfl, rfl, ?_⟩
    · show (c.resetInertia.endDrag p).1.id = c.id
      unfold ZoomPan.endDrag
      split <;> rfl
    · show c.subscription.elim (c.resetInertia.endDrag p).2.notifier (c.resetInertia.endDrag p).2.notifier.unsubscribe = _
      rw [c.resetInertia.notifier_endDrag p]
      rfl
  | rubberBand c =>
    refine ⟨?_, rfl, rfl, c.notifier_cancel p⟩
    show (c.cancel p).1.id = c.id
    unfold RubberBand.cancel
    split <;> rfl
  | wheelZoom _ | pinchZoom _ | zoomExtents _ => exact ⟨rfl, rfl, rfl, rfl⟩

end Controller

/-! ### One callback -/

/-- A controller was told in turns whether it is attached, and has a subscription accordingly. -/
structure InTurn (c : Logged (Controller α)) (p : Pane α) (on : Bool) : Prop where
  callbacks : c.isAttached? = some on
  keeps : c.controller.Keeps p on

/-- What a callback does to a controller that was told in turns: it turns it, and no other watch notices. -/
structure Turns (f : Logged (Controller α) → Pane α → Logged (Controller α) × Pane α) (on off : Bool) : Prop where
  id {c p} : (f c p).1.controller.id = c.controller.id
  numbered {c p} : p.notifier.IsNumbered → InTurn c p on → (f c p).2.notifier.IsNumbered
  inTurn {c p} : p.notifier.IsNumbered → InTurn c p on → InTurn (f c p).1 (f c p).2 off
  others {c p other held} : p.notifier.IsNumbered → InTurn c p on → other ≠ c.controller.watch →
    p.notifier.Holds other held → (f c p).2.notifier.Holds other held

theorem turns_attached [Trigonometry α] : Turns (α := α) GestureController.attached false true where
  id {c p} := by
    rcases c.controller.attached_cases p with ⟨-, hsame⟩ | ⟨-, hid, -⟩
    · exact congrArg (fun r => r.1.id) hsame
    · exact hid
  numbered {c p} hn h := by
    rcases c.controller.attached_cases p with ⟨-, hsame⟩ | ⟨-, -, -, -, hpane⟩
    · show (c.controller.attached p).2.notifier.IsNumbered
      rw [hsame]
      exact hn
    · show (c.controller.attached p).2.notifier.IsNumbered
      rw [hpane, h.keeps.subscription?_eq_none]
      exact Notifier.isNumbered_subscribeWatch hn _
  inTurn {c p} _ h := by
    refine ⟨Logged.isAttached?_append h.callbacks _ _, ?_⟩
    show (c.controller.attached p).1.Keeps (c.controller.attached p).2 true
    rcases c.controller.attached_cases p with ⟨hnot, hsame⟩ | ⟨-, hid, hwatching, hsubscription, hpane⟩
    · rw [hsame]
      exact ⟨h.keeps.holds, by rw [hnot, Bool.and_false, h.keeps.watches, Bool.false_and]⟩
    · have hnone := h.keeps.subscription?_eq_none
      have hfree : p.notifier.Holds (.watch c.controller.id) none := hnone ▸ h.keeps.holds
      rw [hnone] at hsubscription hpane
      refine ⟨?_, by rw [hsubscription, hwatching]; rfl⟩
      rw [Controller.watch, hid, hsubscription, hpane]
      exact Notifier.holds_subscribeWatch hfree
  others {c p other held} _ h hother hheld := by
    show (c.controller.attached p).2.notifier.Holds other held
    rcases c.controller.attached_cases p with ⟨-, hsame⟩ | ⟨-, -, -, -, hpane⟩
    · rw [hsame]
      exact hheld
    · rw [hpane, h.keeps.subscription?_eq_none]
      exact hheld.subscribeWatch hother

theorem turns_detached [Trigonometry α] : Turns (α := α) GestureController.detached true false where
  id {c p} := (c.controller.detached_spec p).1
  numbered {c p} hn _ := by
    show (c.controller.detached p).2.notifier.IsNumbered
    rw [(c.controller.detached_spec p).2.2.2]
    cases c.controller.subscription? with
    | none => exact hn
    | some i => exact Notifier.isNumbered_unsubscribe hn i
  inTurn {c p} _ h := by
    obtain ⟨hid, -, hnone, hnotifier⟩ := c.controller.detached_spec p
    refine ⟨Logged.isAttached?_append h.callbacks _ _, ?_, ?_⟩
    · show (c.controller.detached p).2.notifier.Holds (.watch (c.controller.detached p).1.id)
        (c.controller.detached p).1.subscription?
      rw [hid, hnone, hnotifier]
      have hholds : p.notifier.Holds (.watch c.controller.id) c.controller.subscription? := h.keeps.holds
      revert hholds
      cases c.controller.subscription? with
      | none => exact fun hholds => hholds
      | some i => exact Notifier.holds_unsubscribe
    · show (c.controller.detached p).1.subscription?.isSome = _
      rw [hnone]
      rfl
  others {c p other held} hn h hother hheld := by
    show (c.controller.detached p).2.notifier.Holds other held
    rw [(c.controller.detached_spec p).2.2.2]
    cases hsubscription : c.controller.subscription? with
    | none => exact hheld
    | some i => exact hheld.unsubscribe hn (hsubscription ▸ h.keeps.holds) hother

/-! ### All controllers of a group -/

/-- The watches of controllers. -/
def watches (cs : List (Logged (Controller α))) : List ObserverId := cs.map (·.controller.watch)

theorem watch_mem_watches {cs : List (Logged (Controller α))} {c : Logged (Controller α)} (hc : c ∈ cs) :
    c.controller.watch ∈ watches cs :=
  List.mem_map_of_mem hc

/-- The controllers inside a group were told alike and those outside are detached, and nobody else watches. -/
structure RollCall (cs ds : List (Logged (Controller α))) (p : Pane α) (on : Bool) : Prop where
  numbered : p.notifier.IsNumbered
  nodup : (watches (cs ++ ds)).Nodup
  inside : ∀ c ∈ cs, InTurn c p on
  outside : ∀ c ∈ ds, InTurn c p false
  others : ∀ id, .watch id ∉ watches (cs ++ ds) → p.notifier.Holds (.watch id) none

theorem InTurn.of_holds {c : Logged (Controller α)} {p p' : Pane α} {on : Bool} (h : InTurn c p on)
    (hholds : p'.notifier.Holds c.controller.watch c.controller.subscription?) : InTurn c p' on :=
  ⟨h.callbacks, hholds, h.keeps.watches⟩

/-- One after the other is turned, and each turn is nothing to those before and after. -/
theorem Turns.each {f : Logged (Controller α) → Pane α → Logged (Controller α) × Pane α} {on off : Bool}
    (hf : Turns f on off) {cs : List (Logged (Controller α))} {p : Pane α} (hn : p.notifier.IsNumbered)
    (hnodup : (watches cs).Nodup) (hcs : ∀ c ∈ cs, InTurn c p on) :
    let r := ControllerGroup.each f cs p
    watches r.1 = watches cs ∧ r.2.notifier.IsNumbered ∧ (∀ c ∈ r.1, InTurn c r.2 off) ∧
      ∀ other held, other ∉ watches cs → p.notifier.Holds other held → r.2.notifier.Holds other held := by
  induction cs generalizing p with
  | nil => exact ⟨rfl, hn, List.forall_mem_nil _, fun _ _ _ hheld => hheld⟩
  | cons c rest ih =>
    obtain ⟨hc, hrest⟩ := List.forall_mem_cons.1 hcs
    obtain ⟨hnot, hrestNodup⟩ : c.controller.watch ∉ watches rest ∧ (watches rest).Nodup := List.nodup_cons.1 hnodup
    -- nobody else shares the watch of `c`, so the rest finds the pane as if `c` had not been there
    have hlater : ∀ d ∈ rest, InTurn d (f c p).2 on := by
      intro d hd
      have hother : d.controller.watch ≠ c.controller.watch := fun heq => hnot (heq ▸ watch_mem_watches hd)
      exact (hrest d hd).of_holds (hf.others hn hc hother (hrest d hd).keeps.holds)
    obtain ⟨hsame, hn', hinTurn, hothers⟩ := ih (hf.numbered hn hc) hrestNodup hlater
    have hwatch : (f c p).1.controller.watch = c.controller.watch := congrArg ObserverId.watch hf.id
    refine ⟨?_, hn', List.forall_mem_cons.2 ⟨?_, hinTurn⟩, fun other held hother hheld => ?_⟩
    · exact congrArg₂ List.cons hwatch hsame
    · have hturned := hf.inTurn hn hc
      exact hturned.of_holds (hothers _ _ (hwatch ▸ hnot) hturned.keeps.holds)
    · rw [watches, List.map_cons, List.mem_cons, not_or] at hother
      exact hothers other held hother.2 (hf.others hn hc hother.1 hheld)

namespace RollCall

variable {cs cs' ds ds' : List (Logged (Controller α))} {p : Pane α} {on : Bool} {c : Logged (Controller α)}

theorem perm (h : RollCall cs ds p on) (hinside : cs'.Perm cs) (houtside : ds'.Perm ds) :
    RollCall cs' ds' p on := by
  have hwatches : (watches (cs' ++ ds')).Perm (watches (cs ++ ds)) := (hinside.append houtside).map _
  exact ⟨h.numbered, hwatches.nodup_iff.2 h.nodup, fun c hc => h.inside c (hinside.mem_iff.1 hc),
    fun c hc => h.outside c (houtside.mem_iff.1 hc), fun id hid => h.others id fun hmem => hid (hwatches.mem_iff.2 hmem)⟩

/-- The group tells its controllers. -/
theorem each {f : Logged (Controller α) → Pane α → Logged (Controller α) × Pane α} {off : Bool} (hf : Turns f on off)
    (h : RollCall cs ds p on) :
    RollCall (ControllerGroup.each f cs p).1 ds (ControllerGroup.each f cs p).2 off := by
  have hdisjoint := h.nodup
  rw [watches, List.map_append, List.nodup_append] at hdisjoint
  obtain ⟨hinside, -, hapart⟩ := hdisjoint
  obtain ⟨hsame, hn, hinTurn, hothers⟩ := hf.each h.numbered hinside h.inside
  have hwatches : watches ((ControllerGroup.each f cs p).1 ++ ds) = watches (cs ++ ds) := by
    rw [watches, List.map_append, ← watches, hsame, watches, watches, List.map_append]
  refine ⟨hn, hwatches ▸ h.nodup, hinTurn, fun c hc => ?_, fun id hid => ?_⟩
  · have hnot : c.controller.watch ∉ watches cs :=
      fun hmem => hapart _ hmem _ (watch_mem_watches hc) rfl
    exact (h.outside c hc).of_holds (hothers _ _ hnot (h.outside c hc).keeps.holds)
  · rw [hwatches] at hid
    refine hothers _ _ (fun hmem => hid ?_) (h.others id hid)
    rw [watches, List.map_append]
    exact List.mem_append_left _ hmem

/-- A controller that nobody attached may as well be outside as inside. -/
theorem cons_iff : RollCall (c :: cs) ds p false ↔ RollCall cs (c :: ds) p false := by
  have hmiddle : (watches (cs ++ c :: ds)).Perm (watches (c :: cs ++ ds)) := List.perm_middle.map _
  constructor
  · intro h
    obtain ⟨hc, hinside⟩ := List.forall_mem_cons.1 h.inside
    exact ⟨h.numbered, hmiddle.nodup_iff.2 h.nodup, hinside, List.forall_mem_cons.2 ⟨hc, h.outside⟩,
      fun id hid => h.others id fun hmem => hid (hmiddle.mem_iff.2 hmem)⟩
  · intro h
    obtain ⟨hc, houtside⟩ := List.forall_mem_cons.1 h.outside
    exact ⟨h.numbered, hmiddle.nodup_iff.1 h.nodup, List.forall_mem_cons.2 ⟨hc, h.inside⟩, houtside,
      fun id hid => h.others id fun hmem => hid (hmiddle.mem_iff.1 hmem)⟩

/-- One of them is turned and goes. -/
theorem dismiss {f : Logged (Controller α) → Pane α → Logged (Controller α) × Pane α} (hf : Turns f on false)
    (h : RollCall (c :: cs) ds p on) : RollCall cs ((f c p).1 :: ds) (f c p).2 on := by
  obtain ⟨hc, hinside⟩ := List.forall_mem_cons.1 h.inside
  obtain ⟨hnot, hnodup⟩ : c.controller.watch ∉ watches (cs ++ ds) ∧ (watches (cs ++ ds)).Nodup :=
    List.nodup_cons.1 h.nodup
  have hwatch : (f c p).1.controller.watch = c.controller.watch := congrArg ObserverId.watch hf.id
  have hstays : ∀ {d off}, d ∈ cs ++ ds → InTurn d p off → InTurn d (f c p).2 off := by
    intro d off hd hinTurn
    have hother : d.controller.watch ≠ c.controller.watch := fun heq => hnot (heq ▸ watch_mem_watches hd)
    exact hinTurn.of_holds (hf.others h.numbered hc hother hinTurn.keeps.holds)
  have hmiddle : (watches (cs ++ (f c p).1 :: ds)).Perm (c.controller.watch :: watches (cs ++ ds)) :=
    hwatch ▸ List.perm_middle.map _
  refine ⟨hf.numbered h.numbered hc, hmiddle.nodup_iff.2 h.nodup, ?_, ?_, ?_⟩
  · exact fun d hd => hstays (List.mem_append_left _ hd) (hinside d hd)
  · exact List.forall_mem_cons.2
      ⟨hf.inTurn h.numbered hc, fun d hd => hstays (List.mem_append_right _ hd) (h.outside d hd)⟩
  · intro id hid
    rw [hmiddle.mem_iff, List.mem_cons, not_or] at hid
    exact hf.others h.numbered hc hid.1 (h.others id fun hmem => (List.mem_cons.1 hmem).elim hid.1 hid.2)

/-- Nobody told a new controller anything. -/
theorem newcomer {c : Controller α} (h : RollCall cs ds p false) (hsubscription : c.subscription? = none)
    (hnew : c.watch ∉ watches (cs ++ ds)) : RollCall (.new c :: cs) ds p false := by
  refine ⟨h.numbered, List.nodup_cons.2 ⟨hnew, h.nodup⟩, List.forall_mem_cons.2 ⟨⟨rfl, ?_, ?_⟩, h.inside⟩, h.outside, ?_⟩
  · show p.notifier.Holds (.watch c.id) c.subscription?
    rw [hsubscription]
    exact h.others c.id hnew
  · show c.subscription?.isSome = _
    rw [hsubscription]
    rfl
  · exact fun id hid => h.others id fun hmem => hid (List.mem_cons_of_mem _ hmem)

end RollCall

namespace GroupOnPane

variable [Trigonometry α] {s : GroupOnPane α (Logged (Controller α))}

/-- Every controller was told in turns whether it is attached, and each watch is subscribed once while its controller
is in the attached group, and otherwise not at all. -/
structure IsBalanced (s : GroupOnPane α (Logged (Controller α))) : Prop where
  inside : ∀ c ∈ s.group.controllers, c.isAttached? = some s.group.attached ∧
    s.pane.notifier.prune.subscriptionsOf c.controller.watch = (s.group.attached && c.controller.isWatching).toNat
  outside : ∀ c ∈ s.removed, c.isAttached? = some false ∧
    s.pane.notifier.prune.subscriptionsOf c.controller.watch = 0

/-- The call, with a log for each controller that is added. -/
def logging (s : GroupOnPane α (Logged (Controller α))) (call : MembershipCall (Controller α)) :
    GroupOnPane α (Logged (Controller α)) :=
  s.apply (call.map .new)

def loggingAll (s : GroupOnPane α (Logged (Controller α))) (calls : List (MembershipCall (Controller α))) :
    GroupOnPane α (Logged (Controller α)) :=
  calls.foldl logging s

theorem unlogged_loggingAll (s : GroupOnPane α (Logged (Controller α))) (calls : List (MembershipCall (Controller α))) :
    (s.loggingAll calls).unlogged = calls.foldl apply s.unlogged := by
  induction calls generalizing s with
  | nil => rfl
  | cons call rest ih =>
    refine (ih (s.logging call)).trans ?_
    rw [logging, s.unlogged_apply call]
    rfl

/-- A controller that is added is a new one: its id is its own, and it has no subscription. -/
def addsNew (s : GroupOnPane α (Logged (Controller α))) : MembershipCall (Controller α) → Bool
  | .add c => c.subscription?.isNone && s.members.all (·.controller.id != c.id)
  | _ => true

def addsAllNew : GroupOnPane α (Logged (Controller α)) → List (MembershipCall (Controller α)) → Bool
  | _, [] => true
  | s, call :: rest => s.addsNew call && addsAllNew (s.logging call) rest

/-- Whether a controller comes into the group. -/
def joins (s : GroupOnPane α (Logged (Controller α))) : MembershipCall (Controller α) → Bool
  | .add _ => true
  | .putBack id => s.removed.any (·.controller.id == id)
  | _ => false

/-- Controllers come into the group only while that is not attached. -/
def joinsDetached : GroupOnPane α (Logged (Controller α)) → List (MembershipCall (Controller α)) → Bool
  | _, [] => true
  | s, call :: rest => !(s.group.attached && s.joins call) && joinsDetached (s.logging call) rest

/-- The controllers in the group and outside of it. -/
def Accounts (s : GroupOnPane α (Logged (Controller α))) : Prop :=
  RollCall s.group.controllers s.removed s.pane s.group.attached

omit [Trigonometry α] in
theorem Accounts.isBalanced (h : s.Accounts) : s.IsBalanced where
  inside c hc := ⟨(h.inside c hc).callbacks, (h.inside c hc).keeps.subscriptionsOf_prune⟩
  outside c hc := ⟨(h.outside c hc).callbacks, (h.outside c hc).keeps.subscriptionsOf_prune⟩

theorem accounts_attach (h : s.Accounts) : (s.logging .attach).Accounts := by
  show RollCall (s.group.attach s.pane).1.controllers s.removed (s.group.attach s.pane).2
    (s.group.attach s.pane).1.attached
  unfold ControllerGroup.attach
  split
  · exact h
  · next hattached =>
    rw [Bool.not_eq_true] at hattached
    rw [Accounts, hattached] at h
    exact h.each turns_attached

theorem accounts_detach (h : s.Accounts) : (s.logging .detach).Accounts := by
  show RollCall (s.group.detach s.pane).1.controllers s.removed (s.group.detach s.pane).2
    (s.group.detach s.pane).1.attached
  unfold ControllerGroup.detach
  split
  · exact h
  · next hattached =>
    rw [Bool.not_eq_true', Bool.not_eq_false] at hattached
    rw [Accounts, hattached] at h
    exact h.each turns_detached

theorem accounts_remove (h : s.Accounts) (id : OwnerId) : (s.logging (.remove id)).Accounts := by
  show (s.remove id).Accounts
  rcases s.group.remove_cases id s.pane with ⟨-, hsame⟩ | ⟨before, c, after, hgroup, -, hremoved⟩
  · rw [remove, hsame]
    show RollCall s.group.controllers (s.removed ++ []) s.pane s.group.attached
    rw [List.append_nil]
    exact h
  · have hfront : RollCall (c :: (before ++ after)) s.removed s.pane s.group.attached :=
      h.perm (hgroup ▸ List.perm_middle.symm) (.refl _)
    have hlast (d : Logged (Controller α)) : (s.removed ++ [d]).Perm (d :: s.removed) := List.perm_append_singleton d _
    cases hattached : s.group.attached with
    | true =>
      rw [hattached] at hremoved hfront
      rw [remove, hremoved]
      exact (hfront.dismiss turns_detached).perm (.refl _) (hlast _)
    | false =>
      rw [hattached] at hremoved hfront
      rw [remove, hremoved]
      exact (RollCall.cons_iff.1 hfront).perm (.refl _) (hlast _)

theorem accounts_putBack (h : s.Accounts) (hdetached : s.group.attached = false) (id : OwnerId) :
    (s.logging (.putBack id)).Accounts := by
  show (s.putBack id).Accounts
  rcases s.putBack_cases id with ⟨-, hsame⟩ | ⟨before, c, after, hremoved, -, hback⟩
  · rw [hsame]
    exact h
  · rw [Accounts, hdetached] at h
    have hfront : RollCall s.group.controllers (c :: (before ++ after)) s.pane false :=
      h.perm (.refl _) (hremoved ▸ List.perm_middle.symm)
    rw [hback, Accounts]
    show RollCall (s.group.controllers ++ [c]) (before ++ after) s.pane s.group.attached
    rw [hdetached]
    exact (RollCall.cons_iff.2 hfront).perm (List.perm_append_singleton c _) (.refl _)

theorem accounts_add {c : Controller α} (h : s.Accounts) (hdetached : s.group.attached = false)
    (hnew : s.addsNew (.add c) = true) : (s.logging (.add c)).Accounts := by
  rw [addsNew, Bool.and_eq_true, Option.isNone_iff_eq_none, List.all_eq_true] at hnew
  have hwatch : c.watch ∉ watches (s.group.controllers ++ s.removed) := by
    intro hmem
    obtain ⟨d, hd, hsame⟩ := List.mem_map.1 hmem
    have hid : d.controller.id = c.id := ObserverId.watch.inj hsame
    simpa [hid] using hnew.2 d hd
  rw [Accounts, hdetached] at h
  show RollCall (s.group.controllers ++ [.new c]) s.removed s.pane s.group.attached
  rw [hdetached]
  exact (h.newcomer hnew.1 hwatch).perm (List.perm_append_singleton _ _) (.refl _)

/-- A call by which nobody comes into an attached group keeps the accounts. -/
theorem accounts_logging {call : MembershipCall (Controller α)} (h : s.Accounts) (hnew : s.addsNew call = true)
    (hjoins : (s.group.attached && s.joins call) = false) : (s.logging call).Accounts := by
  cases call with
  | add c => exact accounts_add h (by simpa [joins] using hjoins) hnew
  | putBack id =>
    cases hattached : s.group.attached with
    | false => exact accounts_putBack h hattached id
    | true =>
      rw [hattached, Bool.true_and, joins, List.any_eq_false] at hjoins
      rcases s.putBack_cases id with ⟨-, hsame⟩ | ⟨before, c, after, hremoved, hfound, -⟩
      · show (s.putBack id).Accounts
        rw [hsame]
        exact h
      · exact absurd (List.find?_some hfound) (hjoins c (List.mem_of_find?_eq_some hfound))
  | attach => exact accounts_attach h
  | detach => exact accounts_detach h
  | remove id => exact accounts_remove h id

/-- Who comes into an attached group is not told that it is attached. -/
theorem not_isBalanced_logging {call : MembershipCall (Controller α)} (h : s.Accounts)
    (hattached : s.group.attached = true) (hjoins : s.joins call = true) : ¬ (s.logging call).IsBalanced := by
  have hlate {c : Logged (Controller α)} {removed : List (Logged (Controller α))} (hc : c.isAttached? = some false) :
      ¬ IsBalanced { s with group := s.group.add c, removed } := by
    intro hbalanced
    have htold := (hbalanced.inside c (List.mem_append_right _ (List.mem_singleton_self c))).1
    rw [hc, show (s.group.add c).attached = s.group.attached from rfl, hattached] at htold
    cases htold
  cases call with
  | add c => exact hlate rfl
  | putBack id =>
    rcases s.putBack_cases id with ⟨hnone, -⟩ | ⟨before, c, after, hremoved, hfound, hback⟩
    · rw [joins, List.any_eq_true] at hjoins
      obtain ⟨d, hd, hid⟩ := hjoins
      exact absurd hid (List.find?_eq_none.1 hnone d hd)
    · show ¬ (s.putBack id).IsBalanced
      rw [hback]
      exact hlate (h.outside c (List.mem_of_find?_eq_some hfound)).callbacks
  | attach | detach | remove _ => cases hjoins

/-! ### Main result -/

theorem isBalanced_loggingAll_iff {calls : List (MembershipCall (Controller α))} (h : s.Accounts)
    (hnew : s.addsAllNew calls = true) :
    (∀ k, (s.loggingAll (calls.take k)).IsBalanced) ↔ s.joinsDetached calls = true := by
  induction calls generalizing s with
  | nil => exact ⟨fun _ => rfl, fun _ k => by rw [List.take_nil]; exact h.isBalanced⟩
  | cons call rest ih =>
    -- the accounts hold up to the first call that brings somebody into the attached group, and are off after it
    rw [addsAllNew, Bool.and_eq_true] at hnew
    rw [joinsDetached, Bool.and_eq_true, Bool.not_eq_true']
    constructor
    · intro hbalanced
      have hjoins : (s.group.attached && s.joins call) = false := by
        rw [Bool.eq_false_iff, Ne, Bool.and_eq_true]
        rintro ⟨hattached, hjoins⟩
        exact not_isBalanced_logging h hattached hjoins (hbalanced 1)
      exact ⟨hjoins, (ih (accounts_logging h hnew.1 hjoins) hnew.2).1 fun k => hbalanced (k + 1)⟩
    · rintro ⟨hjoins, hrest⟩ k
      cases k with
      | zero => exact h.isBalanced
      | succ k => exact (ih (accounts_logging h hnew.1 hjoins) hnew.2).2 hrest k

/-- However controllers are added to a group, taken out of it and put back, and however the group is attached and
detached: at every moment each was attached and detached in turns, and its watch is subscribed once if it is in the
attached group and else not at all, exactly if controllers come into the group only while that is not attached. The logs
tell of the group as it is without them. -/
theorem attached_in_turns_iff {p : Pane α} (hnumbered : p.notifier.IsNumbered)
    (hunwatched : ∀ id, p.notifier.subscriptionsOf (.watch id) = 0) {calls : List (MembershipCall (Controller α))}
    (hnew : (on p).addsAllNew calls = true) :
    (∀ k, ((on p).loggingAll (calls.take k)).unlogged = (calls.take k).foldl apply (on p)) ∧
      ((∀ k, ((on p).loggingAll (calls.take k)).IsBalanced) ↔ (on p).joinsDetached calls = true) := by
  refine ⟨fun k => unlogged_loggingAll (on p) (calls.take k), isBalanced_loggingAll_iff ?_ hnew⟩
  exact ⟨hnumbered, List.nodup_nil, List.forall_mem_nil _, List.forall_mem_nil _,
    fun id _ => Notifier.holds_none_iff.2 (hunwatched id)⟩

/-- A drag of the x axis and a pan, of which the pan leaves the attached group and comes back later. -/
theorem attached_in_turns_iff_drag_and_pan :
    let p : Pane Float := .new ⟨0, 0, 400, 300⟩ .cartesian
    let calls : List (MembershipCall (Controller Float)) :=
      [.add (.axisDrag (.new 0 .x .default)), .add (.zoomPan (.ofInertia 1 .default (.atRest .default))), .attach,
        .remove 1, .detach, .putBack 1, .attach]
    (p.notifier.IsNumbered ∧ (∀ id, p.notifier.subscriptionsOf (.watch id) = 0) ∧ (on p).addsAllNew calls = true) ∧
      ∀ k, ((on p).loggingAll (calls.take k)).IsBalanced := by
  intro p calls
  have hnumbered : p.notifier.IsNumbered := ⟨List.nodup_nil, List.forall_mem_nil _⟩
  have hnew : (on p).addsAllNew calls = true := by decide +kernel
  exact ⟨⟨hnumbered, fun _ => rfl, hnew⟩, (attached_in_turns_iff hnumbered (fun _ => rfl) hnew).2.2 (by decide +kernel)⟩

/-- A pan that is added to an attached group is not told so and its watch is not subscribed, and the next that it is
told is that it is detached. -/
theorem added_while_attached_is_not_told :
    let p : Pane Float := .new ⟨0, 0, 400, 300⟩ .cartesian
    let calls : List (MembershipCall (Controller Float)) :=
      [.attach, .add (.zoomPan (.ofInertia 1 .default (.atRest .default)))]
    let s := (on p).loggingAll calls
    s.group.attached = true ∧ s.group.controllers.map (·.isAttached?) = [some false] ∧
      s.pane.notifier.prune.subscriptionsOf (.watch 1) = 0 ∧
      (s.logging .detach).group.controllers.map (·.callbacks) = [[.detached]] := by
  decide +kernel

end GroupOnPane

end ChartGestures
