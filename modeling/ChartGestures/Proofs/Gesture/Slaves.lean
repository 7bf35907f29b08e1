import ChartGestures.Proofs.Gesture.ExclusiveClaims
import ChartGestures.Proofs.Gesture.YAxes

/-!
# Controllers that act as slaves

A controller that has acted as a slave only holds no drag of an axis and no band, and pans, coasts and pinches without
y axes. Whatever it is called for as a slave, it stays like that and spares the y axes, with one exception: a double
click is not asked whether it comes from the master. A group of slaves takes its input one controller after the other,
and so spares the y axes as well; a double click goes to the first controller that accepts it.
-/

namespace ChartGestures

variable {α : Type} [Scalar α] [Decimals α]

namespace Controller

/-- A controller that has no drag, nothing to coast and no pinch to apply. -/
def isAtRest : Controller α → Bool
  | axisDrag c => c.session.isNone
  | rubberBand c => c.session.isNone
  | zoomPan c => c.session.isNone && c.inertia.target.isNone
  | pinchZoom c => c.pending.isNone
  | wheelZoom _ | zoomExtents _ => true

/-- Whatever the controller is at, it is at as a slave. -/
def IsSlave : Controller α → Prop
  | axisDrag c => c.session = none
  | rubberBand c => c.session = none
  | zoomPan c => (∀ s, c.session = some s → s.target.panY = false) ∧ c.inertia.SparesY
  | pinchZoom c => c.pending.isSome = true → c.isMaster = false
  | wheelZoom _ | zoomExtents _ => True

/-- The settings of a controller that shows all data on a double click. -/
def extents? (args : MouseArgs α) : Controller α → Option ZoomExtentsConfig
  | zoomExtents c => if c.config.executeOn.accepts args.buttons then some c.config else none
  | _ => none

theorem isSlave_of_isAtRest {c : Controller α} (h : c.isAtRest = true) : c.IsSlave := by
  cases c with
  | axisDrag c => exact Option.isNone_iff_eq_none.1 h
  | rubberBand c => exact Option.isNone_iff_eq_none.1 h
  | zoomPan c =>
    obtain ⟨hsession, htarget⟩ := Bool.and_eq_true_iff.1 h
    constructor
    · intro s hs
      rw [hs] at hsession
      cases hsession
    · intro t ht
      rw [ht] at htarget
      cases htarget
  | pinchZoom c =>
    intro hsome
    have hnone : c.pending.isNone = true := h
    rw [Option.isNone_iff_eq_none.1 hnone] at hsome
    cases hsome
  | wheelZoom _ | zoomExtents _ => trivial

/-- A slave acts on its pane, and stays one. -/
structure SlaveStep (c : Controller α) (p : Pane α) (c' : Controller α) (p' : Pane α) : Prop where
  isSlave : c'.IsSlave
  extents : ∀ args, c'.extents? args = c.extents? args
  keepsY : p.KeepsY p'

theorem SlaveStep.refl {c : Controller α} (h : c.IsSlave) (p : Pane α) : SlaveStep c p c p := ⟨h, fun _ => rfl, .refl p⟩

variable {c : Controller α}

/-- A controller that lets an event pass stays what it is. -/
theorem slave_ignored (hc : c.IsSlave) {p : Pane α} {r : Reaction α (Controller α)} (h : r = .ignore c p) :
    SlaveStep c p r.controller r.pane := by
  rw [h]
  exact .refl hc p

theorem slave_lostCapture (hc : c.IsSlave) (p : Pane α) : SlaveStep c p (c.lostCapture p).1 (c.lostCapture p).2 := by
  cases c with
  | axisDrag c =>
    have hsession : c.session = none := hc
    show SlaveStep _ p (axisDrag (c.endDrag p).controller) (c.endDrag p).pane
    rw [AxisDrag.endDrag, hsession]
    exact .refl hc p
  | rubberBand c =>
    have hsession : c.session = none := hc
    show SlaveStep _ p (rubberBand (c.cancel p).1) (c.cancel p).2
    rw [RubberBand.cancel, hsession]
    exact .refl hc p
  | zoomPan c =>
    show SlaveStep _ p (zoomPan (c.endDrag p).1) (c.endDrag p).2
    unfold ZoomPan.endDrag
    split
    · rw [Pane.release_eq]
      exact ⟨⟨(fun t ht => absurd ht.symm (Option.some_ne_none t)), hc.2⟩, fun _ => rfl, ⟨rfl, rfl⟩⟩
    · exact .refl hc p
  | _ => exact .refl hc p

end Controller

open Controller (SlaveStep)

namespace ZoomPan

variable {c : ZoomPan α} {args : MouseArgs α}

theorem slave_mouseDown (hslave : args.isMaster = false) (hc : (Controller.zoomPan c).IsSlave) (p : Pane α) :
    SlaveStep (.zoomPan c) p (.zoomPan (c.mouseDown args p).controller) (c.mouseDown args p).pane := by
  unfold mouseDown
  split
  · exact .refl hc p
  · split
    · exact .refl hc p
    · next hcapture =>
      refine ⟨⟨?_, c.inertia.sparesY_reset⟩, fun _ => rfl, ?_⟩
      · -- the master flag of the press goes into the target of the drag
        intro s hs
        rw [← Option.some.inj hs]
        exact hslave
      · rw [(Pane.capture_eq_some hcapture).2]
        exact ⟨rfl, rfl⟩

theorem slave_mouseMove (hc : (Controller.zoomPan c).IsSlave) (args : MouseArgs α) (p : Pane α) :
    SlaveStep (.zoomPan c) p (.zoomPan (c.mouseMove args p).controller) (c.mouseMove args p).pane := by
  cases hsession : c.session with
  | none =>
    rw [mouseMove, hsession]
    exact .refl hc p
  | some s =>
    rw [mouseMove_of_session hsession rfl]
    have hs : (rebase s (p.takeExternal c.id).1 (p.takeExternal c.id).2).target.panY = false := by
      rw [target_rebase]
      exact hc.1 s hsession
    refine ⟨⟨?_, hc.2⟩, fun _ => rfl, ?_⟩
    · intro t ht
      rw [← Option.some.inj ht]
      exact hs
    · exact (Pane.KeepsY.notifier p _).trans (c.keepsY_panTo hs args _)

theorem slave_mouseUp (hc : (Controller.zoomPan c).IsSlave) (args : MouseArgs α) (p : Pane α) :
    SlaveStep (.zoomPan c) p (.zoomPan (c.mouseUp args p).controller) (c.mouseUp args p).pane := by
  cases hsession : c.session with
  | none =>
    rw [mouseUp, hsession]
    exact .refl hc p
  | some s =>
    rw [mouseUp_of_session hsession, Pane.release_eq]
    refine ⟨⟨(fun t ht => absurd ht.symm (Option.some_ne_none t)), ?_⟩, fun _ => rfl, ⟨rfl, rfl⟩⟩
    rw [released]
    split
    · exact hc.2
    · exact c.inertia.sparesY_start (hc.1 s hsession) _ _ _ _

theorem slave_tick (hc : (Controller.zoomPan c).IsSlave) (now : Nat) (p : Pane α) :
    SlaveStep (.zoomPan c) p (.zoomPan (c.tick now p).1) (c.tick now p).2 := by
  cases hactive : c.inertia.isActive with
  | false =>
    rw [tick_of_idle hactive]
    exact .refl hc p
  | true =>
    cases hexternal : (p.takeExternal c.id).1 with
    | true =>
      rw [tick_of_external hactive hexternal]
      exact ⟨⟨hc.1, c.inertia.sparesY_reset⟩, fun _ => rfl, .notifier p _⟩
    | false =>
      rw [tick_of_quiet hactive hexternal]
      have hpolled : { c.inertia with timer := (c.inertia.timer.poll now).2 }.SparesY := hc.2
      obtain ⟨hspares, hkeeps⟩ := hpolled.steps (c.inertia.timer.poll now).1
        { p with notifier := (p.takeExternal c.id).2.notifier.beginOwnWrites c.id }
      exact ⟨⟨hc.1, hspares⟩, fun _ => rfl, ((Pane.KeepsY.notifier p _).trans hkeeps).trans (.notifier _ _)⟩

end ZoomPan

variable [Trigonometry α]

theorem PinchZoom.pending_flush (c : PinchZoom α) (p : Pane α) : (c.flush p).1.pending = none := by
  unfold flush
  dsimp only
  split
  · next hnone => exact hnone
  · rfl

namespace PinchZoom

variable {c : PinchZoom α}

/-- A finger that comes or goes finds nothing pending after the flush. -/
theorem slave_flush (hc : (Controller.pinchZoom c).IsSlave) {c' : PinchZoom α} (p : Pane α)
    (hpending : c'.pending = (c.flush p).1.pending) :
    SlaveStep (.pinchZoom c) p (.pinchZoom c') (c.flush p).2 where
  isSlave hsome := by
    rw [hpending, c.pending_flush p] at hsome
    cases hsome
  extents _ := rfl
  keepsY := keepsY_flush hc p

theorem slave_touchMove (c : PinchZoom α) {args : TouchArgs α} (hslave : args.isMaster = false)
    (p : Pane α) :
    SlaveStep (.pinchZoom c) p (.pinchZoom (c.touchMove args p).controller) (c.touchMove args p).pane := by
  unfold touchMove
  dsimp only
  split <;> exact ⟨fun _ => hslave, fun _ => rfl, .refl p⟩

theorem slave_tick (hc : (Controller.pinchZoom c).IsSlave) (now : Nat) (p : Pane α) :
    SlaveStep (.pinchZoom c) p (.pinchZoom (c.tick now p).1) (c.tick now p).2 := by
  unfold tick
  dsimp only
  split
  · have hflushed := slave_flush (c := { c with timer := (c.timer.poll now).2 }) hc p rfl
    exact ⟨hflushed.isSlave, fun _ => rfl, hflushed.keepsY⟩
  · exact ⟨hc, fun _ => rfl, .refl p⟩

end PinchZoom

namespace Controller

variable {c : Controller α}

theorem slave_mouse {kind : MouseEventKind} (hkind : kind ≠ .doubleClick) {args : MouseArgs α}
    (hslave : args.isMaster = false) (hc : c.IsSlave) (p : Pane α) :
    SlaveStep c p (mouse kind c args p).controller (mouse kind c args p).pane := by
  cases c with
  | axisDrag c =>
    have hsession : (axisDrag c).inSession = false := congrArg Option.isSome hc
    cases kind with
    | down =>
      refine slave_ignored hc ?_
      simp [mouse, AxisDrag.mouseDown, hslave, Reaction.map, Reaction.ignore]
    | move => exact slave_ignored hc (mouse_move_of_not_inSession hsession args p)
    | up => exact slave_ignored hc (mouse_up_of_not_inSession hsession args p)
    | wheel | doubleClick => exact .refl hc p
  | rubberBand c =>
    have hsession : (rubberBand c).inSession = false := congrArg Option.isSome hc
    cases kind with
    | down =>
      refine slave_ignored hc ?_
      simp [mouse, RubberBand.mouseDown, hslave, Reaction.map, Reaction.ignore]
    | move => exact slave_ignored hc (mouse_move_of_not_inSession hsession args p)
    | up => exact slave_ignored hc (mouse_up_of_not_inSession hsession args p)
    | wheel | doubleClick => exact .refl hc p
  | zoomPan c =>
    cases kind with
    | down => exact ZoomPan.slave_mouseDown hslave hc p
    | move => exact ZoomPan.slave_mouseMove hc args p
    | up => exact ZoomPan.slave_mouseUp hc args p
    | wheel | doubleClick => exact .refl hc p
  | wheelZoom c =>
    cases kind with
    | wheel => exact ⟨trivial, fun _ => rfl, c.keepsY_wheel hslave p⟩
    | down | move | up | doubleClick => exact .refl hc p
  | zoomExtents c =>
    cases kind with
    | doubleClick => exact absurd rfl hkind
    | down | move | up | wheel => exact .refl hc p
  | pinchZoom c => cases kind <;> exact .refl hc p

theorem slave_touch (action : TouchAction) {args : TouchArgs α} (hslave : args.isMaster = false) (hc : c.IsSlave)
    (p : Pane α) : SlaveStep c p (touch action c args p).controller (touch action c args p).pane := by
  cases c with
  | pinchZoom c =>
    cases action with
    | down => exact PinchZoom.slave_flush hc p rfl
    | move => exact c.slave_touchMove hslave p
    | up => exact PinchZoom.slave_flush hc p rfl
  | _ => cases action <;> exact .refl hc p

theorem slave_tick (hc : c.IsSlave) (now : Nat) (p : Pane α) : SlaveStep c p (c.tick now p).1 (c.tick now p).2 := by
  cases c with
  | pinchZoom c => exact PinchZoom.slave_tick hc now p
  | zoomPan c => exact ZoomPan.slave_tick hc now p
  | _ => exact .refl hc p

end Controller

/-! ### Groups of slaves -/

namespace ControllerGroup

/-- Slaves act on a pane one after the other, and stay slaves. -/
structure SlaveSteps (cs : List (Controller α)) (p : Pane α) (cs' : List (Controller α)) (p' : Pane α) : Prop where
  isSlave : ∀ c ∈ cs', c.IsSlave
  extents : ∀ args, cs'.findSome? (·.extents? args) = cs.findSome? (·.extents? args)
  keepsY : p.KeepsY p'

namespace SlaveSteps

variable {cs cs' cs'' rest rest' : List (Controller α)} {c c' : Controller α} {p p' p'' q : Pane α}

omit [Trigonometry α] in
theorem refl (h : ∀ c ∈ cs, c.IsSlave) (p : Pane α) : SlaveSteps cs p cs p := ⟨h, fun _ => rfl, .refl p⟩

omit [Trigonometry α] in
theorem trans (h : SlaveSteps cs p cs' p') (h' : SlaveSteps cs' p' cs'' p'') : SlaveSteps cs p cs'' p'' :=
  ⟨h'.isSlave, fun args => (h'.extents args).trans (h.extents args), h.keepsY.trans h'.keepsY⟩

omit [Trigonometry α] in
theorem cons (head : SlaveStep c p c' q) (tail : SlaveSteps rest q rest' p') :
    SlaveSteps (c :: rest) p (c' :: rest') p' where
  isSlave := List.forall_mem_cons.2 ⟨head.isSlave, tail.isSlave⟩
  extents args := by rw [List.findSome?_cons, List.findSome?_cons, head.extents, tail.extents]
  keepsY := head.keepsY.trans tail.keepsY

end SlaveSteps

variable {cs : List (Controller α)} {p : Pane α}

omit [Trigonometry α] in
theorem slaveSteps_each {f : Controller α → Pane α → Controller α × Pane α}
    (hf : ∀ c p, c.IsSlave → SlaveStep c p (f c p).1 (f c p).2) (hcs : ∀ c ∈ cs, c.IsSlave) (p : Pane α) :
    SlaveSteps cs p (each f cs p).1 (each f cs p).2 := by
  induction cs generalizing p with
  | nil => exact .refl hcs p
  | cons c rest ih =>
    obtain ⟨hc, hrest⟩ := List.forall_mem_cons.1 hcs
    exact .cons (hf c p hc) (ih hrest (f c p).2)

theorem slaveSteps_offer {react : Controller α → Pane α → Reaction α (Controller α)}
    (hreact : ∀ c p, c.IsSlave → SlaveStep c p (react c p).controller (react c p).pane) (hcs : ∀ c ∈ cs, c.IsSlave)
    (p : Pane α) (handled : Bool) :
    SlaveSteps cs p (offer react cs p handled).1 (offer react cs p handled).2.1 := by
  induction cs generalizing p handled with
  | nil => exact .refl hcs p
  | cons c rest ih =>
    obtain ⟨hc, hrest⟩ := List.forall_mem_cons.1 hcs
    unfold offer
    split
    · exact .cons (.refl hc p) (ih hrest p handled)
    · exact .cons (hreact c p hc) (ih hrest (react c p).pane _)

/-- A double click shows all data as the first controller that accepts it is set to, and touches no controller. -/
theorem offer_doubleClick (args : MouseArgs α) (cs : List (Controller α)) (p : Pane α) :
    offer (fun c => Controller.mouse .doubleClick c args) cs p false =
      match cs.findSome? (·.extents? args) with
      | some config => (cs, p.zoomToExtents config.direction config.animation, true)
      | none => (cs, p, false) := by
  induction cs with
  | nil => rfl
  | cons c rest ih =>
    have hpassed (hnone : c.extents? args = none) (hignored : Controller.mouse .doubleClick c args p = .ignore c p) :
        offer (fun c => Controller.mouse .doubleClick c args) (c :: rest) p false =
          match (c :: rest).findSome? (·.extents? args) with
          | some config => (c :: rest, p.zoomToExtents config.direction config.animation, true)
          | none => (c :: rest, p, false) := by
      rw [offer_cons_ignored _ hignored, List.findSome?_cons, hnone, ih]
      cases rest.findSome? (·.extents? args) <;> rfl
    cases c with
    | zoomExtents c =>
      cases haccepts : c.config.executeOn.accepts args.buttons with
      | true =>
        have hclick : Controller.mouse .doubleClick (.zoomExtents c) args p =
            ⟨.zoomExtents c, p.zoomToExtents c.config.direction c.config.animation, true⟩ := by
          show (c.doubleClick args p).map Controller.zoomExtents = _
          rw [ZoomExtents.doubleClick, haccepts]
          rfl
        have hsome : (Controller.zoomExtents c : Controller α).extents? args = some c.config := by
          rw [Controller.extents?, haccepts, if_pos rfl]
        rw [offer_cons_claimed _ (congrArg Reaction.handled hclick), List.findSome?_cons, hsome, hclick]
      | false =>
        refine hpassed ?_ ?_
        · rw [Controller.extents?, haccepts, if_neg Bool.false_ne_true]
        · show (c.doubleClick args p).map Controller.zoomExtents = _
          rw [ZoomExtents.doubleClick, haccepts]
          rfl
    | _ => exact hpassed rfl rfl

variable {g : ControllerGroup (Controller α)}

theorem slaveSteps_dispatchMouse {kind : MouseEventKind} (hkind : kind ≠ .doubleClick) {args : MouseArgs α}
    (hslave : args.isMaster = false) (hcs : ∀ c ∈ g.controllers, c.IsSlave) (handled : Bool) (p : Pane α) :
    SlaveSteps g.controllers p (g.dispatchMouse kind args handled p).1.controllers
      (g.dispatchMouse kind args handled p).2.1 :=
  slaveSteps_offer (fun _ p hc => Controller.slave_mouse hkind hslave hc p) hcs p handled

theorem slaveSteps_tick (hcs : ∀ c ∈ g.controllers, c.IsSlave) (now : Nat) (p : Pane α) :
    SlaveSteps g.controllers p (g.tick now p).1.controllers (g.tick now p).2 := by
  refine slaveSteps_each (fun c p hc => ?_) hcs p
  split
  · exact Controller.slave_tick hc now p
  · exact .refl hc p

/-- No finger passes for a double click. -/
theorem follow_ne_doubleClick {α κ : Type} (g : ControllerGroup κ) (m : Manipulator α) :
    (g.follow m).2 ≠ .mouse .doubleClick := by
  unfold follow
  cases m.action with
  | down =>
    dsimp only
    split
    · exact nofun
    · dsimp only
      split <;> exact nofun
  | move =>
    dsimp only
    split <;> exact nofun
  | up =>
    dsimp only
    split <;> exact nofun

theorem slaveSteps_promote {args : TouchArgs α} (hslave : args.isMaster = false) (ms : List (Manipulator α))
    {g : ControllerGroup (Controller α)} (hcs : ∀ c ∈ g.controllers, c.IsSlave) (p : Pane α) :
    SlaveSteps g.controllers p (promote args ms g p).1.controllers (promote args ms g p).2 := by
  induction ms generalizing g p with
  | nil => exact .refl hcs p
  | cons m rest ih =>
    have hperformed : SlaveSteps g.controllers p (perform args m (g.follow m).2 (g.controllers, p)).1
        (perform args m (g.follow m).2 (g.controllers, p)).2 := by
      cases hpromotion : (g.follow m).2 with
      | none => exact .refl hcs p
      | lostCapture => exact slaveSteps_each (fun _ p hc => Controller.slave_lostCapture hc p) hcs p
      | mouse kind =>
        have hkind : kind ≠ .doubleClick := fun heq => g.follow_ne_doubleClick m (heq ▸ hpromotion)
        have hargs : (promotedArgs args m).isMaster = false := hslave
        exact slaveSteps_offer (fun _ p hc => Controller.slave_mouse hkind hargs hc p) hcs p false
    rw [promote_cons]
    exact hperformed.trans
      (ih (g := { (g.follow m).1 with controllers := (perform args m (g.follow m).2 (g.controllers, p)).1 })
        hperformed.isSlave _)

theorem slaveSteps_dispatchTouch (action : TouchAction) {args : TouchArgs α} (hslave : args.isMaster = false)
    (hcs : ∀ c ∈ g.controllers, c.IsSlave) (handled : Bool) (p : Pane α) :
    SlaveSteps g.controllers p (g.dispatchTouch action args handled p).1.controllers
      (g.dispatchTouch action args handled p).2.1 := by
  have hoffered := slaveSteps_offer (fun _ p hc => Controller.slave_touch action hslave hc p) hcs p handled
  let offered := offer (fun c => Controller.touch action c args) g.controllers p handled
  exact hoffered.trans
    (slaveSteps_promote hslave args.manipulators (g := { g with controllers := offered.1 }) hoffered.isSlave offered.2.1)

end ControllerGroup

end ChartGestures
