import ChartGestures.Proofs.Gesture.StepNotices

/-!
# One controller takes a mouse event

A controller that does not claim a mouse event leaves the pane and itself exactly as they were, and a claimed event is
offered to nobody else. So of all controllers of a group one at most acts on an event, and it does so on the pane that
the event found. Moves and releases go to the drag that is on, past everybody before it.
-/

namespace ChartGestures

variable {α : Type} [Scalar α] [Decimals α]

/-! ### Scopes that write nothing -/

theorem Notifier.resume_suspend {n : Notifier α} (h : n.IsSettled) : n.suspend.resume = n := by
  have hsuspended : n.suspend.depth = n.depth + 1 := rfl
  cases hdepth : n.depth with
  | zero =>
    have hpending : n.suspend.pending = [] := h hdepth
    rw [hdepth] at hsuspended
    rw [resume_of_depth_one hsuspended, if_pos hpending]
    show { n with depth := 0 } = n
    rw [← hdepth]
  | succ depth =>
    rw [hdepth] at hsuspended
    rw [resume_of_depth_succ hsuspended]
    show { n with depth := depth + 1 } = n
    rw [← hdepth]

namespace Pane

theorem replaceAxis_self {axes : List (ChartAxis α)} {id : String} {a : ChartAxis α}
    (h : axes.find? (·.id == id) = some a) : replaceAxis id a axes = axes := by
  induction axes with
  | nil => rfl
  | cons b rest ih =>
    rw [replaceAxis]
    rw [List.find?_cons] at h
    cases hb : b.id == id with
    | true =>
      rw [hb] at h
      rw [if_pos rfl, Option.some.inj h]
    | false =>
      rw [hb] at h
      rw [if_neg Bool.false_ne_true, ih h]

variable {p : Pane α}

theorem writeAxis_unchanged {id : String} {write : ChartAxis α → AxisWrite α}
    (h : ∀ a, p.axis? id = some a → write a = a.unchanged) : p.writeAxis id write = p := by
  rw [writeAxis]
  cases hfound : p.axis? id with
  | none => rfl
  | some a =>
    dsimp only
    rw [h a hfound, any_eq_isSome]
    rw [axis?_eq] at hfound
    cases hx : p.xAxes.find? (·.id == id) with
    | some b =>
      rw [hx, Option.some_or] at hfound
      rw [← Option.some.inj hfound, Option.isSome_some, if_pos rfl]
      show { p with xAxes := replaceAxis id b p.xAxes } = p
      rw [replaceAxis_self hx]
    | none =>
      rw [hx, Option.none_or] at hfound
      rw [Option.isSome_none, if_neg Bool.false_ne_true]
      show { p with yAxes := replaceAxis id a p.yAxes } = p
      rw [replaceAxis_self hfound]

theorem writeAll_unchanged {writes : AxisWrites α}
    (h : ∀ w ∈ writes, ∀ a, p.axis? w.1 = some a → w.2 a = a.unchanged) : p.writeAll writes = p := by
  induction writes with
  | nil => rfl
  | cons w rest ih =>
    rw [writeAll, List.foldl_cons, writeAxis_unchanged (h w List.mem_cons_self)]
    exact ih fun v hv => h v (List.mem_cons_of_mem w hv)

theorem suspended_writeAll_unchanged (hsettled : p.notifier.IsSettled) {writes : AxisWrites α}
    (h : ∀ w ∈ writes, ∀ a, p.axis? w.1 = some a → w.2 a = a.unchanged) : p.suspended (writeAll writes) = p := by
  have hnothing := writeAll_unchanged (p := { p with notifier := p.notifier.suspend }) h
  rw [suspended, hnothing]
  show { p with notifier := p.notifier.suspend.resume } = p
  rw [Notifier.resume_suspend hsettled]

end Pane

/-! ### Events that are not claimed -/

variable {p : Pane α}

/-- Where the wheel turns no axis it has written nothing. -/
theorem WheelZoom.wheel_ignores_or_claims (c : WheelZoom α) (hsettled : p.notifier.IsSettled) (args : MouseArgs α) :
    c.wheel args p = .ignore c p ∨ (c.wheel args p).handled = true := by
  by_cases hstill : (args.wheelDelta == 0) = true
  · rw [wheel, if_pos hstill]
    exact .inl rfl
  · cases hclaimed : (c.wheel args p).handled with
    | true => exact .inr rfl
    | false =>
      have hpane := c.pane_wheel args p
      have hnothing : p.suspended (Pane.writeAll (c.writes args (p.axisIdsIn c.config.direction args.isMaster))) = p := by
        refine Pane.suspended_writeAll_unchanged hsettled fun w hw a ha => ?_
        obtain ⟨id, hid, rfl⟩ := List.mem_map.1 hw
        -- no claim: none of the axes is one that the wheel turns, so each write gives back what it got
        rw [wheel, if_neg hstill, List.any_eq_false] at hclaimed
        have hspared := hclaimed id hid
        rw [ha, Option.any_some, Bool.not_eq_true] at hspared
        show turn c.config (notches c.config args.wheelDelta) args.point a = a.unchanged
        rw [turn, hspared]
        rfl
      rw [if_neg hstill, hnothing] at hpane
      rw [wheel, if_neg hstill] at hpane hclaimed ⊢
      exact .inl (congrArg₂ (Reaction.mk c) hpane hclaimed)

theorem ZoomExtents.doubleClick_ignores_or_claims (c : ZoomExtents) (args : MouseArgs α) (p : Pane α) :
    c.doubleClick args p = .ignore c p ∨ (c.doubleClick args p).handled = true := by
  unfold doubleClick
  split
  · exact .inl rfl
  · exact .inr rfl

theorem AxisDrag.mouseDown_ignores_or_claims (c : AxisDrag α) (args : MouseArgs α) (p : Pane α) :
    c.mouseDown args p = .ignore c p ∨ (c.mouseDown args p).handled = true := by
  unfold mouseDown
  split
  · exact .inl rfl
  · split
    · exact .inl rfl
    · split
      · exact .inl rfl
      · split
        · exact .inl rfl
        · exact .inr rfl

theorem ZoomPan.mouseDown_ignores_or_claims (c : ZoomPan α) (args : MouseArgs α) (p : Pane α) :
    c.mouseDown args p = .ignore c p ∨ (c.mouseDown args p).handled = true := by
  unfold mouseDown
  split
  · exact .inl rfl
  · split
    · exact .inl rfl
    · exact .inr rfl

variable [Trigonometry α]

theorem RubberBand.mouseDown_ignores_or_claims (c : RubberBand α) (args : MouseArgs α) (p : Pane α) :
    c.mouseDown args p = .ignore c p ∨ (c.mouseDown args p).handled = true := by
  unfold mouseDown
  split
  · exact .inl rfl
  · split
    · exact .inl rfl
    · exact .inr rfl

namespace Controller

theorem handled_mouse_move_eq (c : Controller α) (args : MouseArgs α) (p : Pane α) :
    (mouse .move c args p).handled = c.inSession := by
  cases hc : c.inSession with
  | false => rw [mouse_move_of_not_inSession hc]; rfl
  | true => exact handled_mouse_move hc args p

theorem handled_mouse_up_eq (c : Controller α) (args : MouseArgs α) (p : Pane α) :
    (mouse .up c args p).handled = c.inSession := by
  cases hc : c.inSession with
  | false => rw [mouse_up_of_not_inSession hc]; rfl
  | true => exact (mouse_up_of_inSession hc args p).2

theorem mouse_ignores_or_claims (hsettled : p.notifier.IsSettled) (kind : MouseEventKind) (c : Controller α)
    (args : MouseArgs α) : mouse kind c args p = .ignore c p ∨ (mouse kind c args p).handled = true := by
  cases kind with
  | move =>
    cases hc : c.inSession with
    | false => exact .inl (mouse_move_of_not_inSession hc args p)
    | true => exact .inr (handled_mouse_move hc args p)
  | up =>
    cases hc : c.inSession with
    | false => exact .inl (mouse_up_of_not_inSession hc args p)
    | true => exact .inr (mouse_up_of_inSession hc args p).2
  | down =>
    cases c with
    | axisDrag c => exact (c.mouseDown_ignores_or_claims args p).imp (congrArg (Reaction.map axisDrag)) fun h => h
    | rubberBand c => exact (c.mouseDown_ignores_or_claims args p).imp (congrArg (Reaction.map rubberBand)) fun h => h
    | zoomPan c => exact (c.mouseDown_ignores_or_claims args p).imp (congrArg (Reaction.map zoomPan)) fun h => h
    | wheelZoom _ | pinchZoom _ | zoomExtents _ => exact .inl rfl
  | wheel =>
    cases c with
    | wheelZoom c =>
      exact (c.wheel_ignores_or_claims hsettled args).imp (congrArg (Reaction.map wheelZoom)) fun h => h
    | axisDrag _ | rubberBand _ | zoomPan _ | pinchZoom _ | zoomExtents _ => exact .inl rfl
  | doubleClick =>
    cases c with
    | zoomExtents c =>
      exact (c.doubleClick_ignores_or_claims args p).imp (congrArg (Reaction.map zoomExtents)) fun h => h
    | axisDrag _ | rubberBand _ | zoomPan _ | pinchZoom _ | wheelZoom _ => exact .inl rfl

end Controller

/-! ### Offers -/

namespace ControllerGroup

/-- The first controller that would claim an event. -/
def taker (kind : MouseEventKind) (args : MouseArgs α) (cs : List (Controller α)) (p : Pane α) :
    Option (Controller α) :=
  cs.find? fun c => (Controller.mouse kind c args p).handled

theorem taker_move (args : MouseArgs α) (cs : List (Controller α)) (p : Pane α) :
    taker .move args cs p = cs.find? (·.inSession) :=
  congrArg (cs.find? ·) (funext fun c => c.handled_mouse_move_eq args p)

theorem taker_up (args : MouseArgs α) (cs : List (Controller α)) (p : Pane α) :
    taker .up args cs p = cs.find? (·.inSession) :=
  congrArg (cs.find? ·) (funext fun c => c.handled_mouse_up_eq args p)

variable {kind : MouseEventKind} {args : MouseArgs α}

/-- What comes of an event: without a taker nothing, and else what the taker makes of the pane that the event found,
all before it having ignored the event and all after it not having been asked. -/
def Taken (kind : MouseEventKind) (args : MouseArgs α) (cs : List (Controller α)) (p : Pane α)
    (r : List (Controller α) × Pane α × Bool) : Prop :=
  match taker kind args cs p with
  | none => r = (cs, p, false)
  | some c => ∃ before after, cs = before ++ c :: after ∧
      (∀ b ∈ before, Controller.mouse kind b args p = .ignore b p) ∧
      r = (before ++ (Controller.mouse kind c args p).controller :: after, (Controller.mouse kind c args p).pane, true)

theorem taken_offer (hsettled : p.notifier.IsSettled) (kind : MouseEventKind) (args : MouseArgs α)
    (cs : List (Controller α)) :
    Taken kind args cs p (offer (fun c => Controller.mouse kind c args) cs p false) := by
  induction cs with
  | nil => rfl
  | cons c rest ih =>
    -- who ignores the event hands on the very pane that it found, so the rest is offered it as if it came first
    rcases Controller.mouse_ignores_or_claims hsettled kind c args with hignored | hclaimed
    · have hnext : taker kind args (c :: rest) p = taker kind args rest p := by
        refine List.find?_cons_of_neg ?_
        rw [hignored]
        exact Bool.false_ne_true
      rw [offer_cons_ignored _ hignored]
      rw [Taken] at ih ⊢
      rw [hnext]
      cases htaker : taker kind args rest p with
      | none =>
        rw [htaker] at ih
        rw [ih]
      | some d =>
        rw [htaker] at ih
        obtain ⟨before, after, hrest, hbefore, hr⟩ := ih
        refine ⟨c :: before, after, congrArg (c :: ·) hrest, ?_, ?_⟩
        · intro b hb
          rcases List.mem_cons.1 hb with rfl | hb
          · exact hignored
          · exact hbefore b hb
        · rw [hr]
          rfl
    · have hfirst : taker kind args (c :: rest) p = some c := List.find?_cons_of_pos hclaimed
      rw [offer_cons_claimed _ hclaimed, Taken, hfirst]
      exact ⟨[], rest, rfl, fun b hb => absurd hb List.not_mem_nil, rfl⟩

end ControllerGroup

/-! ### Reachable states -/

/-- What happens to a group and its pane, the group being attached and detached again included. -/
inductive GroupEvent (α : Type) [Scalar α] [Decimals α] where
  | attach
  | detach
  | surface (event : SurfaceEvent α)

namespace GroupEvent

def apply (s : ControllerGroup (Controller α) × Pane α) : GroupEvent α → ControllerGroup (Controller α) × Pane α
  | attach => s.1.attach s.2
  | detach => s.1.detach s.2
  | surface event => SurfaceEvent.apply s event

def run (events : List (GroupEvent α)) (s : ControllerGroup (Controller α) × Pane α) :
    ControllerGroup (Controller α) × Pane α := events.foldl apply s

theorem isSettled_apply {s : ControllerGroup (Controller α) × Pane α} (h : s.2.notifier.IsSettled) (e : GroupEvent α) :
    (apply s e).2.notifier.IsSettled := by
  cases e with
  | attach =>
    show (s.1.attach s.2).2.notifier.IsSettled
    unfold ControllerGroup.attach
    split
    · exact h
    · exact ControllerGroup.pane_each (P := fun p => p.notifier.IsSettled) (fun c _ hp => c.isSettled_attached hp)
        s.1.controllers h
  | detach =>
    show (s.1.detach s.2).2.notifier.IsSettled
    unfold ControllerGroup.detach
    split
    · exact h
    · exact ControllerGroup.pane_each (P := fun p => p.notifier.IsSettled) (fun c _ hp => c.isSettled_detached hp)
        s.1.controllers h
  | surface event => exact SurfaceEvent.isSettled_apply h event

theorem isSettled_run {s : ControllerGroup (Controller α) × Pane α} (h : s.2.notifier.IsSettled)
    (events : List (GroupEvent α)) : (run events s).2.notifier.IsSettled := by
  induction events generalizing s with
  | nil => exact h
  | cons e rest ih => exact ih (isSettled_apply h e)

end GroupEvent

namespace ControllerGroup

/-- Whatever happened to a group of controllers and its pane, an unclaimed mouse event changes nothing and stays
unclaimed, or is claimed and is the doing of the first controller that claims it; a move or a release is that of the
first drag that is on. An event that comes claimed changes nothing at all. The controllers may have any configuration,
also one whose limits `Scalar.clamp` finds upside down. -/
theorem mouse_taken_by_one {g : ControllerGroup (Controller α)} {p : Pane α} (hsettled : p.notifier.IsSettled)
    (events : List (GroupEvent α)) (kind : MouseEventKind) (args : MouseArgs α) :
    let s := GroupEvent.run events (g, p)
    let r := s.1.dispatchMouse kind args false s.2
    Taken kind args s.1.controllers s.2 (r.1.controllers, r.2) ∧ r.1 = { s.1 with controllers := r.1.controllers } ∧
      (kind = .move ∨ kind = .up → taker kind args s.1.controllers s.2 = s.1.controllers.find? (·.inSession)) ∧
      s.1.dispatchMouse kind args true s.2 = (s.1, s.2, true) := by
  intro s r
  refine ⟨taken_offer (GroupEvent.isSettled_run hsettled events) kind args s.1.controllers, rfl, ?_, ?_⟩
  · rintro (rfl | rfl)
    · exact taker_move ..
    · exact taker_up ..
  · show (let (controllers, p, handled) := offer (fun c => Controller.mouse kind c args) s.1.controllers s.2 true
      ({ s.1 with controllers }, p, handled)) = _
    rw [offer_handled]

/-- A pan in session behind a wheel and a rubber band: a move passes both by and pans. -/
theorem mouse_taken_by_one_pan :
    let p : Pane Float := (Pane.new ⟨0, 0, 400, 300⟩ .cartesian).addAxis .x (.new "x" true (.double (.new 0 100)))
    let g : ControllerGroup (Controller Float) := .ofList [.wheelZoom ⟨0, .default⟩, .rubberBand (.new 1 .default)]
    let onRight : ZoomPanConfig Float := { ZoomPanConfig.default with executeOn := .rightButton }
    let pan : Controller Float := .zoomPan (.ofInertia 2 onRight (.atRest .default))
    let events : List (GroupEvent Float) :=
      [.surface (.add pan), .attach, .surface (.call (.mouse .down (.new ⟨200, 150⟩ .onlyRight 0)))]
    let args : MouseArgs Float := .new ⟨180, 150⟩ .onlyRight 16000000
    let s := GroupEvent.run events (g, p)
    let r := s.1.dispatchMouse .move args false s.2
    (p.notifier.IsSettled ∧ (taker .move args s.1.controllers s.2).map Controller.id = some 2 ∧ r.2.2 = true) ∧
      Taken .move args s.1.controllers s.2 (r.1.controllers, r.2) ∧
      taker .move args s.1.controllers s.2 = s.1.controllers.find? (·.inSession) ∧
      s.1.dispatchMouse .move args true s.2 = (s.1, s.2, true) := by
  intro p g onRight pan events args s r
  have hsettled : p.notifier.IsSettled := fun _ => rfl
  have htaker : (taker .move args s.1.controllers s.2).map Controller.id = some 2 := by decide +kernel
  have hclaimed : r.2.2 = true := by decide +kernel
  obtain ⟨htaken, -, hdrag, hhandled⟩ := mouse_taken_by_one hsettled events .move args
  exact ⟨⟨hsettled, htaker, hclaimed⟩, htaken, hdrag (.inl rfl), hhandled⟩

end ControllerGroup

end ChartGestures
