import ChartGestures.Gesture.Linked
import ChartGestures.Proofs.Gesture.Slaves

/-!
# The y axes of slave panes

Input on one of several linked panes reaches the others as slaves, each by itself. What slaves do spares the y axes, but
showing all data on a double click does not ask whether the pane is the master. What such double clicks do is all that
ever happens to the y axes of a slave.
-/

namespace ChartGestures

variable {α : Type} [Scalar α] [Decimals α] [Trigonometry α]

/-- Input on linked panes, all of it on one of them, or a moment of time. -/
inductive LinkedInput (α : Type) where
  | mouse (kind : MouseEventKind) (args : MouseArgs α) (handled : Bool)
  | touch (action : TouchAction) (args : TouchArgs α) (handled : Bool)
  | tick (now : Nat)

namespace LinkedPane

/-- A pane after input that reaches it as the master, as a slave, or not at all. -/
def afterInput (l : LinkedPane α (Controller α)) (role : Option Bool) : LinkedInput α → LinkedPane α (Controller α)
  | .mouse kind args handled => role.elim l fun isMaster => (l.dispatchMouse kind { args with isMaster } handled).1
  | .touch action args handled => role.elim l fun isMaster => (l.dispatchTouch action { args with isMaster } handled).1
  | .tick now => l.tick now

/-- Over which time input makes a pane fit its y axes to their data: a double click does that, if it reaches the pane
unclaimed and the first controller to accept it is set to y axes. -/
def fit? {α : Type} [Scalar α] [Decimals α] (l : LinkedPane α (Controller α)) (role : Option Bool) :
    LinkedInput α → Option Nat
  | .mouse .doubleClick args false =>
    if role.isSome then
      (l.controllers.controllers.findSome? (·.extents? args)).bind fun config =>
        if config.direction.includesY then some config.animation else none
    else none
  | _ => none

/-- What input does to a pane that is not the master. -/
structure FollowsAsSlave (l l' : LinkedPane α (Controller α)) (fit : Option Nat) : Prop where
  id : l'.id = l.id
  isSlave : ∀ c ∈ l'.controllers.controllers, c.IsSlave
  fits : ∀ role e, l'.fit? role e = l.fit? role e
  xNames : l'.pane.axisIds .x = l.pane.axisIds .x
  yAxes : l'.pane.yAxes = fit.elim l.pane.yAxes fun nanos => Pane.fitIn (l.pane.axisIds .x) nanos l.pane.yAxes

variable {l l' : LinkedPane α (Controller α)}

omit [Trigonometry α] in
theorem fit?_congr (h : ∀ args, l'.controllers.controllers.findSome? (·.extents? args) =
    l.controllers.controllers.findSome? (·.extents? args)) (role : Option Bool) (e : LinkedInput α) :
    l'.fit? role e = l.fit? role e := by
  unfold fit?
  split
  · rw [h]
  · rfl

omit [Trigonometry α] in
theorem FollowsAsSlave.of_steps (hid : l'.id = l.id)
    (h : ControllerGroup.SlaveSteps l.controllers.controllers l.pane l'.controllers.controllers l'.pane) :
    FollowsAsSlave l l' none :=
  ⟨hid, h.isSlave, fit?_congr h.extents, h.keepsY.xNames, h.keepsY.yAxes⟩

/-- An offer that changes nothing leaves the pane with its controllers as it was. -/
theorem dispatchMouse_eq_self {kind : MouseEventKind} {args : MouseArgs α} {handled claimed : Bool}
    (h : ControllerGroup.offer (fun c => Controller.mouse kind c args) l.controllers.controllers l.pane handled =
      (l.controllers.controllers, l.pane, claimed)) : (l.dispatchMouse kind args handled).1 = l := by
  show ({ l with
    controllers := { l.controllers with controllers :=
      (ControllerGroup.offer (fun c => Controller.mouse kind c args) l.controllers.controllers l.pane handled).1 }
    pane := (ControllerGroup.offer (fun c => Controller.mouse kind c args) l.controllers.controllers l.pane
      handled).2.1 } : LinkedPane α (Controller α)) = l
  rw [h]

theorem followsAsSlave_doubleClick (hcs : ∀ c ∈ l.controllers.controllers, c.IsSlave) (args : MouseArgs α) :
    FollowsAsSlave l (l.dispatchMouse .doubleClick args false).1
      ((l.controllers.controllers.findSome? (·.extents? args)).bind fun config =>
        if config.direction.includesY then some config.animation else none) := by
  have hoffered := ControllerGroup.offer_doubleClick args l.controllers.controllers l.pane
  cases hfound : l.controllers.controllers.findSome? (·.extents? args) with
  | none =>
    rw [hfound] at hoffered
    rw [dispatchMouse_eq_self hoffered]
    exact .of_steps rfl (.refl hcs l.pane)
  | some config =>
    rw [hfound] at hoffered
    have hcontrollers : (l.dispatchMouse .doubleClick args false).1.controllers.controllers = l.controllers.controllers :=
      congrArg (·.1) hoffered
    have hpane : (l.dispatchMouse .doubleClick args false).1.pane = l.pane.zoomToExtents config.direction config.animation :=
      congrArg (·.2.1) hoffered
    obtain ⟨hnames, haxes⟩ := l.pane.zoomToExtents_y config.direction config.animation
    refine ⟨rfl, hcontrollers ▸ hcs, fit?_congr (fun _ => by rw [hcontrollers]), hpane ▸ hnames, ?_⟩
    rw [hpane, haxes, Option.bind_some]
    split <;> rfl

theorem followsAsSlave_afterInput (hcs : ∀ c ∈ l.controllers.controllers, c.IsSlave) {role : Option Bool}
    (hrole : role ≠ some true) (e : LinkedInput α) : FollowsAsSlave l (l.afterInput role e) (l.fit? role e) := by
  cases e with
  | tick now => exact .of_steps rfl (ControllerGroup.slaveSteps_tick hcs now l.pane)
  | touch action args handled =>
    match role, hrole with
    | none, _ => exact .of_steps rfl (.refl hcs l.pane)
    | some false, _ =>
      let given : TouchArgs α := { args with isMaster := false }
      have hslave : given.isMaster = false := rfl
      exact .of_steps rfl (ControllerGroup.slaveSteps_dispatchTouch action hslave hcs handled l.pane)
  | mouse kind args handled =>
    match role, hrole with
    | none, _ =>
      have hnone : l.fit? none (.mouse kind args handled) = none := by
        cases kind <;> cases handled <;> rfl
      rw [hnone]
      exact .of_steps rfl (.refl hcs l.pane)
    | some false, _ =>
      let given : MouseArgs α := { args with isMaster := false }
      by_cases hclick : kind = .doubleClick
      · subst hclick
        cases handled with
        | false => exact followsAsSlave_doubleClick hcs given
        | true =>
          have hclaimed := ControllerGroup.offer_handled (fun c => Controller.mouse .doubleClick c given)
            l.controllers.controllers l.pane
          show FollowsAsSlave l (l.dispatchMouse .doubleClick given true).1 none
          rw [dispatchMouse_eq_self hclaimed]
          exact .of_steps rfl (.refl hcs l.pane)
      · have hnone : l.fit? (some false) (.mouse kind args handled) = none := by
          cases kind with
          | doubleClick => exact absurd rfl hclick
          | down | move | up | wheel => rfl
        rw [hnone]
        have hslave : given.isMaster = false := rfl
        exact .of_steps rfl (ControllerGroup.slaveSteps_dispatchMouse hclick hslave hcs handled l.pane)

theorem id_afterInput (l : LinkedPane α (Controller α)) (role : Option Bool) (e : LinkedInput α) :
    (l.afterInput role e).id = l.id := by
  cases e with
  | mouse kind args handled => cases role <;> rfl
  | touch action args handled => cases role <;> rfl
  | tick now => rfl

/-- A pane after a sequence of inputs. -/
def afterInputs (l : LinkedPane α (Controller α)) (role : Option Bool) (inputs : List (LinkedInput α)) :
    LinkedPane α (Controller α) := inputs.foldl (fun l e => l.afterInput role e) l

theorem id_afterInputs (l : LinkedPane α (Controller α)) (role : Option Bool) (inputs : List (LinkedInput α)) :
    (l.afterInputs role inputs).id = l.id := by
  induction inputs generalizing l with
  | nil => rfl
  | cons e rest ih => exact (ih (l.afterInput role e)).trans (l.id_afterInput role e)

/-- Y axes after fits to their data over given times, one after the other. -/
def fitted {α : Type} [Scalar α] [Decimals α] (l : LinkedPane α (Controller α)) (fits : List Nat) :
    List (ChartAxis α) :=
  fits.foldl (fun yAxes nanos => Pane.fitIn (l.pane.axisIds .x) nanos yAxes) l.pane.yAxes

theorem yAxes_afterInputs (hcs : ∀ c ∈ l.controllers.controllers, c.IsSlave) {role : Option Bool}
    (hrole : role ≠ some true) (inputs : List (LinkedInput α)) :
    (l.afterInputs role inputs).pane.yAxes = l.fitted (inputs.filterMap (l.fit? role)) := by
  induction inputs generalizing l with
  | nil => rfl
  | cons e rest ih =>
    have hfirst := followsAsSlave_afterInput hcs hrole e
    -- which double clicks fit the pane is up to the settings of its controllers, and these stay
    have hfits : (l.afterInput role e).fit? role = l.fit? role := funext (hfirst.fits role)
    refine (ih hfirst.isSlave).trans ?_
    rw [hfits, fitted, hfirst.xNames, hfirst.yAxes, List.filterMap_cons]
    cases l.fit? role e <;> rfl

end LinkedPane

namespace LinkedPanes

variable {s : LinkedPanes α (Controller α)} {origin : String}

def after (s : LinkedPanes α (Controller α)) (origin : String) : LinkedInput α → LinkedPanes α (Controller α)
  | .mouse kind args handled => (s.dispatchMouse origin kind args handled).1
  | .touch action args handled => (s.dispatchTouch origin action args handled).1
  | .tick now => s.tick now

/-- Linked panes after input, all of it on the pane `origin`. -/
def afterAll (s : LinkedPanes α (Controller α)) (origin : String) (inputs : List (LinkedInput α)) :
    LinkedPanes α (Controller α) := inputs.foldl (fun s e => s.after origin e) s

/-- Every pane takes input by itself, in the role that it has. -/
theorem panes_after (s : LinkedPanes α (Controller α)) (origin : String) (e : LinkedInput α) :
    (s.after origin e).panes = s.panes.map fun l => l.afterInput (s.role origin l) e := by
  have hgiven (give : Bool → LinkedPane α (Controller α) → LinkedPane α (Controller α) × Bool) :
      (dispatch give s origin).1.panes =
        s.panes.map fun l => (s.role origin l).elim l fun isMaster => (give isMaster l).1 := by
    rw [dispatch]
    dsimp only
    rw [List.map_map]
    refine List.map_congr_left fun l _ => ?_
    dsimp only [Function.comp_apply]
    cases s.role origin l <;> rfl
  cases e with
  | mouse kind args handled => exact hgiven _
  | touch action args handled => exact hgiven _
  | tick now => rfl

theorem role_after (s : LinkedPanes α (Controller α)) (origin : String) (e : LinkedInput α)
    {l l' : LinkedPane α (Controller α)} (hid : l'.id = l.id) : (s.after origin e).role origin l' = s.role origin l := by
  have hsync : (s.after origin e).sync = s.sync := by cases e <;> rfl
  rw [role, role, shouldSync, shouldSync, shouldSync, shouldSync, hsync, hid]

omit [Trigonometry α] in
theorem role_ne_master {l : LinkedPane α (Controller α)} (hid : l.id ≠ origin) : s.role origin l ≠ some true := by
  rw [role, if_neg (by simpa using hid)]
  split <;> simp

theorem panes_afterAll (s : LinkedPanes α (Controller α)) (origin : String) (inputs : List (LinkedInput α)) :
    (s.afterAll origin inputs).panes = s.panes.map fun l => l.afterInputs (s.role origin l) inputs := by
  induction inputs generalizing s with
  | nil => exact (List.map_id s.panes).symm
  | cons e rest ih =>
    refine (ih (s.after origin e)).trans ?_
    rw [panes_after, List.map_map]
    refine List.map_congr_left fun l _ => ?_
    rw [Function.comp_apply, s.role_after origin e (l.id_afterInput (s.role origin l) e)]
    rfl

/-- Whatever input comes on one of linked panes while the others are at rest, the y axes of each of the others are
fitted to their data by the double clicks that reach it and that it accepts for y axes, one after the other, and are not
touched otherwise. The controllers may have any configuration, also one whose limits `Scalar.clamp` finds upside
down. -/
theorem slaves_only_fit (hrest : ∀ l ∈ s.panes, l.id ≠ origin → ∀ c ∈ l.controllers.controllers, c.isAtRest = true)
    (inputs : List (LinkedInput α)) :
    List.Forall₂ (fun l l' => l'.id = l.id ∧
        (l.id ≠ origin → l'.pane.yAxes = l.fitted (inputs.filterMap (l.fit? (s.role origin l)))))
      s.panes (s.afterAll origin inputs).panes := by
  rw [panes_afterAll, List.forall₂_map_right_iff, List.forall₂_same]
  intro l hl
  refine ⟨l.id_afterInputs _ inputs, fun hid => ?_⟩
  have hslaves : ∀ c ∈ l.controllers.controllers, c.IsSlave :=
    fun c hc => Controller.isSlave_of_isAtRest (hrest l hl hid c hc)
  exact LinkedPane.yAxes_afterInputs hslaves (role_ne_master hid) inputs

/-- Two panes with an x and a y axis each and the same controllers, a double click set to some axes among them. -/
def stacked (extents : XyDirection) : LinkedPanes Float (Controller Float) :=
  let x : ChartAxis Float := (ChartAxis.new "x" true (.double (.new 10 20))).withData (.double (.new 0 100))
  let y : ChartAxis Float := (ChartAxis.new "y" false (.double (.new 1 2))).withData (.double (.new 0 5))
  let p : Pane Float := ((Pane.new ⟨0, 0, 400, 300⟩ .cartesian).addAxis .x x).addAxis .y y
  let cs (first : OwnerId) : ControllerGroup (Controller Float) :=
    .ofList [.zoomPan (.ofInertia first .default (.atRest .default)), .wheelZoom ⟨first + 1, .default⟩,
      .zoomExtents ⟨first + 2, { ZoomExtentsConfig.default with direction := extents, isAnimated := false }⟩]
  (LinkedPanes.empty.add "top" p (cs 0)).add "bottom" p (cs 3)

/-- The exact bounds that an axis of a pane shows. -/
def shownOn (s : LinkedPanes Float (Controller Float)) (pane axis : String) : Option (Option Rat × Option Rat) :=
  (s.pane? pane).bind fun l => (l.pane.axis? axis).map fun a =>
    (Scalar.toRat? a.visibleRange.preciseBounds.1, Scalar.toRat? a.visibleRange.preciseBounds.2)

/-- A pan, a turn of the wheel and a double click for x axes on the top pane leave the y axis of the bottom pane. -/
theorem slaves_only_fit_x :
    let s := stacked .x
    let inputs : List (LinkedInput Float) :=
      [.mouse .down (.new ⟨200, 150⟩ .onlyLeft 0) false, .mouse .move (.new ⟨160, 120⟩ .onlyLeft 16000000) false,
        .mouse .up (.new ⟨160, 120⟩ .onlyLeft 20000000) false, .tick 60000000,
        .mouse .wheel { MouseArgs.new ⟨160, 120⟩ .none 70000000 with wheelDelta := 120 } false,
        .mouse .doubleClick (.new ⟨160, 120⟩ .onlyLeft 80000000) false]
    (∀ l ∈ s.panes, l.id ≠ "top" → ∀ c ∈ l.controllers.controllers, c.isAtRest = true) ∧
      (s.afterAll "top" (inputs.take 2)).shownOn "bottom" "x" = some (some 11, some 21) ∧
      (s.afterAll "top" inputs).shownOn "bottom" "y" = some (some 1, some 2) ∧
      List.Forall₂ (fun l l' => l'.id = l.id ∧
          (l.id ≠ "top" → l'.pane.yAxes = l.fitted (inputs.filterMap (l.fit? (s.role "top" l)))))
        s.panes (s.afterAll "top" inputs).panes := by
  intro s inputs
  have hrest : ∀ l ∈ s.panes, l.id ≠ "top" → ∀ c ∈ l.controllers.controllers, c.isAtRest = true := by decide +kernel
  exact ⟨hrest, by decide +kernel, by decide +kernel, slaves_only_fit hrest inputs⟩

/-- A double click for all axes on the top pane fits the y axis of the bottom pane. -/
theorem slave_fits_y :
    let s := stacked .xy
    let clicked := s.afterAll "top" [.mouse .doubleClick (.new ⟨160, 120⟩ .onlyLeft 0) false]
    s.panes.map (·.id) = ["top", "bottom"] ∧
      (∀ l ∈ s.panes, ∀ c ∈ l.controllers.controllers, c.isAtRest = true) ∧
      s.shownOn "bottom" "y" = some (some 1, some 2) ∧ clicked.shownOn "bottom" "y" = some (some 0, some 5) := by
  intro s clicked
  exact ⟨by decide +kernel, by decide +kernel, by decide +kernel, by decide +kernel⟩

end LinkedPanes

end ChartGestures
