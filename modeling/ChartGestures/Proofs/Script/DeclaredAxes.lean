import ChartGestures.Number.ExactDecimal
import ChartGestures.Proofs.Gesture.WheelTurns
import ChartGestures.Proofs.Script.Start

/-!
# Declared axes

Everything in a replay addresses the axes by name, and finds the first of the name, an x axis before a y axis. Where the
names that a script declares are distinct, each axis is found for itself: it is reported by what it shows itself, and a
turn of the wheel zooms it once. A script may also declare a name twice. Its second bearer is then never found, and the
first stands in for it.
-/

namespace ChartGestures

/-- What is reported of an axis. -/
def ChartAxis.report [Decimals Float] (a : ChartAxis Float) : AxisReport where
  id := a.id
  min := a.visibleRange.preciseBounds.1
  max := a.visibleRange.preciseBounds.2
  range := a.visibleRange.text

/-! ### Names -/

theorem Replay.report_eq [Decimals Float] {r : Replay} (hdistinct : (r.pane.axes.map (·.id)).Nodup) :
    r.report = r.pane.axes.map (·.report) := by
  have hfound : ∀ a ∈ r.pane.axes, ((fun id => (r.pane.axis? id).map ChartAxis.report) ∘ (·.id)) a = some a.report :=
    fun a ha => congrArg (Option.map ChartAxis.report) (Pane.axis?_of_mem hdistinct ha)
  have hreport : r.report = (r.pane.axes.map (·.id)).filterMap fun id => (r.pane.axis? id).map ChartAxis.report := rfl
  rw [hreport, List.filterMap_map, List.filterMap_congr hfound, List.filterMap_eq_map']

theorem InteractionConfig.wheelZoom_of_sound {config : InteractionConfig Float} (h : config.fault? = none) :
    0 < config.wheelZoom.growFactor ∧ config.wheelZoom.growFactor < 1 ∧ 0 < config.wheelZoom.maxNotches := by
  rw [fault?] at h
  split at h
  · cases h
  · next hfactor =>
    split at h
    · cases h
    · next hnotches =>
      obtain ⟨hpositive, hsmall⟩ := not_not.1 hfactor
      exact ⟨hpositive, hsmall, not_not.1 hnotches⟩

/-! ### A script at work -/

/-- The settings that a controller has for the wheel. -/
def ControllerKind.wheelConfig? (config : InteractionConfig Float) (kind : ControllerKind) :
    Option (WheelZoomConfig Float) :=
  if kind = .wheelZoom then some config.wheelZoom else none

theorem ControllerKind.wheelConfig?_build [Decimals Float] {kind : ControllerKind} {id : OwnerId}
    {config : InteractionConfig Float} {c : Controller Float} (h : kind.build id config = .ok c) :
    c.wheelConfig? = kind.wheelConfig? config := by
  cases kind with
  | zoomPan =>
    rw [build, ZoomPan.new] at h
    cases hinertia : Inertia.new config.zoomPan.inertia with
    | error fault =>
      rw [hinertia] at h
      cases h
    | ok inertia =>
      rw [hinertia] at h
      cases h
      rfl
  | _ =>
    cases h
    rfl

namespace Script

variable [Decimals Float]

/-- The pane of a script has its axes, and the controllers that it lists have their settings. -/
structure Runs (s : Script) (config : InteractionConfig Float) (cs : List (Controller Float)) (p : Pane Float) :
    Prop where
  axes : p.IsOf s
  wheels : List.Forall₂ (fun kind c => c.wheelConfig? = kind.wheelConfig? config) s.controllers cs

namespace Runs

variable {s : Script} {config : InteractionConfig Float} {cs : List (Controller Float)} {p : Pane Float}

theorem each {f : Controller Float → Pane Float → Controller Float × Pane Float}
    (haxes : ∀ c (p : Pane Float), p.KeepsAxes (f c p).2) (hwheels : ∀ c p, (f c p).1.wheelConfig? = c.wheelConfig?)
    (h : s.Runs config cs p) : s.Runs config (ControllerGroup.each f cs p).1 (ControllerGroup.each f cs p).2 where
  axes := ControllerGroup.pane_each (fun c p hp => hp.keepsAxes (haxes c p)) cs h.axes
  wheels := ControllerGroup.forall₂_each (fun _ c p hc => (hwheels c p).trans hc) h.wheels p

theorem offer {react : Controller Float → Pane Float → Reaction Float (Controller Float)}
    (haxes : ∀ c (p : Pane Float), p.KeepsAxes (react c p).pane)
    (hwheels : ∀ c p, (react c p).controller.wheelConfig? = c.wheelConfig?) (handled : Bool) (h : s.Runs config cs p) :
    s.Runs config (ControllerGroup.offer react cs p handled).1 (ControllerGroup.offer react cs p handled).2.1 where
  axes := ControllerGroup.pane_offer (fun c p hp => hp.keepsAxes (haxes c p)) cs handled h.axes
  wheels := by
    refine ControllerGroup.forall₂_offer (fun _ c p hc => ?_) h.wheels p handled
    exact (hwheels c p).trans hc

theorem promote (args : TouchArgs Float) (ms : List (Manipulator Float)) {g : ControllerGroup (Controller Float)}
    (h : s.Runs config g.controllers p) :
    s.Runs config (ControllerGroup.promote args ms g p).1.controllers (ControllerGroup.promote args ms g p).2 where
  axes := by
    refine ControllerGroup.pane_promote ?_ ?_ ms g h.axes
    · exact fun kind m c p hp => hp.keepsAxes (c.keepsAxes_after p (.mouse kind _))
    · exact fun c p hp => hp.keepsAxes (c.keepsAxes_after p .lostCapture)
  wheels := by
    refine ControllerGroup.forall₂_promote ?_ ?_ ms h.wheels p
    · exact fun kind m _ c p hc => (c.wheelConfig?_after p (.mouse kind _)).trans hc
    · exact fun _ c p hc => (c.wheelConfig?_after p .lostCapture).trans hc

/-- One controller of the wheel takes the turns. -/
theorem pane_offer_wheel (h : s.Runs config cs p) (hone : s.controllers.count .wheelZoom = 1) (args : MouseArgs Float) :
    ∃ c : WheelZoom Float, c.config = config.wheelZoom ∧
      (ControllerGroup.offer (fun c => Controller.mouse .wheel c args) cs p false).2.1 = (c.wheel args p).pane := by
  have hcount : cs.countP (·.wheelConfig?.isSome) = s.controllers.count .wheelZoom := by
    rw [List.count]
    obtain ⟨-, hwheels⟩ := h
    generalize s.controllers = kinds at hwheels ⊢
    induction hwheels with
    | nil => rfl
    | @cons kind c _ _ hc _ ih =>
      rw [List.countP_cons, List.countP_cons, ih, hc]
      cases kind <;> rfl
  have hconfig : ∀ c ∈ cs, ∀ other, c.wheelConfig? = some other → other = config.wheelZoom := by
    refine ControllerGroup.forall_of_forall₂ (h.wheels.imp fun kind c hc other hother => ?_)
    rw [hother, ControllerKind.wheelConfig?] at hc
    split at hc
    · exact Option.some.inj hc
    · cases hc
  exact ControllerGroup.pane_offer_wheel (hcount.trans hone) hconfig args p

end Runs

end Script

namespace Replay

section

variable [Decimals Float] {s : Script} {config : InteractionConfig Float} {r : Replay}

theorem runs_ofScript (h : ofScript s config = .ok r) :
    s.Runs (s.config.getD config) r.group.controllers r.pane := by
  obtain ⟨-, pane, controllers, hpane, hcontrollers, rfl⟩ := ofScript_eq h
  have hbuilt : s.Runs (s.config.getD config) controllers pane :=
    ⟨isOf_buildPane hpane, (forall₂_buildControllers hcontrollers).imp fun _ _ ⟨_, hc⟩ =>
      ControllerKind.wheelConfig?_build hc⟩
  exact hbuilt.each Controller.keepsAxes_attached Controller.wheelConfig?_attached

theorem runs_runTimers {step limit : Nat} (positive : 0 < step) (h : s.Runs config r.group.controllers r.pane) :
    s.Runs config (runTimers step positive limit r).group.controllers (runTimers step positive limit r).pane := by
  fun_induction runTimers step positive limit r with
  | case1 r hrunning now group pane htick ih =>
    have hticked : s.Runs config (r.group.tick now r.pane).1.controllers (r.group.tick now r.pane).2 := by
      refine h.each (fun c p => ?_) fun c p => ?_
      · split
        · exact c.keepsAxes_after p (.tick now)
        · exact .refl p
      · split
        · exact c.wheelConfig?_after p (.tick now)
        · rfl
    rw [htick] at hticked
    exact ih hticked
  | case2 => exact h

theorem runs_advanceTo (h : s.Runs config r.group.controllers r.pane) (limit : Nat) :
    s.Runs config (r.advanceTo limit).group.controllers (r.advanceTo limit).pane :=
  runs_runTimers tickStep_pos h

theorem runs_apply (h : s.Runs config r.group.controllers r.pane) (e : ScriptEvent) :
    s.Runs config (r.apply e).group.controllers (r.apply e).pane := by
  have hadvanced := runs_advanceTo h e.time
  rw [apply]
  -- the replay advanced to the event is named, for a term with `advanceTo` in it would be run to be checked
  obtain ⟨r', hr'⟩ : ∃ r', r.advanceTo e.time = r' := ⟨_, rfl⟩
  rw [hr'] at hadvanced ⊢
  have hmouse (kind : MouseEventKind) (args : MouseArgs Float) :
      s.Runs config (r'.dispatchMouse kind args).group.controllers (r'.dispatchMouse kind args).pane :=
    hadvanced.offer (fun c p => c.keepsAxes_after p (.mouse kind args))
      (fun c p => c.wheelConfig?_after p (.mouse kind args)) false
  cases e.input with
  | mouse kind point buttons => exact hmouse kind _
  | wheel point delta => exact hmouse .wheel _
  | touch action touches =>
    let args : TouchArgs Float := ⟨touches.map fun t => ⟨t.id, t.position, action⟩, true, e.time⟩
    have hoffered := hadvanced.offer (fun c p => c.keepsAxes_after p (.touch action args))
      (fun c p => c.wheelConfig?_after p (.touch action args)) false
    exact Script.Runs.promote (g := { r'.group with controllers := _ }) args args.manipulators hoffered
  | advance => exact hadvanced

theorem runs_foldl (h : s.Runs config r.group.controllers r.pane) (events : List ScriptEvent) :
    s.Runs config (events.foldl apply r).group.controllers (events.foldl apply r).pane := by
  induction events generalizing r with
  | nil => exact h
  | cons e rest ih => exact ih (runs_apply h e)

/-- A turn of the wheel zooms the axes as they are when it comes. -/
theorem family_apply_wheel (h : s.Runs config r.group.controllers r.pane) (hdistinct : (s.axes.map (·.id)).Nodup)
    (hone : s.controllers.count .wheelZoom = 1) (hdirection : config.wheelZoom.direction = .xy)
    (haction : config.wheelZoom.action = .zoom) (atMs : Nat) (point : Point Float) {delta : Float}
    (hdelta : (delta == 0) = false) (family : AxisFamily) :
    let e : ScriptEvent := ⟨atMs, .wheel point delta⟩
    let scale := WheelZoom.scaleFor config.wheelZoom (WheelZoom.notches config.wheelZoom delta)
    (r.apply e).pane.family family =
      ((r.advanceTo e.time).pane.family family).map fun a => (a.zoomAt point scale).axis := by
  intro e scale
  have hadvanced := runs_advanceTo h e.time
  rw [apply]
  obtain ⟨r', hr'⟩ : ∃ r', r.advanceTo e.time = r' := ⟨_, rfl⟩
  rw [hr'] at hadvanced ⊢
  let args : MouseArgs Float := { MouseArgs.new point .none e.time with wheelDelta := delta }
  have hmaster : args.isMaster = true := rfl
  have hdistinct' := hadvanced.axes.nodup hdistinct
  obtain ⟨c, hconfig, hpane⟩ := hadvanced.pane_offer_wheel hone args
  have hturned := WheelZoom.family_wheel hdistinct' (hconfig ▸ hdirection) hmaster hdelta family
  rw [← hpane, hconfig] at hturned
  refine hturned.trans (List.map_congr_left fun a _ => ?_)
  rw [WheelZoom.turn_of_zoom haction]
  rfl

theorem runs_drain (h : s.Runs config r.group.controllers r.pane) :
    s.Runs config r.drain.group.controllers r.drain.pane := by
  rw [drain]
  exact runs_advanceTo h (r.now + maxDrain)

/-- The controllers let go of the pane. -/
def letGo (r : Replay) : Replay :=
  { r with group := (r.group.detach r.pane).1, pane := (r.group.detach r.pane).2 }

theorem isOf_letGo (h : s.Runs config r.group.controllers r.pane) : r.letGo.pane.IsOf s := by
  show (r.group.detach r.pane).2.IsOf s
  unfold ControllerGroup.detach
  split
  · exact h.axes
  · exact ControllerGroup.pane_each (fun c p hp => hp.keepsAxes (c.keepsAxes_detached p)) _ h.axes

theorem finish_eq (r : Replay) : r.finish = r.drain.letGo.report := by
  have hfinish : finish = fun r => r.drain.letGo.report := by
    delta finish
    -- here too, `drain` is named so that it is not run
    obtain ⟨drained, hdrained⟩ : ∃ drained, drain = drained := ⟨_, rfl⟩
    rw [hdrained]
    rfl
  rw [hfinish]

/-- Whatever the events of a script whose axes have distinct names: the pane has the axes that the script declares, in
their order, and what is reported is what each of them shows, in the end too, when the timers have stopped and the
controllers have let go. Where one controller is of the wheel, a turn that zooms both families zooms each axis once. It
grows every axis that has a length around a point that is somewhere, unless the turn is no number. -/
theorem declared_axes_are_themselves (hstart : ofScript s config = .ok r) (hdistinct : (s.axes.map (·.id)).Nodup)
    (events : List ScriptEvent) :
    let reached := events.foldl apply r
    let wheel := (s.config.getD config).wheelZoom
    reached.pane.IsOf s ∧ reached.report = reached.pane.axes.map (·.report) ∧
      (reached.drain.letGo.pane.IsOf s ∧ reached.finish = reached.drain.letGo.pane.axes.map (·.report)) ∧
      (s.controllers.count .wheelZoom = 1 → wheel.direction = .xy → wheel.action = .zoom →
        ∀ (atMs : Nat) (point : Point Float) (delta : Float), (delta == 0) = false →
          let e : ScriptEvent := ⟨atMs, .wheel point delta⟩
          let before := (reached.advanceTo e.time).pane
          let scale := WheelZoom.scaleFor wheel (WheelZoom.notches wheel delta)
          before.IsOf s ∧
          (∀ family, (reached.apply e).pane.family family =
            (before.family family).map fun a => (a.zoomAt point scale).axis) ∧
          ∀ a ∈ before.axes, 0 < a.pixelExtent → Scalar.isFinite a.pixelExtent = true →
            Scalar.isFinite (a.pixelOffset point) = true → Scalar.isNaN delta = false →
              ∃ low high, a.zoomFractionsAt point scale = some (low, high) ∧
                a.zoomAt point scale = a.zoomBy low high) := by
  intro reached wheel
  have hruns : s.Runs (s.config.getD config) reached.group.controllers reached.pane :=
    runs_foldl (runs_ofScript hstart) events
  refine ⟨hruns.axes, report_eq (hruns.axes.nodup hdistinct), ?_, ?_⟩
  · have hlast := isOf_letGo (runs_drain hruns)
    exact ⟨hlast, (finish_eq reached).trans (report_eq (hlast.nodup hdistinct))⟩
  · intro hone hdirection haction atMs point delta hdelta e before scale
    have hbefore : before.IsOf s := (runs_advanceTo hruns e.time).axes
    have hzooms := family_apply_wheel hruns hdistinct hone hdirection haction atMs point hdelta
    refine ⟨hbefore, hzooms, ?_⟩
    intro a _ hlength hextent hanchor hnumber
    obtain ⟨hpositive, hsmall, hnotches⟩ := InteractionConfig.wheelZoom_of_sound (ofScript_eq hstart).1
    have hscale : Scalar.isFinite scale = true := WheelZoom.isFinite_scaleFor hpositive hsmall hnotches hnumber
    have hzero : Scalar.isNaN (0 : Float) = false := by decide +kernel
    have hlength' : ¬ a.pixelExtent ≤ 0 := fun hle =>
      (Scalar.not_lt_iff_le hzero (Binary.isNaN_of_isFinite hextent)).2 hle hlength
    exact ChartAxis.zoomAt_eq_zoomBy hlength' hextent hanchor hscale

end

/-- A pan moves both axes, and a turn of the wheel zooms each of them once. -/
theorem declared_axes_are_themselves_turned :
    let axis (id : String) (family : AxisFamily) (last : Float) : AxisSpec :=
      ⟨id, family, none, "double", (0, last), some (0, 1000), false, false, .never, .zero, none⟩
    let events : List ScriptEvent :=
      [⟨0, .mouse .down ⟨200, 150⟩ .onlyLeft⟩, ⟨16, .mouse .move ⟨180, 160⟩ .onlyLeft⟩, ⟨90, .mouse .up ⟨180, 160⟩ .none⟩]
    let s : Script :=
      ⟨⟨0, 0, 400, 300⟩, .cartesian, [axis "y" .y 10, axis "x" .x 100], [.zoomPan, .wheelZoom], none, events⟩
    let turn : ScriptEvent := ⟨120, .wheel ⟨100, 150⟩ 240⟩
    let scale := WheelZoom.scaleFor (.default : WheelZoomConfig Float) (WheelZoom.notches .default 240)
    s.fault? = none ∧ (s.axes.map (·.id)).Nodup ∧ ∃ r, ofScript s .default = .ok r ∧
      let reached := events.foldl apply r
      reached.pane.IsOf s ∧ reached.report = reached.pane.axes.map (·.report) ∧
        ∀ family, (reached.apply turn).pane.family family =
          ((reached.advanceTo turn.time).pane.family family).map fun a => (a.zoomAt ⟨100, 150⟩ scale).axis := by
  intro axis events s turn scale
  have hvalid : s.fault? = none := by decide +kernel
  have hdistinct : (s.axes.map (·.id)).Nodup := by decide
  have hstarts : (ofScript s .default).isOk = true := by decide +kernel
  cases hstart : ofScript s .default with
  | error fault =>
    rw [hstart] at hstarts
    cases hstarts
  | ok r =>
    obtain ⟨haxes, hreport, -, hturn⟩ := declared_axes_are_themselves hstart hdistinct events
    obtain ⟨-, hzooms, -⟩ := hturn rfl rfl rfl 120 ⟨100, 150⟩ 240 (by decide +kernel)
    exact ⟨hvalid, hdistinct, r, rfl, haxes, hreport, hzooms⟩

/-- A y axis of the name of an x axis is reported as the x axis, and a turn of the wheel zooms the x axis twice and the
y axis not at all. -/
theorem namesakes_are_confused :
    let axis (family : AxisFamily) (last : Float) : AxisSpec :=
      ⟨"v", family, none, "double", (0, last), none, false, false, .never, .zero, none⟩
    let s : Script := ⟨⟨0, 0, 400, 300⟩, .cartesian, [axis .x 100, axis .y 10], [.wheelZoom], none, []⟩
    let scale := WheelZoom.scaleFor (.default : WheelZoomConfig Float) (WheelZoom.notches .default 120)
    let shown (entries : List AxisReport) : List (String × Option Rat × Option Rat) :=
      entries.map fun entry => (entry.id, Scalar.toRat? entry.min, Scalar.toRat? entry.max)
    s.fault? = none ∧ ∃ r, ofScript s .default = .ok r ∧
      let turned := r.apply ⟨0, .wheel ⟨200, 150⟩ 120⟩
      shown (r.pane.axes.map (·.report)) = [("v", some 0, some 100), ("v", some 0, some 10)] ∧
        shown r.report = [("v", some 0, some 100), ("v", some 0, some 100)] ∧
        shown (turned.pane.axes.map (·.report)) = [("v", some 9.5, some 90.5), ("v", some 0, some 10)] ∧
        shown (r.pane.axes.map fun a => (a.zoomAt ⟨200, 150⟩ scale).axis.report) =
          [("v", some 5, some 95), ("v", some 0.5, some 9.5)] := by
  intro axis s scale shown
  have hvalid : s.fault? = none := by decide +kernel
  let start := (ofScript s .default).toOption
  have hshows : start.map (fun r => shown (r.pane.axes.map (·.report))) =
      some [("v", some 0, some 100), ("v", some 0, some 10)] := by decide +kernel
  have hreport : start.map (fun r => shown r.report) =
      some [("v", some 0, some 100), ("v", some 0, some 100)] := by decide +kernel
  have hturned : start.map (fun r => shown ((r.apply ⟨0, .wheel ⟨200, 150⟩ 120⟩).pane.axes.map (·.report))) =
      some [("v", some 9.5, some 90.5), ("v", some 0, some 10)] := by decide +kernel
  have honce : start.map (fun r => shown (r.pane.axes.map fun a => (a.zoomAt ⟨200, 150⟩ scale).axis.report)) =
      some [("v", some 5, some 95), ("v", some 0.5, some 9.5)] := by decide +kernel
  cases hstart : ofScript s .default with
  | error fault =>
    simp only [start, hstart] at hreport
    cases hreport
  | ok r =>
    simp only [start, hstart, Except.toOption, Option.map_some, Option.some.injEq] at hshows hreport hturned honce
    exact ⟨hvalid, r, rfl, hshows, hreport, hturned, honce⟩

end Replay

end ChartGestures
