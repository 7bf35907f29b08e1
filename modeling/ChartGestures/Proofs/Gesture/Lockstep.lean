import ChartGestures.Proofs.Gesture.XAxes

/-!
# Controllers in step

Two panning controllers with one configuration, on two panes with the same x axes. An event may reach one of them as the
master and the other as a slave; only the master moves y axes. Their drags and their coasting stay alike through presses
in the viewport, moves, releases and ticks, and as long as one of them moves, the watches of both have seen changes from
outside or none has. A turn of the wheel keeps that up if it changes an x axis whenever it changes a y axis. Controllers
that pan no x axis need no such care.
-/

namespace ChartGestures

variable {α : Type} [Scalar α] [Decimals α]

/-! ### The two controllers -/

namespace ZoomPan

/-- Drags alike in all that matters to the x axes of the given names. -/
structure SameDrag (ids : List String) (s s' : PanSession α) : Prop where
  target : s'.target.xPart = s.target.xPart
  startPoint : s'.startPoint = s.startPoint
  lastPoint : s'.lastPoint = s.lastPoint
  lastTime : s'.lastTime = s.lastTime
  velocity : s'.velocity = s.velocity
  starts : SameStarts ids s.categoryStarts s'.categoryStarts

/-- The controller holds the pointer while it drags, and nobody does otherwise. -/
def HoldsPointer (c : ZoomPan α) (p : Pane α) : Prop := p.capturedBy = if c.isDragging then some c.id else none

/-- Whether a drag is on or the pan coasts. -/
def isMoving (c : ZoomPan α) : Bool := c.isDragging || c.inertia.isActive

/-- Two controllers that pan x axes, in step: the drags and the coasting are alike, and as long as one is on, both have
seen changes from outside or none of them has. -/
structure InStep (c : ZoomPan α) (p : Pane α) (c' : ZoomPan α) (p' : Pane α) : Prop where
  config : c'.config = c.config
  panes : SameX p p'
  pointer : c.HoldsPointer p
  pointer' : c'.HoldsPointer p'
  drags : (c.session = none ∧ c'.session = none) ∨
    ∃ s s', c.session = some s ∧ c'.session = some s' ∧ SameDrag (p.axisIds .x) s s'
  coasts : Inertia.Alike (p.axisIds .x) c.inertia c'.inertia
  watches : ∃ external external', c.Watches p external ∧ c'.Watches p' external' ∧
    (c.isMoving = true → external' = external)

variable {c c' : ZoomPan α} {p p' : Pane α}

theorem InStep.isMoving (h : InStep c p c' p') : c'.isMoving = c.isMoving := by
  rw [ZoomPan.isMoving, ZoomPan.isMoving, h.coasts.isActive]
  rcases h.drags with ⟨hs, hs'⟩ | ⟨s, s', hs, hs', -⟩
  · rw [isDragging, isDragging, hs, hs']
  · rw [isDragging, isDragging, hs, hs']
    rfl

/-- A press on the plotting area, or on a pane that is not its own. -/
def Hits (args : MouseArgs α) (p : Pane α) : Prop := args.isMaster = true → p.viewport.contains args.point = true

theorem mouseDown_starts (hfree : c.session = none) (hpointer : c.HoldsPointer p) (args : MouseArgs α)
    (haccepts : c.config.executeOn.accepts args.buttons = true) (hhits : Hits args p) :
    c.mouseDown args p =
      let q := ({ p with capturedBy := some c.id } : Pane α)
      ⟨{ c.resetInertia with session := some ⟨c.target args.isMaster, args.point, args.point, args.time, .zero,
          (c.target args.isMaster).categoryStarts (q.takeExternal c.id).2⟩ },
        (q.takeExternal c.id).2, true⟩ := by
  have hguard : (c.session.isSome || !c.config.executeOn.accepts args.buttons ||
      args.isMaster && !p.viewport.contains args.point) = false := by
    rw [hfree, haccepts]
    cases hmaster : args.isMaster with
    | false => rfl
    | true =>
      rw [hhits hmaster]
      rfl
  have hcapture : p.capture c.id = some { p with capturedBy := some c.id } := by
    rw [HoldsPointer, isDragging, hfree] at hpointer
    rw [Pane.capture, hpointer]
    rfl
  rw [mouseDown, hguard, hcapture]
  rfl

theorem mouseDown_ignores (args : MouseArgs α)
    (h : c.session.isSome = true ∨ c.config.executeOn.accepts args.buttons = false) :
    c.mouseDown args p = .ignore c p := by
  have hguard : (c.session.isSome || !c.config.executeOn.accepts args.buttons ||
      args.isMaster && !p.viewport.contains args.point) = true := by
    rcases h with h | h
    · rw [h]
      rfl
    · rw [h, Bool.not_false, Bool.or_true]
      rfl
  rw [mouseDown, if_pos hguard]

theorem dragging {s : PanSession α} (h : c.session = some s) : c.isDragging = true := by
  rw [isDragging, h, Option.isSome_some]

/-- Both panes take the press, or none does. -/
theorem InStep.mouseDown (h : InStep c p c' p') (args : MouseArgs α) (m m' : Bool)
    (hhits : c.session = none → c.config.executeOn.accepts args.buttons = true → Hits (args.given m) p)
    (hhits' : c'.session = none → c'.config.executeOn.accepts args.buttons = true → Hits (args.given m') p') :
    let r := c.mouseDown (args.given m) p
    let r' := c'.mouseDown (args.given m') p'
    InStep r.controller r.pane r'.controller r'.pane := by
  dsimp only
  cases haccepts : c.config.executeOn.accepts args.buttons with
  | false =>
    have haccepts' : c'.config.executeOn.accepts args.buttons = false := h.config ▸ haccepts
    rw [mouseDown_ignores (args.given m) (.inr haccepts), mouseDown_ignores (args.given m') (.inr haccepts')]
    exact h
  | true =>
    have haccepts' : c'.config.executeOn.accepts args.buttons = true := h.config ▸ haccepts
    rcases h.drags with ⟨hs, hs'⟩ | ⟨s, s', hs, hs', -⟩
    · rw [mouseDown_starts hs h.pointer (args.given m) haccepts (hhits hs haccepts),
        mouseDown_starts hs' h.pointer' (args.given m') haccepts' (hhits' hs' haccepts')]
      obtain ⟨external, external', hwatch, hwatch', -⟩ := h.watches
      have htaken : c.Watches ({ p with capturedBy := some c.id }.takeExternal c.id).2 false :=
        (watches_takeExternal (p := { p with capturedBy := some c.id }) hwatch).2
      have htaken' : c'.Watches ({ p' with capturedBy := some c'.id }.takeExternal c'.id).2 false :=
        (watches_takeExternal (p := { p' with capturedBy := some c'.id }) hwatch').2
      have hpanes : SameX ({ p with capturedBy := some c.id }.takeExternal c.id).2
          ({ p' with capturedBy := some c'.id }.takeExternal c'.id).2 :=
        ⟨h.panes.viewport, h.panes.xAxes, h.panes.separate, h.panes.separate'⟩
      have htarget : (c'.target m').xPart = (c.target m).xPart := by
        rw [ZoomPan.target, ZoomPan.target, h.config]
        rfl
      have hdrag := PanTarget.sameStarts_now hpanes htarget
      exact ⟨h.config, hpanes, rfl, rfl, .inr ⟨_, _, rfl, rfl, htarget, rfl, rfl, rfl, rfl, hdrag⟩, h.coasts.reset, false,
        false, htaken, htaken', fun _ => rfl⟩
    · rw [mouseDown_ignores _ (.inl (dragging hs)), mouseDown_ignores _ (.inl (dragging hs'))]
      exact h

/-! ### Moves -/

theorem sameDrag_rebase {s s' : PanSession α} (hs : SameDrag (p.axisIds .x) s s') (hp : SameX p p') (external : Bool) :
    SameDrag (p.axisIds .x) (rebase s external p) (rebase s' external p') := by
  cases external with
  | false => exact hs
  | true =>
    exact ⟨hs.target, hs.lastPoint, hs.lastPoint, hs.lastTime, hs.velocity, PanTarget.sameStarts_now hp hs.target⟩

theorem sameDrag_moved {ids : List String} {s s' : PanSession α} (hs : SameDrag ids s s') (config : ZoomPanConfig α)
    (args : MouseArgs α) (m m' : Bool) :
    SameDrag ids (moved config s (args.given m)) (moved config s' (args.given m')) := by
  refine ⟨hs.target, hs.startPoint, rfl, rfl, ?_, hs.starts⟩
  change velocityAt config s' _ = velocityAt config s _
  rw [velocityAt, velocityAt, hs.lastTime, hs.velocity, hs.lastPoint]

theorem sameX_panTo (hp : SameX p p') {s s' : PanSession α} (hs : SameDrag (p.axisIds .x) s s') (args : MouseArgs α)
    (m m' : Bool) :
    SameX (c.panTo s (args.given m) p) (c'.panTo s' (args.given m') p') := by
  have hbegun := SameX.notifier hp (p.notifier.beginOwnWrites c.id) (p'.notifier.beginOwnWrites c'.id)
  have hpanned := PanTarget.sameX_pan (args.point - s.lastPoint) (args.point - s.startPoint) hbegun hs.target hs.starts
  rw [panTo, panTo, hs.lastPoint, hs.startPoint]
  exact SameX.notifier (SameX.extents hpanned _ _) _ _

theorem InStep.mouseMove (h : InStep c p c' p') (args : MouseArgs α) (m m' : Bool) :
    let r := c.mouseMove (args.given m) p
    let r' := c'.mouseMove (args.given m') p'
    InStep r.controller r.pane r'.controller r'.pane := by
  dsimp only
  rcases h.drags with ⟨hs, hs'⟩ | ⟨s, s', hs, hs', hdrag⟩
  · rw [ZoomPan.mouseMove, ZoomPan.mouseMove, hs, hs']
    exact h
  · obtain ⟨external, external', hwatch, hwatch', hsame⟩ := h.watches
    have hmoving : c.isMoving = true := by rw [ZoomPan.isMoving, dragging hs, Bool.true_or]
    obtain ⟨hexternal, htaken⟩ := watches_takeExternal hwatch
    obtain ⟨hexternal', htaken'⟩ := watches_takeExternal hwatch'
    rw [mouseMove_of_session hs hexternal, mouseMove_of_session hs' (hexternal'.trans (hsame hmoving))]
    have hpanes : SameX (p.takeExternal c.id).2 (p'.takeExternal c'.id).2 := SameX.notifier h.panes _ _
    have hrebased := sameDrag_rebase (p := (p.takeExternal c.id).2) hdrag hpanes external
    have hlayout := c.keepsLayout_panTo (rebase s external (p.takeExternal c.id).2) (args.given m)
      (p.takeExternal c.id).2
    have hlayout' := c'.keepsLayout_panTo (rebase s' external (p'.takeExternal c'.id).2) (args.given m')
      (p'.takeExternal c'.id).2
    have hpointer : p.capturedBy = some c.id := by rw [h.pointer, dragging hs, if_pos rfl]
    have hpointer' : p'.capturedBy = some c'.id := by rw [h.pointer', dragging hs', if_pos rfl]
    refine ⟨h.config, sameX_panTo hpanes hrebased args m m', ?_, ?_, .inr ⟨_, _, rfl, rfl, ?_⟩, ?_, false, false,
      watches_panTo htaken .., watches_panTo htaken' .., fun _ => rfl⟩
    · exact hlayout.capturedBy.trans hpointer
    · exact hlayout'.capturedBy.trans hpointer'
    · rw [hlayout.axisIds, h.config]
      exact sameDrag_moved hrebased c.config args m m'
    · rw [hlayout.axisIds]
      exact h.coasts

/-! ### Releases and ticks -/

theorem alike_released {ids : List String} (hconfig : c'.config = c.config)
    (hinertia : Inertia.Alike ids c.inertia c'.inertia) {s s' : PanSession α} (hs : SameDrag ids s s')
    (args : MouseArgs α) (m m' : Bool) :
    Inertia.Alike ids (c.released s (args.given m)) (c'.released s' (args.given m')) := by
  rw [released, released, hconfig, hs.lastTime]
  split
  · exact hinertia
  · rw [hs.velocity, hs.lastPoint, hs.startPoint]
    exact hinertia.start hs.target hs.starts ..

theorem InStep.mouseUp (h : InStep c p c' p') (args : MouseArgs α) (m m' : Bool) :
    let r := c.mouseUp (args.given m) p
    let r' := c'.mouseUp (args.given m') p'
    InStep r.controller r.pane r'.controller r'.pane := by
  dsimp only
  rcases h.drags with ⟨hs, hs'⟩ | ⟨s, s', hs, hs', hdrag⟩
  · rw [ZoomPan.mouseUp, ZoomPan.mouseUp, hs, hs']
    exact h
  · obtain ⟨external, external', hwatch, hwatch', hsame⟩ := h.watches
    have hmoving : c.isMoving = true := by rw [ZoomPan.isMoving, dragging hs, Bool.true_or]
    have hpanes : SameX (p.release c.id) (p'.release c'.id) := by
      obtain ⟨holder, hholder⟩ : ∃ holder, p.release c.id = { p with capturedBy := holder } := ⟨_, Pane.release_eq ..⟩
      obtain ⟨holder', hholder'⟩ : ∃ holder, p'.release c'.id = { p' with capturedBy := holder } := ⟨_, Pane.release_eq ..⟩
      rw [hholder, hholder']
      exact ⟨h.panes.viewport, h.panes.xAxes, h.panes.separate, h.panes.separate'⟩
    have hids : (p.release c.id).axisIds .x = p.axisIds .x := by
      rw [Pane.release_eq]
      rfl
    have hinertia := alike_released h.config h.coasts hdrag args m m'
    rw [mouseUp_of_session hs, mouseUp_of_session hs']
    refine ⟨h.config, hpanes, ?_, ?_, .inl ⟨rfl, rfl⟩, ?_, external, external', watches_release hwatch _,
      watches_release hwatch' _, fun _ => hsame hmoving⟩
    · change (p.release c.id).capturedBy = none
      rw [Pane.capturedBy_release, if_pos (by rw [h.pointer, dragging hs, if_pos rfl])]
    · change (p'.release c'.id).capturedBy = none
      rw [Pane.capturedBy_release, if_pos (by rw [h.pointer', dragging hs', if_pos rfl])]
    · rw [hids]
      exact hinertia

theorem sameX_coasted (hinertia : Inertia.Alike (p.axisIds .x) c.inertia c'.inertia) (hp : SameX p p') (now : Nat) :
    Inertia.Alike (p.axisIds .x) (c.coasted now p).1 (c'.coasted now p').1 ∧
      SameX (c.coasted now p).2 (c'.coasted now p').2 := by
  have hbegun := SameX.notifier hp (p.notifier.beginOwnWrites c.id) (p'.notifier.beginOwnWrites c'.id)
  rw [coasted, coasted, Inertia.tick, Inertia.tick, hinertia.timer]
  have hpolled : Inertia.Alike (p.axisIds .x) { c.inertia with timer := (c.inertia.timer.poll now).2 }
      { c'.inertia with timer := (c.inertia.timer.poll now).2 } :=
    ⟨hinertia.config, rfl, hinertia.velocity, hinertia.categoryOffset, hinertia.targets, hinertia.starts⟩
  exact Inertia.Alike.steps (p := { p with notifier := p.notifier.beginOwnWrites c.id }) _ hpolled hbegun

theorem InStep.tick (h : InStep c p c' p') (now : Nat) :
    InStep (c.tick now p).1 (c.tick now p).2 (c'.tick now p').1 (c'.tick now p').2 := by
  have hactives := h.coasts.isActive
  cases hactive : c.inertia.isActive with
  | false =>
    rw [hactive] at hactives
    rw [tick_of_idle hactive, tick_of_idle hactives]
    exact h
  | true =>
    rw [hactive] at hactives
    obtain ⟨external, external', hwatch, hwatch', hsame⟩ := h.watches
    have hmoving : c.isMoving = true := by rw [ZoomPan.isMoving, hactive, Bool.or_true]
    have hafter := watches_tick hactive hwatch now
    have hafter' := watches_tick hactives hwatch' now
    obtain ⟨hexternal, -⟩ := watches_takeExternal hwatch
    obtain ⟨hexternal', -⟩ := watches_takeExternal hwatch'
    rw [hsame hmoving] at hexternal'
    cases external with
    | true =>
      rw [tick_of_external hactive hexternal] at hafter ⊢
      rw [tick_of_external hactives hexternal'] at hafter' ⊢
      exact ⟨h.config, SameX.notifier h.panes _ _, h.pointer, h.pointer', h.drags, h.coasts.reset, false, false, hafter,
        hafter', fun _ => rfl⟩
    | false =>
      rw [tick_of_quiet hactive hexternal] at hafter ⊢
      rw [tick_of_quiet hactives hexternal'] at hafter' ⊢
      have hpanes : SameX (p.takeExternal c.id).2 (p'.takeExternal c'.id).2 := SameX.notifier h.panes _ _
      obtain ⟨hinertia, hcoasted⟩ := sameX_coasted (p := (p.takeExternal c.id).2) h.coasts hpanes now
      have hlayout := c.keepsLayout_coasted now (p.takeExternal c.id).2
      have hlayout' := c'.keepsLayout_coasted now (p'.takeExternal c'.id).2
      refine ⟨h.config, SameX.notifier hcoasted _ _, hlayout.capturedBy.trans h.pointer,
        hlayout'.capturedBy.trans h.pointer', ?_, ?_, false, false, hafter, hafter', fun _ => rfl⟩
      · change _ ∨ ∃ s s', _ ∧ _ ∧ SameDrag ((c.coasted now (p.takeExternal c.id).2).2.axisIds .x) s s'
        rw [hlayout.axisIds]
        exact h.drags
      · change Inertia.Alike ((c.coasted now (p.takeExternal c.id).2).2.axisIds .x) _ _
        rw [hlayout.axisIds]
        exact hinertia

end ZoomPan

theorem ZoomPan.InStep.wheel {c c' : ZoomPan α} {w w' : WheelZoom α} {p p' : Pane α} (h : InStep c p c' p')
    (hconfig : w'.config = w.config) (args : MouseArgs α) (m m' : Bool)
    (honly : m = true → c.isMoving = true → w.publishes args p .y = true → w.publishes args p .x = true)
    (honly' : m' = true → c'.isMoving = true → w'.publishes args p' .y = true → w'.publishes args p' .x = true) :
    InStep c (w.wheel (args.given m) p).pane c' (w'.wheel (args.given m') p').pane := by
  obtain ⟨external, external', hwatch, hwatch', hsame⟩ := h.watches
  have hlayout := w.keepsLayout_wheel (args.given m) p
  have hlayout' := w'.keepsLayout_wheel (args.given m') p'
  refine ⟨h.config, WheelZoom.sameX_wheel hconfig h.panes args m m', hlayout.capturedBy.trans h.pointer,
    hlayout'.capturedBy.trans h.pointer', ?_, ?_, _, _, WheelZoom.watches_wheel hwatch h.panes.separate _,
    WheelZoom.watches_wheel hwatch' h.panes.separate' _, fun hmoving => ?_⟩
  · rw [hlayout.axisIds]
    exact h.drags
  · rw [hlayout.axisIds]
    exact h.coasts
  · -- a change of a y axis comes with one of an x axis, and those are the same on both panes
    have hx := WheelZoom.publishes_congr hconfig h.panes args m m'
    have habsorb {m x y : Bool} (hxy : m = true → y = true → x = true) : (x || m && y) = x := by
      cases m with
      | false => simp
      | true => cases y with
        | false => simp
        | true => simp [hxy rfl rfl]
    have hleft : (w.publishes (args.given m) p .x || m && w.publishes (args.given m) p .y) =
        w.publishes (args.given m) p .x := habsorb fun hm hy => honly hm hmoving hy
    have hright : (w'.publishes (args.given m') p' .x || m' && w'.publishes (args.given m') p' .y) =
        w'.publishes (args.given m') p' .x := habsorb fun hm hy => honly' hm (h.isMoving ▸ hmoving) hy
    rw [hleft, hright, hx, hsame hmoving]

/-! ### Pans of y axes only -/

namespace ZoomPan

/-- The controller pans no x axis. -/
structure IsStill (c : ZoomPan α) : Prop where
  config : c.config.direction.includesX = false
  session : ∀ s, c.session = some s → s.target.direction.includesX = false
  inertia : c.inertia.IsStill

variable {c : ZoomPan α} {p : Pane α}

theorem IsStill.mouseDown (h : c.IsStill) (args : MouseArgs α) (p : Pane α) :
    (c.mouseDown args p).controller.IsStill ∧ p.KeepsX (c.mouseDown args p).pane := by
  unfold ZoomPan.mouseDown
  split
  · exact ⟨h, .refl p⟩
  cases hcapture : p.capture c.id with
  | none => exact ⟨h, .refl p⟩
  | some q =>
    obtain ⟨-, rfl⟩ := Pane.capture_eq_some hcapture
    refine ⟨⟨h.config, fun s hs => ?_, Inertia.isStill_reset _⟩, ⟨rfl, rfl, rfl⟩⟩
    cases hs
    exact h.config

theorem keepsX_panTo (hp : p.IsSeparate) {s : PanSession α} (hs : s.target.direction.includesX = false)
    (args : MouseArgs α) : p.KeepsX (c.panTo s args p) := by
  refine .of_layout (keepsLayout_panTo ..) ?_
  have hbegun : Pane.IsSeparate { p with notifier := p.notifier.beginOwnWrites c.id } := hp
  have hpanned := PanTarget.xAxes_pan_of_not_includesX (args.point - s.lastPoint) (args.point - s.startPoint)
    s.categoryStarts hbegun hs
  have hseparate := hbegun.of_layout
    (s.target.keepsLayout_pan (args.point - s.lastPoint) (args.point - s.startPoint) s.categoryStarts _)
  rw [panTo, Pane.asOwnWrites]
  dsimp only
  split
  · exact (Pane.xAxes_zoomFamilyToExtents_y hseparate 0).trans hpanned
  · exact hpanned

theorem IsStill.mouseMove (h : c.IsStill) (hp : p.IsSeparate) (args : MouseArgs α) :
    (c.mouseMove args p).controller.IsStill ∧ p.KeepsX (c.mouseMove args p).pane := by
  cases hs : c.session with
  | none =>
    rw [ZoomPan.mouseMove, hs]
    exact ⟨h, .refl p⟩
  | some s =>
    have hdirection (external : Bool) (q : Pane α) : (rebase s external q).target.direction.includesX = false := by
      rw [target_rebase]
      exact h.session s hs
    have htaken : p.KeepsX (p.takeExternal c.id).2 := ⟨rfl, rfl, rfl⟩
    rw [mouseMove_of_session hs rfl]
    refine ⟨⟨h.config, fun t ht => ?_, h.inertia⟩, htaken.trans (keepsX_panTo (htaken.separate hp) (hdirection ..) args)⟩
    cases ht
    exact hdirection ..

theorem IsStill.mouseUp (h : c.IsStill) (args : MouseArgs α) (p : Pane α) :
    (c.mouseUp args p).controller.IsStill ∧ p.KeepsX (c.mouseUp args p).pane := by
  cases hs : c.session with
  | none =>
    rw [ZoomPan.mouseUp, hs]
    exact ⟨h, .refl p⟩
  | some s =>
    have hreleased : p.KeepsX (p.release c.id) := by
      rw [Pane.release_eq]
      exact ⟨rfl, rfl, rfl⟩
    rw [mouseUp_of_session hs]
    refine ⟨⟨h.config, fun t ht => ?_, ?_⟩, hreleased⟩
    · cases ht
    change (c.released s args).IsStill
    rw [released, Inertia.start]
    split
    · exact h.inertia
    split
    · exact Inertia.isStill_reset _
    · intro t ht
      cases ht
      exact h.session s hs

theorem IsStill.tick (h : c.IsStill) (hp : p.IsSeparate) (now : Nat) :
    (c.tick now p).1.IsStill ∧ p.KeepsX (c.tick now p).2 := by
  cases hactive : c.inertia.isActive with
  | false =>
    rw [tick_of_idle hactive]
    exact ⟨h, .refl p⟩
  | true =>
    have htaken : p.KeepsX (p.takeExternal c.id).2 := ⟨rfl, rfl, rfl⟩
    cases hexternal : (p.takeExternal c.id).1 with
    | true =>
      rw [tick_of_external hactive hexternal]
      exact ⟨⟨h.config, h.session, Inertia.isStill_reset _⟩, htaken⟩
    | false =>
      have hpolled : Inertia.IsStill { c.inertia with timer := (c.inertia.timer.poll now).2 } := h.inertia
      have hbegun : Pane.IsSeparate { (p.takeExternal c.id).2 with
          notifier := (p.takeExternal c.id).2.notifier.beginOwnWrites c.id } := hp
      obtain ⟨hinertia, hkeeps⟩ := hpolled.steps (c.inertia.timer.poll now).1 hbegun
      rw [tick_of_quiet hactive hexternal]
      exact ⟨⟨h.config, h.session, hinertia⟩, hkeeps.viewport, hkeeps.xAxes, hkeeps.yNames⟩

end ZoomPan

end ChartGestures
