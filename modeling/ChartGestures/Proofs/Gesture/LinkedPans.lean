import ChartGestures.Gesture.Linked
import ChartGestures.Proofs.Gesture.Lockstep
import ChartGestures.Proofs.Gesture.PointerOwnership

/-!
# Linked panes in lockstep

Two linked panes with the same plotting area and the same x axes, each with a panning controller and a wheel of the same
settings. Every mouse event reaches both panes, one of them as the master. The x axes stay the same through any run in
which no press outside the viewport starts a pan of x axes, no turn of the wheel changes y axes only while such a pan is
on, and no y axis has the name of an x axis. The panes part where any of this fails.
-/

namespace ChartGestures

variable {α : Type} [Scalar α] [Decimals α]

/-! ### Two controllers -/

/-- A pan and a wheel, in either order. -/
def twoControllers (panFirst : Bool) (c : ZoomPan α) (w : WheelZoom α) : List (Controller α) :=
  if panFirst then [.zoomPan c, .wheelZoom w] else [.wheelZoom w, .zoomPan c]

/-- What an event does to the pan and to the pane. -/
def reactTo (kind : MouseEventKind) (args : MouseArgs α) (c : ZoomPan α) (w : WheelZoom α) (p : Pane α) :
    ZoomPan α × Pane α :=
  match kind with
  | .down => ((c.mouseDown args p).controller, (c.mouseDown args p).pane)
  | .move => ((c.mouseMove args p).controller, (c.mouseMove args p).pane)
  | .up => ((c.mouseUp args p).controller, (c.mouseUp args p).pane)
  | .wheel => (c, (w.wheel args p).pane)
  | .doubleClick => (c, p)

theorem WheelZoom.controller_wheel (w : WheelZoom α) (args : MouseArgs α) (p : Pane α) :
    (w.wheel args p).controller = w := by
  rw [wheel]
  split <;> rfl

section Offers

variable [Trigonometry α]

/-- How a controller answers to an event. -/
abbrev Reacts (α : Type) [Scalar α] [Decimals α] := Controller α → Pane α → Reaction α (Controller α)

theorem ControllerGroup.offer_one (react : Reacts α) {c d : Controller α} (hignores : ∀ p, react d p = .ignore d p)
    (p : Pane α) :
    offer react [c, d] p false = ([(react c p).controller, d], (react c p).pane, (react c p).handled) ∧
      offer react [d, c] p false = ([d, (react c p).controller], (react c p).pane, (react c p).handled) := by
  have hrest (q : Pane α) (handled : Bool) : offer react [d] q handled = ([d], q, handled) :=
    offer_ignored react (fun e he q => by rw [List.mem_singleton.1 he]; exact hignores q) q handled
  constructor
  · rw [offer_cons, hrest]
  · rw [offer_cons_ignored react (hignores p), offer_cons]
    rfl

/-- The pan alone answers to the buttons, and the wheel alone to the wheel. -/
theorem dispatchMouse_two (g : ControllerGroup (Controller α)) {panFirst : Bool} {c : ZoomPan α} {w : WheelZoom α}
    (hg : g.controllers = twoControllers panFirst c w) (kind : MouseEventKind) (args : MouseArgs α) (p : Pane α) :
    (g.dispatchMouse kind args false p).1.controllers = twoControllers panFirst (reactTo kind args c w p).1 w ∧
      (g.dispatchMouse kind args false p).2.1 = (reactTo kind args c w p).2 := by
  let react : Reacts α := fun c => Controller.mouse kind c args
  have hpan (hkind : ∀ p, react (.wheelZoom w) p = .ignore (.wheelZoom w) p) :
      (g.dispatchMouse kind args false p).1.controllers =
          (if panFirst then [(react (.zoomPan c) p).controller, .wheelZoom w]
            else [.wheelZoom w, (react (.zoomPan c) p).controller]) ∧
        (g.dispatchMouse kind args false p).2.1 = (react (.zoomPan c) p).pane := by
    obtain ⟨hfirst, hsecond⟩ := ControllerGroup.offer_one react (c := .zoomPan c) hkind p
    rw [ControllerGroup.dispatchMouse, hg, twoControllers]
    cases panFirst with
    | true => exact ⟨congrArg (·.1) hfirst, congrArg (·.2.1) hfirst⟩
    | false => exact ⟨congrArg (·.1) hsecond, congrArg (·.2.1) hsecond⟩
  cases kind with
  | down => exact hpan fun _ => rfl
  | move => exact hpan fun _ => rfl
  | up => exact hpan fun _ => rfl
  | wheel =>
    obtain ⟨hsecond, hfirst⟩ :=
      ControllerGroup.offer_one react (c := .wheelZoom w) (d := .zoomPan c) (fun _ => rfl) p
    have hwheel : (react (.wheelZoom w) p).controller = .wheelZoom w :=
      congrArg Controller.wheelZoom (w.controller_wheel args p)
    rw [ControllerGroup.dispatchMouse, hg, twoControllers]
    rw [hwheel] at hfirst hsecond
    cases panFirst with
    | true => exact ⟨congrArg (·.1) hfirst, congrArg (·.2.1) hfirst⟩
    | false => exact ⟨congrArg (·.1) hsecond, congrArg (·.2.1) hsecond⟩
  | doubleClick =>
    have hignores : ∀ d ∈ twoControllers panFirst c w, ∀ q, react d q = .ignore d q := by
      intro d hd q
      rw [twoControllers] at hd
      split at hd
      · rcases List.mem_pair.1 hd with rfl | rfl <;> rfl
      · rcases List.mem_pair.1 hd with rfl | rfl <;> rfl
    have hignored := ControllerGroup.offer_ignored react hignores p false
    rw [ControllerGroup.dispatchMouse, hg]
    exact ⟨congrArg (·.1) hignored, congrArg (·.2.1) hignored⟩

theorem dispatchMouse_handled (g : ControllerGroup (Controller α)) (kind : MouseEventKind) (args : MouseArgs α)
    (p : Pane α) : (g.dispatchMouse kind args true p).1.controllers = g.controllers ∧
      (g.dispatchMouse kind args true p).2.1 = p := by
  rw [ControllerGroup.dispatchMouse, ControllerGroup.offer_handled]
  exact ⟨rfl, rfl⟩

theorem tick_two (g : ControllerGroup (Controller α)) {panFirst : Bool} {c : ZoomPan α} {w : WheelZoom α}
    (hg : g.controllers = twoControllers panFirst c w) (now : Nat) (p : Pane α) :
    (g.tick now p).1.controllers = twoControllers panFirst (c.tick now p).1 w ∧ (g.tick now p).2 = (c.tick now p).2 := by
  have hpan (q : Pane α) : (if GestureController.isTimerActive α (Controller.zoomPan c) then
      GestureController.tick now (Controller.zoomPan c) q else (Controller.zoomPan c, q)) =
        (Controller.zoomPan (c.tick now q).1, (c.tick now q).2) := by
    cases hactive : c.inertia.isActive with
    | true => exact if_pos hactive
    | false =>
      rw [ZoomPan.tick_of_idle hactive]
      exact if_neg (by rw [show GestureController.isTimerActive α (Controller.zoomPan c) = false from hactive]; decide)
  have hwheel (q : Pane α) : (if GestureController.isTimerActive α (Controller.wheelZoom w : Controller α) then
      GestureController.tick now (Controller.wheelZoom w) q else (Controller.wheelZoom w, q)) = (.wheelZoom w, q) :=
    if_neg Bool.false_ne_true
  rw [ControllerGroup.tick, ControllerGroup.forEach, hg, twoControllers]
  cases panFirst with
  | true =>
    simp only [if_true, ControllerGroup.each, hpan, hwheel]
    exact ⟨rfl, trivial⟩
  | false =>
    simp only [Bool.false_eq_true, if_false, ControllerGroup.each, hpan, hwheel]
    exact ⟨rfl, trivial⟩

end Offers

/-! ### Panes in lockstep -/

namespace ZoomPan

/-- The controllers pan x axes and are in step, or none of them pans x axes. -/
def Synced (c : ZoomPan α) (p : Pane α) (c' : ZoomPan α) (p' : Pane α) : Prop :=
  (c.config.direction.includesX = true ∧ InStep c p c' p') ∨ (SameX p p' ∧ c.IsStill ∧ c'.IsStill)

/-- A press that starts a pan of x axes lies in the viewport, and while such a pan is on, a turn of the wheel that
changes a y axis changes an x axis as well. -/
def admits (c : ZoomPan α) (w : WheelZoom α) (p : Pane α) (kind : MouseEventKind) (args : MouseArgs α) : Bool :=
  !c.config.direction.includesX ||
    match kind with
    | .down => c.isDragging || !c.config.executeOn.accepts args.buttons || p.viewport.contains args.point
    | .wheel => !c.isMoving || !w.publishes args p .y || w.publishes args p .x
    | _ => true

variable {c c' : ZoomPan α} {w w' : WheelZoom α} {p p' : Pane α}

theorem Synced.sameX (h : Synced c p c' p') : SameX p p' := by
  rcases h with ⟨-, h⟩ | ⟨h, -⟩
  · exact h.panes
  · exact h

theorem hits_of_admits {args : MouseArgs α} (hx : c.config.direction.includesX = true) {m : Bool}
    (h : m = true → c.admits w p .down (args.given m) = true) (hfree : c.session = none)
    (haccepts : c.config.executeOn.accepts args.buttons = true) : Hits (args.given m) p := by
  intro hm
  have hadmits := h hm
  simpa [admits, hx, isDragging, hfree, haccepts] using hadmits

theorem only_of_admits {args : MouseArgs α} (hx : c.config.direction.includesX = true) {m : Bool}
    (h : m = true → c.admits w p .wheel (args.given m) = true) (hm : m = true) (hmoving : c.isMoving = true)
    (hy : w.publishes (args.given m) p .y = true) : w.publishes (args.given m) p .x = true := by
  have hadmits := h hm
  simpa [admits, hx, hmoving, hy] using hadmits

/-- Whichever of the panes is the master of an event, if any. -/
theorem Synced.reactTo (h : Synced c p c' p') (hwheel : w'.config = w.config) (kind : MouseEventKind)
    (args : MouseArgs α) (m m' : Bool) (hm : m = true → c.admits w p kind (args.given m) = true)
    (hm' : m' = true → c'.admits w' p' kind (args.given m') = true) :
    let r := ChartGestures.reactTo kind (args.given m) c w p
    let r' := ChartGestures.reactTo kind (args.given m') c' w' p'
    Synced r.1 r.2 r'.1 r'.2 := by
  rcases h with ⟨hx, h⟩ | ⟨hsame, hstill, hstill'⟩
  · have hx' : c'.config.direction.includesX = true := by rw [h.config, hx]
    cases kind with
    | down =>
      have hdown := h.mouseDown args m m' (hits_of_admits hx hm) (hits_of_admits hx' hm')
      exact .inl ⟨(c.config_mouseDown _ p) ▸ hx, hdown⟩
    | move => exact .inl ⟨(c.config_mouseMove _ p) ▸ hx, h.mouseMove args m m'⟩
    | up => exact .inl ⟨(c.config_mouseUp _ p) ▸ hx, h.mouseUp args m m'⟩
    | wheel => exact .inl ⟨hx, h.wheel hwheel args m m' (only_of_admits hx hm) (only_of_admits hx' hm')⟩
    | doubleClick => exact .inl ⟨hx, h⟩
  · cases kind with
    | down =>
      obtain ⟨hs, hkeeps⟩ := hstill.mouseDown (args.given m) p
      obtain ⟨hs', hkeeps'⟩ := hstill'.mouseDown (args.given m') p'
      exact .inr ⟨hsame.keepsX hkeeps hkeeps', hs, hs'⟩
    | move =>
      obtain ⟨hs, hkeeps⟩ := hstill.mouseMove hsame.separate (args.given m)
      obtain ⟨hs', hkeeps'⟩ := hstill'.mouseMove hsame.separate' (args.given m')
      exact .inr ⟨hsame.keepsX hkeeps hkeeps', hs, hs'⟩
    | up =>
      obtain ⟨hs, hkeeps⟩ := hstill.mouseUp (args.given m) p
      obtain ⟨hs', hkeeps'⟩ := hstill'.mouseUp (args.given m') p'
      exact .inr ⟨hsame.keepsX hkeeps hkeeps', hs, hs'⟩
    | wheel => exact .inr ⟨WheelZoom.sameX_wheel hwheel hsame args m m', hstill, hstill'⟩
    | doubleClick => exact .inr ⟨hsame, hstill, hstill'⟩

theorem Synced.tick (h : Synced c p c' p') (now : Nat) :
    Synced (c.tick now p).1 (c.tick now p).2 (c'.tick now p').1 (c'.tick now p').2 := by
  rcases h with ⟨hx, h⟩ | ⟨hsame, hstill, hstill'⟩
  · exact .inl ⟨(c.config_tick now p) ▸ hx, h.tick now⟩
  · obtain ⟨hs, hkeeps⟩ := hstill.tick hsame.separate now
    obtain ⟨hs', hkeeps'⟩ := hstill'.tick hsame.separate' now
    exact .inr ⟨hsame.keepsX hkeeps hkeeps', hs, hs'⟩

/-- Two controllers at rest that come to their panes. -/
theorem synced_attached {config : ZoomPanConfig α} {owner owner' : OwnerId} (hpanes : SameX p p')
    (hfresh : p.IsFreshFor owner) (hfresh' : p'.IsFreshFor owner') (hfree : p.capturedBy = none)
    (hfree' : p'.capturedBy = none) :
    let start := (ofInertia owner config (.atRest config.inertia)).attached p
    let start' := (ofInertia owner' config (.atRest config.inertia)).attached p'
    Synced start.1 start.2 start'.1 start'.2 := by
  intro start start'
  have hpanes' : SameX start.2 start'.2 := hpanes.notifier _ _
  cases hx : config.direction.includesX with
  | true =>
    have hcoasts : Inertia.Alike (start.2.axisIds .x) start.1.inertia start'.1.inertia :=
      ⟨rfl, rfl, rfl, rfl, rfl, fun _ _ => rfl⟩
    exact .inl ⟨hx, rfl, hpanes', hfree, hfree', .inl ⟨rfl, rfl⟩, hcoasts, false, false, watches_attached hfresh rfl,
      watches_attached hfresh' rfl, fun _ => rfl⟩
  | false =>
    have hstill (id : OwnerId) (q : Pane α) :
        ((ofInertia id config (.atRest config.inertia)).attached q).1.IsStill := by
      refine ⟨hx, fun s hs => ?_, fun t ht => ?_⟩
      · cases hs
      · cases ht
    exact .inr ⟨hpanes', hstill owner p, hstill owner' p'⟩

end ZoomPan

/-! ### Linked panes -/

namespace LinkedPane

variable {l l' : LinkedPane α (Controller α)}

/-- Whether no event of the pane makes it part from the pane linked to it. -/
def admits (l : LinkedPane α (Controller α)) (kind : MouseEventKind) (args : MouseArgs α) : Bool :=
  l.controllers.controllers.all fun
    | .zoomPan c => l.controllers.controllers.all fun
      | .wheelZoom w => c.admits w l.pane kind args
      | _ => true
    | _ => true

/-- The two panes hold the same controllers in the same order, and these are synchronized. -/
def Lockstep (l l' : LinkedPane α (Controller α)) : Prop :=
  ∃ panFirst c w c' w', l.controllers.controllers = twoControllers panFirst c w ∧
    l'.controllers.controllers = twoControllers panFirst c' w' ∧ w'.config = w.config ∧ c.Synced l.pane c' l'.pane

theorem admits_two {panFirst : Bool} {c : ZoomPan α} {w : WheelZoom α}
    (hl : l.controllers.controllers = twoControllers panFirst c w) (kind : MouseEventKind) (args : MouseArgs α) :
    l.admits kind args = c.admits w l.pane kind args := by
  rw [admits, hl, twoControllers]
  cases panFirst <;> simp

variable [Trigonometry α]

theorem Lockstep.dispatchMouse (h : Lockstep l l') (kind : MouseEventKind) (args : MouseArgs α) (handled m m' : Bool)
    (hm : handled = false → m = true → l.admits kind args = true)
    (hm' : handled = false → m' = true → l'.admits kind args = true) :
    Lockstep (l.dispatchMouse kind (args.given m) handled).1 (l'.dispatchMouse kind (args.given m') handled).1 := by
  obtain ⟨panFirst, c, w, c', w', hl, hl', hwheel, hsynced⟩ := h
  cases handled with
  | true =>
    obtain ⟨hcontrollers, hpane⟩ := dispatchMouse_handled l.controllers kind (args.given m) l.pane
    obtain ⟨hcontrollers', hpane'⟩ := dispatchMouse_handled l'.controllers kind (args.given m') l'.pane
    refine ⟨panFirst, c, w, c', w', hcontrollers.trans hl, hcontrollers'.trans hl', hwheel, ?_⟩
    change c.Synced (l.controllers.dispatchMouse kind (args.given m) true l.pane).2.1 c'
      (l'.controllers.dispatchMouse kind (args.given m') true l'.pane).2.1
    rw [hpane, hpane']
    exact hsynced
  | false =>
    obtain ⟨hcontrollers, hpane⟩ := dispatchMouse_two l.controllers hl kind (args.given m) l.pane
    obtain ⟨hcontrollers', hpane'⟩ := dispatchMouse_two l'.controllers hl' kind (args.given m') l'.pane
    have hstep := hsynced.reactTo hwheel kind args m m' (fun h => admits_two hl kind _ ▸ hm rfl h)
      (fun h => admits_two hl' kind _ ▸ hm' rfl h)
    refine ⟨panFirst, _, w, _, w', hcontrollers, hcontrollers', hwheel, ?_⟩
    change ZoomPan.Synced _ (l.controllers.dispatchMouse kind (args.given m) false l.pane).2.1 _
      (l'.controllers.dispatchMouse kind (args.given m') false l'.pane).2.1
    rw [hpane, hpane']
    exact hstep

theorem Lockstep.tick (h : Lockstep l l') (now : Nat) : Lockstep (l.tick now) (l'.tick now) := by
  obtain ⟨panFirst, c, w, c', w', hl, hl', hwheel, hsynced⟩ := h
  obtain ⟨hcontrollers, hpane⟩ := tick_two l.controllers hl now l.pane
  obtain ⟨hcontrollers', hpane'⟩ := tick_two l'.controllers hl' now l'.pane
  refine ⟨panFirst, _, w, _, w', hcontrollers, hcontrollers', hwheel, ?_⟩
  change ZoomPan.Synced _ (l.controllers.tick now l.pane).2 _ (l'.controllers.tick now l'.pane).2
  rw [hpane, hpane']
  exact hsynced.tick now

theorem attach_two (id : String) (p : Pane α) (panFirst : Bool) (c : ZoomPan α) (w : WheelZoom α) :
    let l := LinkedPane.attach ⟨id, p, .ofList (twoControllers panFirst c w)⟩
    l.id = id ∧ l.pane = (c.attached p).2 ∧
      l.controllers.controllers = twoControllers panFirst (c.attached p).1 w := by
  cases panFirst <;> exact ⟨rfl, rfl, rfl⟩

end LinkedPane

/-- What happens to linked panes: a mouse event on the pane `origin`, claimed before or not, or a moment of time. -/
inductive LinkedEvent (α : Type) where
  | mouse (origin : String) (kind : MouseEventKind) (args : MouseArgs α) (handled : Bool)
  | tick (now : Nat)

namespace LinkedPanes

variable {s : LinkedPanes α (Controller α)} {l l' : LinkedPane α (Controller α)}

/-- An event reaches both of two panes that take part, or none, and at most its own pane as the master. -/
theorem roles_of_sync (hsync : s.shouldSync l.id = true) (hsync' : s.shouldSync l'.id = true) (origin : String) :
    (s.role origin l = none ∧ s.role origin l' = none) ∨
      ∃ m m', s.role origin l = some m ∧ s.role origin l' = some m' ∧ (m = true → l.id = origin) ∧
        (m' = true → l'.id = origin) := by
  have hrole {r : LinkedPane α (Controller α)} (hr : s.shouldSync r.id = true) (horigin : s.shouldSync origin = true) :
      ∃ m, s.role origin r = some m ∧ (m = true → r.id = origin) := by
    rw [role, horigin, hr]
    split
    · next hid => exact ⟨true, rfl, fun _ => beq_iff_eq.1 hid⟩
    · exact ⟨false, rfl, fun h => absurd h Bool.false_ne_true⟩
  cases horigin : s.shouldSync origin with
  | true =>
    obtain ⟨m, hm, hid⟩ := hrole hsync horigin
    obtain ⟨m', hm', hid'⟩ := hrole hsync' horigin
    exact .inr ⟨m, m', hm, hm', hid, hid'⟩
  | false =>
    have hother {r : LinkedPane α (Controller α)} (hr : s.shouldSync r.id = true) : s.role origin r = none := by
      have hne : (r.id == origin) = false := by
        rw [beq_eq_false_iff_ne]
        intro heq
        rw [heq, horigin] at hr
        cases hr
      rw [role, hne, horigin]
      rfl
    exact .inl ⟨hother hsync, hother hsync'⟩

variable [Trigonometry α]

def apply (s : LinkedPanes α (Controller α)) : LinkedEvent α → LinkedPanes α (Controller α)
  | .mouse origin kind args handled => (s.dispatchMouse origin kind args handled).1
  | .tick now => s.tick now

def run (s : LinkedPanes α (Controller α)) (events : List (LinkedEvent α)) : LinkedPanes α (Controller α) :=
  events.foldl apply s

/-- Whether the pane that an event happens on admits it. -/
def admits (s : LinkedPanes α (Controller α)) : LinkedEvent α → Bool
  | .mouse origin kind args handled => handled || s.panes.all fun l => l.id != origin || l.admits kind args
  | .tick _ => true

def admitsAll : LinkedPanes α (Controller α) → List (LinkedEvent α) → Bool
  | _, [] => true
  | s, e :: rest => s.admits e && admitsAll (s.apply e) rest

/-- Two panes that take part are in lockstep. -/
def InLockstep (s : LinkedPanes α (Controller α)) : Prop :=
  ∃ l l', s.panes = [l, l'] ∧ l.Lockstep l' ∧ s.shouldSync l.id = true ∧ s.shouldSync l'.id = true

theorem InLockstep.apply (h : s.InLockstep) {e : LinkedEvent α} (he : s.admits e = true) : (s.apply e).InLockstep := by
  obtain ⟨l, l', hpanes, hlockstep, hsync, hsync'⟩ := h
  cases e with
  | tick now =>
    refine ⟨l.tick now, l'.tick now, ?_, hlockstep.tick now, hsync, hsync'⟩
    rw [LinkedPanes.apply, LinkedPanes.tick, hpanes]
    rfl
  | mouse origin kind args handled =>
    have hadmits {r : LinkedPane α (Controller α)} (hr : r ∈ s.panes) (hid : r.id = origin) (hh : handled = false) :
        r.admits kind args = true := by
      rw [admits, hh, Bool.false_or, List.all_eq_true] at he
      have hone := he r hr
      rwa [hid, bne_self_eq_false, Bool.false_or] at hone
    rcases roles_of_sync hsync hsync' origin with ⟨hnone, hnone'⟩ | ⟨m, m', hm, hm', hid, hid'⟩
    · refine ⟨l, l', ?_, hlockstep, hsync, hsync'⟩
      simp only [LinkedPanes.apply, LinkedPanes.dispatchMouse, dispatch, hpanes, List.map_cons, List.map_nil, hnone,
        hnone']
    · refine ⟨(l.dispatchMouse kind (args.given m) handled).1, (l'.dispatchMouse kind (args.given m') handled).1, ?_,
        ?_, hsync, hsync'⟩
      · simp only [LinkedPanes.apply, LinkedPanes.dispatchMouse, dispatch, hpanes, List.map_cons, List.map_nil, hm, hm']
      · refine hlockstep.dispatchMouse kind args handled m m' (fun hh h => ?_) fun hh h => ?_
        · exact hadmits (hpanes ▸ List.mem_cons_self) (hid h) hh
        · exact hadmits (hpanes ▸ List.mem_cons_of_mem l List.mem_cons_self) (hid' h) hh

theorem InLockstep.run (h : s.InLockstep) {events : List (LinkedEvent α)} (hevents : s.admitsAll events = true) :
    (s.run events).InLockstep := by
  induction events generalizing s with
  | nil => exact h
  | cons e rest ih =>
    rw [admitsAll, Bool.and_eq_true] at hevents
    exact ih (h.apply hevents.1) hevents.2

theorem admitsAll_take {events : List (LinkedEvent α)} (h : s.admitsAll events = true) (k : Nat) :
    s.admitsAll (events.take k) = true := by
  induction events generalizing s k with
  | nil => rw [List.take_nil, admitsAll]
  | cons e rest ih =>
    cases k with
    | zero => rfl
    | succ k =>
      rw [admitsAll, Bool.and_eq_true] at h
      rw [List.take_succ_cons, admitsAll, h.1, ih h.2 k, Bool.and_self]

end LinkedPanes

/-! ### The start -/

/-- One of two panes to be linked, with the ids of its two controllers. -/
structure LinkedSide (α : Type) [Scalar α] [Decimals α] where
  id : String
  pane : Pane α
  panOwner : OwnerId
  wheelOwner : OwnerId

/-- Two panes to be linked, with the settings of their pans and wheels. -/
structure LinkedPair (α : Type) [Scalar α] [Decimals α] where
  left : LinkedSide α
  right : LinkedSide α
  config : ZoomPanConfig α
  wheel : WheelZoomConfig α
  /-- The order of the two controllers of a pane. -/
  panFirst : Bool
  sync : List (String × Bool)

namespace LinkedSide

variable (side : LinkedSide α) (config : ZoomPanConfig α)

/-- The pan, at rest. -/
def pan : ZoomPan α := .ofInertia side.panOwner config (.atRest config.inertia)

/-- Nobody has the pointer, nothing waits, and the pan has no watch yet. -/
structure IsFresh : Prop where
  watch : side.pane.IsFreshFor side.panOwner
  pointer : side.pane.capturedBy = none

end LinkedSide

namespace LinkedPair

def controllers (t : LinkedPair α) (side : LinkedSide α) : ControllerGroup (Controller α) :=
  .ofList (twoControllers t.panFirst (side.pan t.config) ⟨side.wheelOwner, t.wheel⟩)

/-- The two panes are fresh and take part, and their plotting areas and x axes are the same. -/
structure IsMatched (t : LinkedPair α) : Prop where
  panes : SameX t.left.pane t.right.pane
  left : t.left.IsFresh
  right : t.right.IsFresh
  leftSync : (t.sync.lookup t.left.id).getD true = true
  rightSync : (t.sync.lookup t.right.id).getD true = true

variable [Trigonometry α] {t : LinkedPair α}

def link (t : LinkedPair α) : LinkedPanes α (Controller α) :=
  ((⟨[], t.sync⟩ : LinkedPanes α (Controller α)).add t.left.id t.left.pane (t.controllers t.left)).add t.right.id
    t.right.pane (t.controllers t.right)

/-- The pan of a linked side has come to its pane. -/
theorem attach_side (t : LinkedPair α) (side : LinkedSide α) :
    let l := LinkedPane.attach ⟨side.id, side.pane, t.controllers side⟩
    l.id = side.id ∧ l.pane = ((side.pan t.config).attached side.pane).2 ∧
      l.controllers.controllers =
        twoControllers t.panFirst ((side.pan t.config).attached side.pane).1 ⟨side.wheelOwner, t.wheel⟩ :=
  LinkedPane.attach_two side.id side.pane t.panFirst (side.pan t.config) ⟨side.wheelOwner, t.wheel⟩

theorem inLockstep_link (h : t.IsMatched) : t.link.InLockstep := by
  obtain ⟨hid, hpane, hcontrollers⟩ := t.attach_side t.left
  obtain ⟨hid', hpane', hcontrollers'⟩ := t.attach_side t.right
  refine ⟨_, _, rfl, ⟨t.panFirst, _, _, _, _, hcontrollers, hcontrollers', rfl, ?_⟩, ?_, ?_⟩
  · rw [hpane, hpane']
    exact ZoomPan.synced_attached h.panes h.left.watch h.right.watch h.left.pointer h.right.pointer
  · exact hid ▸ h.leftSync
  · exact hid' ▸ h.rightSync

end LinkedPair

end ChartGestures
