import ChartGestures.Proofs.Gesture.OwnWrites
import ChartGestures.Proofs.Pane.AxisFrames
import ChartGestures.Proofs.Range.Alike

/-!
# Category drags forget their path

A drag of a category axis takes every move from the range and the point of the press, so that what the axis shows after
a move does not depend on the moves before. What others change counts once it is delivered: the next move then goes on
from the range that the axis shows and the point of the last move. A range written that the axis shows already is never
delivered, and what is held back by a suspension only when the suspension ends.
-/

namespace ChartGestures

open Notifier (Attends Shows)

variable {α : Type} [Scalar α] [Decimals α]

/-! ### The range of a drag -/

namespace ChartAxis

variable {a b c : ChartAxis α}

theorem SharesFrame.withVisible (h : a.SharesFrame b) {v : Range α} (hkind : v.kind = a.visible.kind) :
    { a with visible := v }.SharesFrame b :=
  ⟨h.horizontal, h.flip, h.category, hkind.trans h.kind, h.data, h.autoRange, h.bounds⟩

/-- An axis that does not follow its data shows what is written to it, or a range that compares equal. -/
theorem setVisible_alike (hdirect : a.autoRange ≠ .always) (r : Range α) :
    ∃ v, (a.setVisible r).axis = { a with visible := v } ∧ v.kind = a.visible.kind ∧
      (r.convert a.visible.kind).Alike v := by
  unfold setVisible
  dsimp only
  rw [if_neg hdirect]
  split
  · next hsame => exact ⟨a.visible, rfl, rfl, .inr hsame⟩
  · exact ⟨r.convert a.visible.kind, rfl, Range.kind_convert .., .refl _⟩

end ChartAxis

namespace AxisDrag

variable {a b : ChartAxis α}

/-- What a drag over `offset` makes of `base`, in the kind of the axis. -/
def draggedFrom (config : AxisDragConfig α) (half : DragHalf) (base : Range α) (offset : Point α) (a : ChartAxis α) :
    Range α :=
  let pixels := a.pixelComponent offset
  let candidate := match config.dragMode with
    | .pan => (a.scale.scroll base pixels).clipPanned a.data config.clipMode
    | .scale =>
      (a.scale.scrollHalf base pixels half).clipScaled a.data config.clipMode half fun other =>
        some (a.scale.scrollHalf base pixels other)
  candidate.convert a.visible.kind

theorem draggedFrom_congr (h : a.SharesFrame b) (config : AxisDragConfig α) (half : DragHalf) (base : Range α)
    (offset : Point α) : draggedFrom config half base offset a = draggedFrom config half base offset b := by
  have hpixels : a.pixelComponent offset = b.pixelComponent offset := by
    rw [ChartAxis.pixelComponent, ChartAxis.pixelComponent, h.horizontal]
  have hscale : a.scale = b.scale := by
    simp only [ChartAxis.scale, ChartAxis.pixelExtent, ChartAxis.isIncreasing, h.horizontal, h.flip, h.bounds]
  unfold draggedFrom
  rw [hpixels, hscale, h.data, h.kind]

theorem drag_alike (hcategory : a.category = true) (hdirect : a.autoRange ≠ .always) (config : AxisDragConfig α)
    (s : DragSession α) (point : Point α) :
    ∃ v, (drag config s point a).axis = { a with visible := v } ∧ v.kind = a.visible.kind ∧
      (draggedFrom config s.half s.startRange (point - s.startPoint) a).Alike v := by
  unfold drag draggedFrom
  rw [if_pos hcategory]
  dsimp only
  cases config.dragMode with
  | pan =>
    dsimp only
    rw [ChartAxis.panFrom, ChartAxis.applyRange, if_neg hdirect]
    exact ChartAxis.setVisible_alike hdirect _
  | scale =>
    dsimp only
    rw [if_neg hdirect]
    exact ChartAxis.setVisible_alike hdirect _

theorem id_drag (config : AxisDragConfig α) (s : DragSession α) (point : Point α) (a : ChartAxis α) :
    (drag config s point a).axis.id = a.id := by
  unfold drag
  dsimp only
  split
  · exact ChartAxis.id_applyRange ..
  · split
    · exact ChartAxis.id_applyRange ..
    · exact ChartAxis.id_setVisible ..

/-! ### Moves -/

variable {c : AxisDrag α} {p : Pane α} {s : DragSession α}

theorem rebase_of_axis (ha : p.axis? s.axisId = some a) (external : Bool) :
    rebase s external p =
      if external then { s with startRange := a.visibleRange, startPoint := s.lastPoint } else s := by
  rw [rebase, ha]

theorem axisId_rebase (s : DragSession α) (external : Bool) (p : Pane α) : (rebase s external p).axisId = s.axisId := by
  unfold rebase
  split
  · split <;> rfl
  · rfl

/-- A move writes to the axis of the session. -/
theorem axis?_mouseMove (hsession : c.session = some s) (args : MouseArgs α) :
    (c.mouseMove args p).pane.axis? s.axisId =
      (p.axis? s.axisId).map fun a => (drag c.config (rebase s (p.takeExternal c.id).1 p) args.point a).axis := by
  have hkeep (id : String) (t : DragSession α) :
      AxisWrites.KeepNames [(id, drag c.config t args.point)] := by
    intro w hw a
    rw [List.mem_singleton.1 hw]
    exact id_drag ..
  let t := rebase s (p.takeExternal c.id).1 p
  let begun : Pane α := { p with notifier := (p.takeExternal c.id).2.notifier.beginOwnWrites c.id }
  have hwritten : (c.mouseMove args p).pane.axis? s.axisId =
      (begun.suspended (Pane.writeAll [(t.axisId, drag c.config t args.point)])).axis? s.axisId := by
    rw [mouseMove, hsession]
    rfl
  obtain ⟨n, hn⟩ := Pane.suspended_writeAll [(t.axisId, drag c.config t args.point)] begun
  have haxis : t.axisId = s.axisId := axisId_rebase ..
  rw [hwritten, hn]
  change (begun.writeAxis t.axisId (drag c.config t args.point)).axis? s.axisId = _
  rw [Pane.axis?_writeAxis (id_drag c.config t args.point), if_pos haxis.symm, haxis]
  rfl

theorem controller_mouseMove (hsession : c.session = some s) (ha : p.axis? s.axisId = some a) (args : MouseArgs α) :
    (c.mouseMove args p).controller =
      { c with session := some { rebase s (p.takeExternal c.id).1 p with lastPoint := args.point } } := by
  have hfound : ((p.takeExternal c.id).2.axis? (rebase s (p.takeExternal c.id).1 p).axisId).isSome = true := by
    rw [axisId_rebase]
    exact Option.isSome_iff_exists.2 ⟨a, ha⟩
  rw [mouseMove, hsession]
  dsimp only
  exact congrArg (fun t => { c with session := some t }) (if_pos hfound)

/-- A move leaves the watch with nothing seen, also while a suspension is open. -/
theorem attends_mouseMove {external : Bool} (h : p.notifier.Attends c.id external) (hsession : c.session = some s)
    (args : MouseArgs α) : (c.mouseMove args p).pane.notifier.Attends c.id false := by
  let t := rebase s (p.takeExternal c.id).1 p
  let inside : Pane α := { p with notifier := ((p.takeExternal c.id).2.notifier.beginOwnWrites c.id).suspend }
  have hinside : inside.notifier.Shows c.id (p.notifier.depth + 1) (!p.notifier.pending.isEmpty) ⟨1, false⟩ :=
    (h.shows.takeExternal.2.updateWatch _).suspend
  have hwritten := Pane.shows_writeAxis_suspended hinside t.axisId (drag c.config t args.point)
  let written := inside.writeAxis t.axisId (drag c.config t args.point)
  have hended : (c.mouseMove args p).pane.notifier = written.notifier.resume.endOwnWrites c.id := by
    rw [mouseMove, hsession]
    rfl
  rw [hended]
  cases hdepth : p.notifier.depth with
  | zero =>
    rw [hdepth] at hwritten
    have hresumed := hwritten.resume
    rw [ChangeWatch.after_ownWrites Nat.one_pos] at hresumed
    have hshows := hresumed.updateWatch fun state => { state with ownWrites := state.ownWrites - 1 }
    exact (Notifier.attends_iff_shows hshows.depth).2 hshows
  | succ depth =>
    -- the outer suspension holds the change back
    rw [hdepth] at hwritten
    have hshows := hwritten.resume_suspended.updateWatch fun state => { state with ownWrites := state.ownWrites - 1 }
    exact ⟨hshows.watch, hshows.subscribed, fun hzero => nomatch hshows.depth.symm.trans hzero⟩

/-- A press that starts a drag keeps the half it hit and what the axis showed. -/
theorem mouseDown_starts {press : MouseArgs α} (haxis : (p.draggedAxis? c.family c.config.axisId).bind p.axis? = some a)
    (hidle : c.isDragging = false) (hstarts : (c.mouseDown press p).controller.isDragging = true) :
    ∃ q, p.capture c.id = some q ∧ c.mouseDown press p =
      ⟨{ c with session := some ⟨a.id, a.halfAt press.point, press.point, press.point, a.visibleRange⟩ },
        (q.takeExternal c.id).2, true⟩ := by
  have hnever : (Reaction.ignore c p).controller.isDragging ≠ true := by
    rw [Reaction.ignore, hidle]
    exact Bool.false_ne_true
  unfold mouseDown at hstarts ⊢
  simp only [haxis] at hstarts ⊢
  split at hstarts
  · exact absurd hstarts hnever
  · next hready =>
    rw [if_neg hready]
    split at hstarts
    · exact absurd hstarts hnever
    · next hhit =>
      rw [if_neg hhit]
      split at hstarts
      · exact absurd hstarts hnever
      · next q hq => exact ⟨q, hq, rfl⟩

variable [Trigonometry α]

/-- Whatever a drag is called for, its watch attends to what others do, as seen before or with nothing seen. -/
theorem attends_after {external : Bool} (h : p.notifier.Attends c.id external) (call : ControllerCall α) :
    ((Controller.axisDrag c).after p call).2.notifier.Attends c.id
      (external && !(Controller.axisDrag c).takes p call) := by
  have hquiet (hnot : (Controller.axisDrag c).takes p call = false)
      (hsame : ((Controller.axisDrag c).after p call).2.notifier = p.notifier) :
      ((Controller.axisDrag c).after p call).2.notifier.Attends c.id
        (external && !(Controller.axisDrag c).takes p call) := by
    rw [hnot, hsame, Bool.not_false, Bool.and_true]
    exact h
  cases call with
  | mouse kind args =>
    cases kind with
    | down =>
      rcases Controller.mouse_down_cases (c := .axisDrag c) rfl args p with hignored | ⟨hout, hin, htaken⟩
      · refine hquiet ?_ (congrArg (·.pane.notifier) hignored)
        rw [Controller.takes, hignored]
        exact Bool.not_and_self _
      · rw [Controller.takes, hout, hin, Controller.after, htaken]
        have hshows := h.shows.takeExternal.2
        simp only [Bool.not_false, Bool.true_and, Bool.not_true, Bool.and_false]
        exact ⟨hshows.watch, hshows.subscribed, h.settled⟩
    | move =>
      cases hsession : c.session with
      | none =>
        refine hquiet (congrArg Option.isSome hsession) ?_
        change (c.mouseMove args p).pane.notifier = p.notifier
        rw [mouseMove, hsession]
        rfl
      | some s =>
        have htakes : (Controller.axisDrag c).takes p (.mouse .move args) = true := congrArg Option.isSome hsession
        rw [htakes, Bool.not_true, Bool.and_false]
        exact attends_mouseMove h hsession args
    | up => exact hquiet rfl (c.notifier_endDrag p)
    | wheel | doubleClick => exact hquiet rfl rfl
  | touch action args =>
    refine hquiet rfl ?_
    cases action <;> rfl
  | tick now => exact hquiet rfl rfl
  | lostCapture => exact hquiet rfl (Controller.notifier_lostCapture ..)

end AxisDrag

/-! ### Runs -/

/-- A move of the pointer over the controller. -/
abbrev WatchedEvent.move (args : MouseArgs α) : WatchedEvent α := .own (.mouse .move args)

/-- Whether others act in their own names. -/
def WatchedEvent.spares (owner : OwnerId) : WatchedEvent α → Bool
  | .own _ => true
  | .other event => event.sparesOwner owner

/-- The point of the last move, `start` before the first. -/
def WatchedEvent.lastPoint (start : Point α) : List (WatchedEvent α) → Point α
  | [] => start
  | .own (.mouse .move args) :: rest => lastPoint args.point rest
  | _ :: rest => lastPoint start rest

variable [Trigonometry α]

/-- The axes that `f` changes: with a suspension open and nothing held back, their changes are held back after it. -/
def Pane.axesChangedBy {α : Type} [Scalar α] [Decimals α] (p : Pane α) (f : Pane α → Pane α) : List String :=
  (f { p with notifier := { p.notifier with depth := 1, pending := [] } }).notifier.pending.map (·.axisId)

/-- How far the changes that others make have got on their way to a controller. -/
structure News where
  /-- The axes for which a suspension holds back a change of others. -/
  withheld : List String
  /-- A batch with a change of others was delivered that the controller has not taken notice of. -/
  delivered : Bool

namespace WatchedController

open WatchedEvent (lastPoint)

/-- What the axis of the name shows. -/
def shown {α : Type} [Scalar α] [Decimals α] (s : WatchedController α) (axisId : String) : Option (Range α) :=
  (s.pane.axis? axisId).map (·.visibleRange)

/-- A press that starts a drag of the axis `a`. -/
structure Presses (s : WatchedController α) (d : AxisDrag α) (press : MouseArgs α) (a : ChartAxis α) : Prop where
  controller : s.controller = .axisDrag d
  axis : (s.pane.draggedAxis? d.family d.config.axisId).bind s.pane.axis? = some a
  idle : d.isDragging = false
  starts : (d.mouseDown press s.pane).controller.isDragging = true

/-- What may happen while an axis like `a` is dragged: moves, and what others do to the axis but for its frame. -/
def AdmitsDrag (a : ChartAxis α) (s : WatchedController α) : WatchedEvent α → Prop
  | .own call => ∃ args, call = .mouse .move args
  | .other event =>
    event.sparesOwner s.controller.id = true ∧ ∃ b, (event.on s.pane).axis? a.id = some b ∧ b.SharesFrame a

def AdmitsDrags (a : ChartAxis α) : WatchedController α → List (WatchedEvent α) → Prop
  | _, [] => True
  | s, e :: rest => s.AdmitsDrag a e ∧ AdmitsDrags a (s.step e) rest

/-- A change that the controller makes itself takes the place of one that is held back for the same axis. -/
def hear (s : WatchedController α) (news : News) : WatchedEvent α → News
  | .own call =>
    let own := s.pane.axesChangedBy fun p => (s.controller.after p call).2
    ⟨news.withheld.filter (· ∉ own), news.delivered && !s.controller.takes s.pane call⟩
  | .other event =>
    let theirs := news.withheld ++ s.pane.axesChangedBy fun p => event.on p
    if s.pane.notifier.deliveries < (event.on s.pane).notifier.deliveries then
      ⟨[], news.delivered || !theirs.isEmpty⟩
    else ⟨theirs, news.delivered⟩

/-- What becomes of the news over a run. -/
def news (s : WatchedController α) (start : News) : List (WatchedEvent α) → News
  | [] => start
  | e :: rest => (s.step e).news (s.hear start e) rest

/-- At no time a batch is delivered for somebody else. -/
def Undisturbed (s : WatchedController α) (events : List (WatchedEvent α)) : Prop :=
  ∀ k, (s.run (events.take k)).unseen = false

/-- The controller is the axis drag `d` in `session` on an axis that is now `b`, and its watch attends. -/
structure Drags (s : WatchedController α) (d : AxisDrag α) (session : DragSession α) (b : ChartAxis α) : Prop where
  controller : s.controller = .axisDrag { d with session := some session }
  attends : s.pane.notifier.Attends d.id s.unseen
  axis : s.pane.axis? session.axisId = some b

variable {s : WatchedController α} {d : AxisDrag α} {session : DragSession α} {a b : ChartAxis α}

/-- An attached drag stays one, and its watch has seen what others did and the drag took no notice of. -/
theorem attends_run {c : AxisDrag α} (hc : s.controller = .axisDrag c) (h : s.pane.notifier.Attends c.id s.unseen)
    {events : List (WatchedEvent α)} (hevents : ∀ e ∈ events, e.spares c.id = true) :
    ∃ d, (s.run events).controller = .axisDrag d ∧ d.id = c.id ∧
      (s.run events).pane.notifier.Attends c.id (s.run events).unseen := by
  induction events generalizing s c with
  | nil => exact ⟨c, hc, rfl, h⟩
  | cons e rest ih =>
    have hrest : ∀ e ∈ rest, e.spares c.id = true := fun e he => hevents e (List.mem_cons_of_mem _ he)
    cases e with
    | own call =>
      have hattends := AxisDrag.attends_after h call
      have hid := Controller.id_after (.axisDrag c) s.pane call
      obtain ⟨c', hc'⟩ : ∃ c', ((Controller.axisDrag c).after s.pane call).1 = .axisDrag c' := by
        cases call with
        | mouse kind args => cases kind <;> exact ⟨_, rfl⟩
        | touch action args => cases action <;> exact ⟨_, rfl⟩
        | tick _ | lostCapture => exact ⟨_, rfl⟩
      have hid' : c'.id = c.id := by
        rw [hc'] at hid
        exact hid
      have hstep : s.step (.own call) = ⟨.axisDrag c', ((Controller.axisDrag c).after s.pane call).2,
          s.unseen && !(Controller.axisDrag c).takes s.pane call⟩ := by
        rw [step, hc, ← hc']
      rw [← hid'] at hattends hrest ⊢
      rw [show s.run (.own call :: rest) = (s.step (.own call)).run rest from rfl, hstep]
      exact ih (s := ⟨.axisDrag c', _, _⟩) rfl hattends hrest
    | other event =>
      exact ih hc ((event.informs_on (hevents _ List.mem_cons_self) s.pane).attends _ h) hrest

/-- What others changed is not seen before its delivery, and then until the controller takes notice. -/
theorem unseen_of_delivered {news : News} (h : news.delivered = true → s.unseen = true)
    {events : List (WatchedEvent α)} (hdelivered : (s.news news events).delivered = true) :
    (s.run events).unseen = true := by
  induction events generalizing s news with
  | nil => exact h hdelivered
  | cons e rest ih =>
    refine ih (s := s.step e) (fun heard => ?_) hdelivered
    cases e with
    | own call =>
      obtain ⟨hnews, hkept⟩ := Bool.and_eq_true_iff.1 heard
      exact Bool.and_eq_true_iff.2 ⟨h hnews, hkept⟩
    | other event =>
      rw [hear] at heard
      split at heard
      · next hdelivers => exact Bool.or_eq_true_iff.2 (.inr (decide_eq_true hdelivers))
      · exact Bool.or_eq_true_iff.2 (.inl (h heard))

/-- A suspension that somebody else ends over the own changes of a controller is no news to it. -/
theorem news_of_suspensions {events : List (WatchedEvent α)}
    (h : ∀ e ∈ events, (∃ call, e = .own call) ∨ e = .other .suspend ∨ e = .other .resume) (s : WatchedController α) :
    s.news ⟨[], false⟩ events = ⟨[], false⟩ := by
  induction events generalizing s with
  | nil => rfl
  | cons e rest ih =>
    have hheard : s.hear ⟨[], false⟩ e = ⟨[], false⟩ := by
      -- neither a suspension nor its end changes an axis, so a delivery or none comes to the same
      rcases h e List.mem_cons_self with ⟨call, rfl⟩ | rfl | rfl
      · rfl
      · exact ite_self _
      · exact ite_self _
    rw [news, hheard]
    exact ih (fun e he => h e (List.mem_cons_of_mem _ he)) _

theorem Presses.drags {press : MouseArgs α} (h : s.Presses d press a)
    (hattends : s.pane.notifier.Attends d.id s.unseen) :
    (s.step (.own (.mouse .down press))).Drags d
        ⟨a.id, a.halfAt press.point, press.point, press.point, a.visibleRange⟩ a ∧
      (s.step (.own (.mouse .down press))).unseen = false := by
  obtain ⟨q, hq, hdown⟩ := d.mouseDown_starts h.axis h.idle h.starts
  obtain ⟨-, rfl⟩ := Pane.capture_eq_some hq
  obtain ⟨id, -, hfound⟩ := Option.bind_eq_some_iff.1 h.axis
  have hid : a.id = id := Pane.id_of_find? hfound
  have hafter : (Controller.axisDrag d).after s.pane (.mouse .down press) =
      (.axisDrag (d.mouseDown press s.pane).controller, (d.mouseDown press s.pane).pane) := rfl
  have htakes : (Controller.axisDrag d).takes s.pane (.mouse .down press) = true := by
    change (!d.session.isSome && (d.mouseDown press s.pane).controller.isDragging) = true
    rw [h.starts, show d.session.isSome = false from h.idle]
    rfl
  have hstep : s.step (.own (.mouse .down press)) =
      ⟨.axisDrag (d.mouseDown press s.pane).controller, (d.mouseDown press s.pane).pane, false⟩ := by
    rw [step, h.controller, hafter, htakes, Bool.not_true, Bool.and_false]
  have hshows := hattends.shows.takeExternal.2
  rw [hstep, hdown]
  refine ⟨⟨rfl, ⟨hshows.watch, hshows.subscribed, hattends.settled⟩, ?_⟩, rfl⟩
  change s.pane.axis? a.id = some a
  rw [hid]
  exact hfound

/-- A move goes on from where the axis is now if something was delivered for somebody else, or else from the origin. -/
theorem Drags.move (h : s.Drags d session b) (hcategory : b.category = true) (hdirect : b.autoRange ≠ .always)
    (args : MouseArgs α) :
    let start := if s.unseen then { session with startRange := b.visibleRange, startPoint := session.lastPoint }
      else session
    ∃ v, (s.step (.move args)).Drags d { start with lastPoint := args.point } { b with visible := v } ∧
      (s.step (.move args)).unseen = false ∧ v.kind = b.visible.kind ∧
      (AxisDrag.draggedFrom d.config start.half start.startRange (args.point - start.startPoint) b).Alike v := by
  intro start
  let c : AxisDrag α := { d with session := some session }
  have hexternal : (s.pane.takeExternal c.id).1 = s.unseen := Notifier.takeExternal_of_lookup h.attends.watch
  have hrebase : AxisDrag.rebase session s.unseen s.pane = start := AxisDrag.rebase_of_axis h.axis s.unseen
  have hname : start.axisId = session.axisId := by
    rw [← hrebase]
    exact AxisDrag.axisId_rebase ..
  obtain ⟨v, hv, hkind, halike⟩ := AxisDrag.drag_alike hcategory hdirect d.config start args.point
  have haxis : (c.mouseMove args s.pane).pane.axis? start.axisId = some { b with visible := v } := by
    rw [hname, AxisDrag.axis?_mouseMove (c := c) rfl, hexternal, hrebase, h.axis, Option.map_some, hv]
  have hmove : (c.mouseMove args s.pane).controller =
      { d with session := some { start with lastPoint := args.point } } := by
    rw [AxisDrag.controller_mouseMove (c := c) rfl h.axis, hexternal, hrebase]
  have hstep : s.step (.move args) =
      ⟨.axisDrag (c.mouseMove args s.pane).controller, (c.mouseMove args s.pane).pane, false⟩ := by
    have htakes : (Controller.axisDrag c).takes s.pane (.mouse .move args) = true := rfl
    have hafter : (Controller.axisDrag c).after s.pane (.mouse .move args) =
      (.axisDrag (c.mouseMove args s.pane).controller, (c.mouseMove args s.pane).pane) := rfl
    rw [step, h.controller, hafter, htakes, Bool.not_true, Bool.and_false]
  rw [hstep]
  refine ⟨v, ⟨congrArg Controller.axisDrag hmove, ?_, haxis⟩, rfl, hkind, halike⟩
  exact AxisDrag.attends_mouseMove (c := c) h.attends rfl args

theorem Drags.other (h : s.Drags d session b) {event : OthersEvent α}
    (hspares : event.sparesOwner s.controller.id = true) {b' : ChartAxis α}
    (hb' : (event.on s.pane).axis? session.axisId = some b') : (s.step (.other event)).Drags d session b' := by
  have hid : s.controller.id = d.id := congrArg Controller.id h.controller
  rw [hid] at hspares
  exact ⟨h.controller, (event.informs_on hspares s.pane).attends _ h.attends, hb'⟩

/-- As long as nothing is delivered for somebody else a drag keeps its origin. -/
theorem Drags.run (h : s.Drags d session b) (hname : session.axisId = a.id) (hframe : b.SharesFrame a)
    (hcategory : a.category = true) (hdirect : a.autoRange ≠ .always) {events : List (WatchedEvent α)}
    (hevents : s.AdmitsDrags a events) :
    ∃ base start b',
      (s.run events).Drags d
        { session with
          startRange := base
          startPoint := start
          lastPoint := lastPoint session.lastPoint events } b' ∧
      b'.SharesFrame a ∧ (s.Undisturbed events → base = session.startRange ∧ start = session.startPoint) := by
  induction events generalizing s session b with
  | nil => exact ⟨_, _, b, h, hframe, fun _ => ⟨rfl, rfl⟩⟩
  | cons e rest ih =>
    obtain ⟨he, hrest⟩ := hevents
    have htail (hquiet : s.Undisturbed (e :: rest)) : (s.step e).Undisturbed rest := fun k => hquiet (k + 1)
    cases e with
    | own call =>
      obtain ⟨args, rfl⟩ := he
      obtain ⟨v, hdrags, -, hkind, -⟩ := h.move (hframe.category.trans hcategory) (hframe.autoRange ▸ hdirect) args
      cases hseen : s.unseen with
      | false =>
        simp only [hseen, Bool.false_eq_true, if_false] at hdrags
        obtain ⟨base, start, b', hrun, hframe', hkeep⟩ := ih hdrags hname (hframe.withVisible hkind) hrest
        exact ⟨base, start, b', hrun, hframe', fun hquiet => hkeep (htail hquiet)⟩
      | true =>
        simp only [hseen, if_true] at hdrags
        obtain ⟨base, start, b', hrun, hframe', -⟩ := ih hdrags hname (hframe.withVisible hkind) hrest
        refine ⟨base, start, b', hrun, hframe', fun hquiet => ?_⟩
        have hunseen : s.unseen = false := hquiet 0
        rw [hseen] at hunseen
        cases hunseen
    | other event =>
      obtain ⟨hspares, b', hb', hframe'⟩ := he
      rw [← hname] at hb'
      obtain ⟨base, start, b'', hrun, hframe'', hkeep⟩ := ih (h.other hspares hb') hname hframe' hrest
      exact ⟨base, start, b'', hrun, hframe'', fun hquiet => hkeep (htail hquiet)⟩

omit [Trigonometry α] in
theorem shown_of_axis {v : Range α} (haxis : s.pane.axis? a.id = some { b with visible := v })
    (hdirect : b.autoRange ≠ .always) : s.shown a.id = some v := by
  rw [shown, haxis, Option.map_some, ChartAxis.visibleRange, if_neg hdirect]

theorem Drags.shown_undisturbed (h : s.Drags d session b) (hname : session.axisId = a.id) (hframe : b.SharesFrame a)
    (hcategory : a.category = true) (hdirect : a.autoRange ≠ .always) {events : List (WatchedEvent α)}
    (hevents : s.AdmitsDrags a events) (hquiet : s.Undisturbed events) (last : MouseArgs α) :
    ∃ r, ((s.run events).step (.move last)).shown a.id = some r ∧
      (AxisDrag.draggedFrom d.config session.half session.startRange (last.point - session.startPoint) a).Alike r := by
  obtain ⟨base, start, b', hrun, hframe', hkeep⟩ := h.run hname hframe hcategory hdirect hevents
  obtain ⟨rfl, rfl⟩ := hkeep hquiet
  have hunseen : (s.run events).unseen = false := by
    have hall := hquiet events.length
    rw [List.take_length] at hall
    exact hall
  have hdirect' : b'.autoRange ≠ .always := hframe'.autoRange ▸ hdirect
  obtain ⟨v, hmoved, -, -, halike⟩ := hrun.move (hframe'.category.trans hcategory) hdirect' last
  simp only [hunseen, Bool.false_eq_true, if_false] at hmoved halike
  rw [AxisDrag.draggedFrom_congr hframe'] at halike
  exact ⟨v, shown_of_axis (hname ▸ hmoved.axis) hdirect', halike⟩

theorem admitsDrags_moves (moves : List (MouseArgs α)) (s : WatchedController α) :
    s.AdmitsDrags a (moves.map .move) := by
  induction moves generalizing s with
  | nil => trivial
  | cons args rest ih => exact ⟨⟨args, rfl⟩, ih _⟩

theorem undisturbed_moves (hunseen : s.unseen = false) (moves : List (MouseArgs α)) :
    s.Undisturbed (moves.map .move) := by
  intro k
  rw [← List.map_take]
  induction moves.take k generalizing s with
  | nil => exact hunseen
  | cons args rest ih =>
    refine ih (s := s.step (.move args)) ?_
    change (s.unseen && _) = false
    rw [hunseen, Bool.false_and]

/-- The first move after others' changes takes its origin from what the axis shows, and the later ones keep it. -/
theorem Drags.shown_disturbed (h : s.Drags d session b) (hname : session.axisId = a.id) (hframe : b.SharesFrame a)
    (hcategory : a.category = true) (hdirect : a.autoRange ≠ .always) (hseen : s.unseen = true)
    (moves : List (MouseArgs α)) (last : MouseArgs α) :
    ∃ r, (s.run ((moves ++ [last]).map .move)).shown a.id = some r ∧
      (AxisDrag.draggedFrom d.config session.half b.visibleRange (last.point - session.lastPoint) a).Alike r := by
  have hdirect' : b.autoRange ≠ .always := hframe.autoRange ▸ hdirect
  have hcategory' : b.category = true := hframe.category.trans hcategory
  cases moves with
  | nil =>
    obtain ⟨v, hmoved, -, -, halike⟩ := h.move hcategory' hdirect' last
    simp only [hseen, if_true] at hmoved halike
    rw [AxisDrag.draggedFrom_congr hframe] at halike
    exact ⟨v, shown_of_axis (hname ▸ hmoved.axis) hdirect', halike⟩
  | cons first rest =>
    obtain ⟨v, hmoved, hunseen, hkind, -⟩ := h.move hcategory' hdirect' first
    simp only [hseen, if_true] at hmoved
    have hrest : s.run ((first :: rest ++ [last]).map .move) =
        ((s.step (.move first)).run (rest.map .move)).step (.move last) := by
      rw [WatchedController.run, WatchedController.run, List.cons_append, List.map_cons, List.map_append,
        List.foldl_cons, List.foldl_append]
      rfl
    rw [hrest]
    exact hmoved.shown_undisturbed hname (hframe.withVisible hkind) hcategory hdirect (admitsDrags_moves rest _)
      (undisturbed_moves hunseen rest) last

/-- A range that others write leaves the frame. -/
theorem sharesFrame_setVisible (haxis : s.pane.axis? a.id = some b) (hframe : b.SharesFrame a)
    (hdirect : a.autoRange ≠ .always) (r : Range α) :
    ∃ b', (OthersEvent.on s.pane (.axisWrite a.id (·.setVisible r))).axis? a.id = some b' ∧ b'.SharesFrame a := by
  obtain ⟨v, hv, hkind, -⟩ := ChartAxis.setVisible_alike (hframe.autoRange ▸ hdirect : b.autoRange ≠ .always) r
  refine ⟨{ b with visible := v }, ?_, hframe.withVisible hkind⟩
  rw [OthersEvent.on, Pane.axis?_writeAxis fun b => ChartAxis.id_setVisible b r, if_pos rfl, haxis, Option.map_some, hv]

/-- While nothing is delivered for somebody else, a drag of a category axis shows after any moves what the straight move
to the last point shows. Once a batch with changes of others was delivered, it shows what the drag makes of the range
shown then and of the way from the point of the last move before. -/
theorem category_drag_forgets_path [PartialEquivBEq α] {c : AxisDrag α} {p : Pane α} (hnew : c.subscription = none)
    (hp : p.AwaitsWatch c.id) {before : List (WatchedEvent α)} (hbefore : ∀ e ∈ before, e.spares c.id = true)
    {press : MouseArgs α} (hpress : ((attach (.axisDrag c) p).run before).Presses d press a)
    (hcategory : a.category = true) (hdirect : a.autoRange ≠ .always) :
    let start := attach (.axisDrag c) p
    let pressed := (start.run before).step (.own (.mouse .down press))
    let waiting := p.notifier.pending.map (·.axisId)
    let news events := start.news ⟨waiting, false⟩ (before ++ .own (.mouse .down press) :: events)
    ∀ events, pressed.AdmitsDrags a events →
      (pressed.Undisturbed events → ∀ last, ∃ r r', ((pressed.run events).step (.move last)).shown a.id = some r ∧
        (pressed.step (.move last)).shown a.id = some r' ∧ r.Alike r') ∧
      ((news events).delivered = true → ∃ base, (pressed.run events).shown a.id = some base ∧
        ∀ moves last, ∃ r, ((pressed.run events).run ((moves ++ [last]).map .move)).shown a.id = some r ∧
          (AxisDrag.draggedFrom d.config (a.halfAt press.point) base
            (last.point - lastPoint press.point events) a).Alike r) := by
  intro start pressed waiting news events hevents
  have hattached : (attach (.axisDrag c) p).controller = .axisDrag (c.attached p).1 := rfl
  have hattends : (attach (.axisDrag c) p).pane.notifier.Attends c.id (attach (.axisDrag c) p).unseen :=
    Controller.attends_attached (c := .axisDrag c) rfl hnew hp
  obtain ⟨d', hd', hid, hseen⟩ := attends_run hattached hattends hbefore
  obtain rfl : d = d' := Controller.axisDrag.inj (hpress.controller.symm.trans hd')
  obtain ⟨hdrags, hunseen⟩ := hpress.drags (hid ▸ hseen)
  have hframe := ChartAxis.SharesFrame.refl a
  constructor
  · intro hquiet last
    obtain ⟨r, hr, halike⟩ := hdrags.shown_undisturbed rfl hframe hcategory hdirect hevents hquiet last
    have hnone : pressed.AdmitsDrags a [] := trivial
    have hstill : pressed.Undisturbed [] := by
      intro k
      rw [List.take_nil]
      exact hunseen
    obtain ⟨r', hr', halike'⟩ := hdrags.shown_undisturbed rfl hframe hcategory hdirect hnone hstill last
    exact ⟨r, r', hr, hr', halike.symm.trans halike'⟩
  · intro hdelivered
    have hdisturbed : (pressed.run events).unseen = true := by
      have hall := unseen_of_delivered (fun hnone => absurd hnone Bool.false_ne_true) hdelivered
      rw [WatchedController.run, List.foldl_append] at hall
      exact hall
    obtain ⟨base, point, b, hrun, hframe', -⟩ := hdrags.run rfl hframe hcategory hdirect hevents
    refine ⟨b.visibleRange, ?_, fun moves last => ?_⟩
    · rw [shown, hrun.axis, Option.map_some]
    · exact hrun.shown_disturbed rfl hframe' hcategory hdirect hdisturbed moves last

/-- A pan of weeks goes on from the range that somebody else writes meanwhile. -/
theorem category_drag_forgets_path_weeks :
    let weeks : ChartAxis Float :=
      { ChartAxis.new "x" true (.index (.new 0 40)) with category := true, bounds := ⟨0, 300, 400, 24⟩ }
    let p : Pane Float := { Pane.new ⟨0, 0, 400, 300⟩ .cartesian with xAxes := [weeks] }
    let c : AxisDrag Float := .new 0 .x { AxisDragConfig.default with dragMode := .pan }
    let held (x : Float) : MouseArgs Float := .new ⟨x, 310⟩ .onlyLeft 0
    let s := attach (.axisDrag c) p
    let press : WatchedEvent Float := .own (.mouse .down (held 100))
    let write : WatchedEvent Float := .other (.axisWrite "x" (·.setVisible (.index (.new 10 50))))
    let pressed := s.step press
    let written := pressed.run [.move (held 93), write]
    (p.AwaitsWatch c.id ∧ s.Presses (c.attached p).1 (held 100) weeks ∧
      (s.news ⟨[], false⟩ [press, .move (held 93), write]).delivered = true) ∧
      (∃ r r', ((pressed.run [.move (held 93)]).step (.move (held 80))).shown "x" = some r ∧
        (pressed.step (.move (held 80))).shown "x" = some r' ∧ r.Alike r') ∧
      (∃ base, written.shown "x" = some base ∧
        ∃ r, (written.run [.move (held 90), .move (held 83)]).shown "x" = some r ∧
        (AxisDrag.draggedFrom c.config (weeks.halfAt ⟨100, 310⟩) base (⟨83, 310⟩ - ⟨93, 310⟩) weeks).Alike r) ∧
      (written.run [.move (held 90), .move (held 83)]).shown "x" == some (.index (.new 11 51)) := by
  intro weeks p c held s press write pressed written
  have hp : p.AwaitsWatch c.id := ⟨fun _ => rfl, fun _ hnone => nomatch hnone⟩
  have hpress : s.Presses (c.attached p).1 (held 100) weeks := by
    refine ⟨rfl, rfl, rfl, ?_⟩
    decide +kernel
  have hattends := Controller.attends_attached (c := .axisDrag c) rfl rfl hp
  obtain ⟨hdrags, hquiet⟩ := hpress.drags hattends
  obtain ⟨v, hmoved, -, hkind, -⟩ := hdrags.move rfl (by decide) (held 93)
  simp only [hquiet, Bool.false_eq_true, if_false] at hmoved
  have hframe := (ChartAxis.SharesFrame.refl weeks).withVisible hkind
  have hnone : ∀ e ∈ ([] : List (WatchedEvent Float)), e.spares c.id = true := List.forall_mem_nil _
  have hforgets := category_drag_forgets_path rfl hp hnone hpress rfl (by decide)
  obtain ⟨hstraight, -⟩ := hforgets [.move (held 93)] (admitsDrags_moves [held 93] _)
  have hwritten : (s.news ⟨[], false⟩ [press, .move (held 93), write]).delivered = true := by decide +kernel
  obtain ⟨-, hdisturbed⟩ := hforgets [.move (held 93), write]
    ⟨⟨_, rfl⟩, ⟨rfl, sharesFrame_setVisible (a := weeks) hmoved.axis hframe (by decide) _⟩, trivial⟩
  obtain ⟨base, hbase, hfrom⟩ := hdisturbed hwritten
  exact ⟨⟨hp, hpress, hwritten⟩, hstraight (undisturbed_moves hquiet [held 93]) (held 80),
    ⟨base, hbase, hfrom [held 90] (held 83)⟩, by decide +kernel⟩

/-- Writes of others that are not delivered before the next move leave the drag its origin, be it that the axis showed
the range already or that a suspension is open. -/
theorem category_drag_minds_deliveries :
    let weeks : ChartAxis Float :=
      { ChartAxis.new "x" true (.double (.new 2 42)) with
        category := true, data := .double (.new 0 100), bounds := ⟨0, 300, 400, 24⟩ }
    let p : Pane Float := { Pane.new ⟨0, 0, 400, 300⟩ .cartesian with xAxes := [weeks] }
    let c : AxisDrag Float := .new 0 .x { AxisDragConfig.default with dragMode := .pan, clipMode := .clipAtExtents }
    let held (x : Float) : MouseArgs Float := .new ⟨x, 310⟩ .onlyLeft 0
    let pressed := (attach (.axisDrag c) p).step (.own (.mouse .down (held 100)))
    let write (min max : Float) : WatchedEvent Float := .other (.axisWrite "x" (·.setVisible (.double (.new min max))))
    let dragged (min max pixels : Float) :=
      AxisDrag.draggedFrom c.config .near (.double (.new min max)) ⟨pixels, 0⟩ weeks
    let rewritten := pressed.run [.move (held 150), write 0 40]
    let withheld := pressed.run [.move (held 90), .other .suspend, write 10 50]
    ((rewritten.shown "x" == some (.double (.new 0 40))) ∧
      ((rewritten.step (.move (held 140))).shown "x" == some (.double (.new 0 40))) ∧
      dragged 0 40 (140 - 150) == .double (.new 1 41)) ∧
    (withheld.shown "x" == some (.double (.new 10 50))) ∧
      ((withheld.step (.move (held 80))).shown "x" == some (.double (.new 4 44))) ∧
      dragged 10 50 (80 - 90) == .double (.new 11 51) := by
  decide +kernel

end WatchedController

end ChartGestures
