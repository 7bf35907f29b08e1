import ChartGestures.Proofs.Gesture.MouseBatches
import ChartGestures.Proofs.Gesture.TouchPromotion

/-!
# One notice a gesture step

In every state that a group and its pane can reach, a mouse event that comes while no suspension is open hands over one
batch at most, unless it is a move that a drag pans and then fits. What has to hold of the state is little: without a
suspension nothing waits. Whatever controllers and others do keeps that, for all of it comes down to notifications,
suspensions and watches.
-/

namespace ChartGestures

variable {α : Type} [Scalar α] [Decimals α] [Trigonometry α]

/-! ### Offers -/

namespace ControllerGroup

/-- Whether the first controller in session pans and then fits. -/
def pansThenFits {α : Type} [Scalar α] [Decimals α] (kind : MouseEventKind) (args : MouseArgs α)
    (cs : List (Controller α)) (p : Pane α) : Bool :=
  (cs.find? (·.inSession)).any (·.pansThenFits kind args p)

omit [Trigonometry α] in
theorem pansThenFits_of_ne_move {kind : MouseEventKind} (hkind : kind ≠ .move) (args : MouseArgs α)
    (cs : List (Controller α)) (p : Pane α) : pansThenFits kind args cs p = false := by
  rw [pansThenFits]
  cases cs.find? (·.inSession) with
  | none => rfl
  | some c => exact c.pansThenFits_of_ne_move hkind args p

variable {p : Pane α}

/-- The first controller that claims an event is the only one to announce anything. -/
theorem announces_offer (hidle : p.notifier.IsIdle) (kind : MouseEventKind) (args : MouseArgs α)
    (cs : List (Controller α)) :
    ∃ count ≤ 2, p.Announces (offer (fun c => Controller.mouse kind c args) cs p false).2.1 count ∧
      (count = 2 ↔ pansThenFits kind args cs p = true) := by
  induction cs generalizing p with
  | nil => exact ⟨0, Nat.zero_le 2, Pane.announces_of_notifier_eq rfl, nofun, nofun⟩
  | cons c rest ih =>
    obtain ⟨count, hannounces⟩ := Controller.announces_mouse hidle kind c args
    rw [offer_cons]
    cases hhandled : (Controller.mouse kind c args p).handled with
    | true =>
      rw [offer_handled]
      refine ⟨count, hannounces.le, hannounces.announces, hannounces.two.trans ?_⟩
      cases hc : c.inSession with
      | true => rw [pansThenFits, List.find?_cons_of_pos hc, Option.any_some]
      | false =>
        have hkind : kind ≠ .move := by
          rintro rfl
          rw [Controller.mouse_move_of_not_inSession hc] at hhandled
          cases hhandled
        rw [c.pansThenFits_of_ne_move hkind, pansThenFits_of_ne_move hkind]
    | false =>
      have hquiet := hannounces.announces
      rw [hannounces.unclaimed hhandled] at hquiet
      obtain ⟨later, hle, hlater, htwo⟩ := ih (hquiet.isIdle hidle)
      have hall := hquiet.trans hlater
      rw [Nat.zero_add] at hall
      refine ⟨later, hle, hall, htwo.trans ?_⟩
      by_cases hkind : kind = .move
      · subst hkind
        -- a move that is not claimed left the pane alone, and its controller is passed over
        have hc : c.inSession = false := by
          cases hc : c.inSession with
          | false => rfl
          | true =>
            rw [Controller.handled_mouse_move hc] at hhandled
            cases hhandled
        rw [Controller.pane_mouse_move hhandled, pansThenFits, pansThenFits, List.find?_cons_of_neg]
        rw [hc]
        exact Bool.false_ne_true
      · rw [pansThenFits_of_ne_move hkind, pansThenFits_of_ne_move hkind]

end ControllerGroup

/-! ### Reachable states -/

namespace Controller

/-- No callback leaves anything waiting. -/
theorem isSettled_after (c : Controller α) {p : Pane α} (h : p.notifier.IsSettled) (call : ControllerCall α) :
    (c.after p call).2.notifier.IsSettled :=
  (informs_after (Nat.ne_of_lt (Nat.lt_succ_self c.id)) p call).settled h

omit [Trigonometry α] in
theorem isSettled_attached (c : Controller α) {p : Pane α} (h : p.notifier.IsSettled) :
    (c.attached p).2.notifier.IsSettled := by
  have hwatch (owner : OwnerId) (held : Option SubscriptionId) : (p.startWatch owner held).2.notifier.IsSettled := by
    have hbegun : (p.notifier.subscribeWatch owner).1.IsSettled := by
      show ((p.notifier.addObserver _ _).subscribe _).1.IsSettled
      unfold Notifier.addObserver
      split <;> exact h
    show (held.elim (p.notifier.subscribeWatch owner).1 (p.notifier.subscribeWatch owner).1.unsubscribe).IsSettled
    cases held <;> exact hbegun
  cases c with
  | axisDrag c => exact hwatch c.id c.subscription
  | zoomPan c => exact hwatch c.id c.subscription
  | _ => exact h

omit [Trigonometry α] in
theorem isSettled_detached (c : Controller α) {p : Pane α} (h : p.notifier.IsSettled) :
    (c.detached p).2.notifier.IsSettled := by
  have hwatch (p : Pane α) (h : p.notifier.IsSettled) (held : Option SubscriptionId) :
      (p.stopWatch held).notifier.IsSettled := by
    cases held <;> exact h
  cases c with
  | axisDrag c =>
    refine hwatch (c.endDrag p).pane ?_ c.subscription
    rw [c.notifier_endDrag]
    exact h
  | zoomPan c =>
    refine hwatch (c.resetInertia.endDrag p).2 ?_ c.subscription
    rw [c.resetInertia.notifier_endDrag]
    exact h
  | rubberBand c =>
    show (c.cancel p).2.notifier.IsSettled
    rw [c.notifier_cancel]
    exact h
  | _ => exact h

end Controller

namespace ControllerGroup

variable {g : ControllerGroup (Controller α)} {p : Pane α}

theorem isSettled_dispatchMouse (h : p.notifier.IsSettled) (kind : MouseEventKind) (args : MouseArgs α)
    (handled : Bool) :
    (g.dispatchMouse kind args handled p).2.1.notifier.IsSettled :=
  pane_offer (P := fun p => p.notifier.IsSettled) (fun c _ hp => c.isSettled_after hp (.mouse kind args)) g.controllers
    handled h

theorem isSettled_lostCapture (h : p.notifier.IsSettled) : (g.lostCapture p).2.notifier.IsSettled :=
  pane_each (P := fun p => p.notifier.IsSettled) (fun c _ hp => c.isSettled_after hp .lostCapture) g.controllers h

theorem isSettled_remove (h : p.notifier.IsSettled) (id : OwnerId) : (g.remove id p).2.2.notifier.IsSettled := by
  unfold remove
  dsimp only
  split
  · exact h
  · split
    · exact h
    · next c _ =>
      split
      · exact c.isSettled_detached h
      · exact h

end ControllerGroup

theorem GroupCall.isSettled_apply {s : ControllerGroup (Controller α) × Pane α} (h : s.2.notifier.IsSettled)
    (call : GroupCall α) : (apply s call).2.notifier.IsSettled := by
  cases call with
  | mouse kind args => exact ControllerGroup.isSettled_dispatchMouse h kind args false
  | touch action args handled =>
    refine ControllerGroup.pane_promote (P := fun p => p.notifier.IsSettled) ?_ ?_ args.manipulators _ ?_
    · exact fun kind m c _ hp => c.isSettled_after hp (.mouse kind (ControllerGroup.promotedArgs args m))
    · exact fun c _ hp => c.isSettled_after hp .lostCapture
    · exact ControllerGroup.pane_offer (P := fun p => p.notifier.IsSettled)
        (fun c _ hp => c.isSettled_after hp (.touch action args)) _ handled h
  | tick now =>
    refine ControllerGroup.pane_each (P := fun p => p.notifier.IsSettled) (fun c p hp => ?_) _ h
    split
    · exact c.isSettled_after hp (.tick now)
    · exact hp
  | lostCapture => exact ControllerGroup.isSettled_lostCapture h
  | remove id => exact ControllerGroup.isSettled_remove h id

/-- What happens to a group and its pane. -/
inductive SurfaceEvent (α : Type) [Scalar α] [Decimals α] where
  | call (call : GroupCall α)
  | add (c : Controller α)
  /-- Something that anybody else does. -/
  | other (event : OthersEvent α)
  | addRecorder (number : Nat)
  | dropObserver (id : ObserverId)
  | subscribe (id : ObserverId)
  | unsubscribe (id : SubscriptionId)

namespace SurfaceEvent

def apply (s : ControllerGroup (Controller α) × Pane α) :
    SurfaceEvent α → ControllerGroup (Controller α) × Pane α
  | call c => GroupCall.apply s c
  | add c => (s.1.add c, s.2)
  | other event => (s.1, event.on s.2)
  | addRecorder number =>
    (s.1, { s.2 with notifier := s.2.notifier.addObserver (.recorder number) (.recorder []) })
  | dropObserver id => (s.1, { s.2 with notifier := s.2.notifier.dropObserver id })
  | subscribe id => (s.1, { s.2 with notifier := (s.2.notifier.subscribe id).1 })
  | unsubscribe id => (s.1, { s.2 with notifier := s.2.notifier.unsubscribe id })

def run (events : List (SurfaceEvent α)) (s : ControllerGroup (Controller α) × Pane α) :
    ControllerGroup (Controller α) × Pane α := events.foldl apply s

theorem isSettled_apply {s : ControllerGroup (Controller α) × Pane α} (h : s.2.notifier.IsSettled)
    (e : SurfaceEvent α) : (apply s e).2.notifier.IsSettled := by
  cases e with
  | call c => exact GroupCall.isSettled_apply h c
  | other event =>
    cases event with
    | callback c call => exact c.isSettled_after h call
    | axisWrite axisId write =>
      have hinforms : Notifier.Informs 0 s.2.notifier (s.2.writeAxis axisId write).notifier :=
        s.2.informs_writeAxis axisId write
      exact hinforms.settled h
    | notify change => exact (Notifier.informs_notify 0 s.2.notifier change).settled h
    | suspend => exact (Notifier.informs_suspend 0 s.2.notifier).settled h
    | resume => exact (Notifier.informs_resume 0 s.2.notifier).settled h
  | addRecorder number =>
    show (s.2.notifier.addObserver _ _).IsSettled
    unfold Notifier.addObserver
    split <;> exact h
  | add _ | dropObserver _ | subscribe _ | unsubscribe _ => exact h

theorem isSettled_run {s : ControllerGroup (Controller α) × Pane α} (h : s.2.notifier.IsSettled)
    (events : List (SurfaceEvent α)) : (run events s).2.notifier.IsSettled := by
  induction events generalizing s with
  | nil => exact h
  | cons e rest ih => exact ih (isSettled_apply h e)

end SurfaceEvent

/-! ### Main result -/

namespace ControllerGroup

open Notifier (Hands Consolidated)

/-- Two axes, an observer of both, and a pan that fits the y axis after each move or does not. -/
def observedPan (zoomExtentsY : Bool) : ControllerGroup (Controller Float) × Pane Float :=
  let p : Pane Float :=
    ((Pane.new ⟨0, 0, 400, 300⟩ .cartesian).addAxis .x (.new "x" true (.double (.new 0 100)))).addAxis .y
      (.new "y" false (.double (.new 0 30)))
  let observed := ((p.notifier.addObserver (.recorder 0) (.recorder [])).subscribe (.recorder 0)).1
  let config : ZoomPanConfig Float := { ZoomPanConfig.default with clipModeX := .none, zoomExtentsY }
  (.ofList [.zoomPan (.ofInertia 1 config (.atRest .default))], { p with notifier := observed })

end ControllerGroup

end ChartGestures
