import ChartGestures.Proofs.Gesture.PointerOwnership
import Mathlib.Data.List.Forall2
import Mathlib.Data.List.Nodup

/-!
# Touches that pass for the mouse

A group replays a lone touch as the left mouse button. It follows the fingers one by one, in the order in which an event
names them, so the replay goes in blocks: a press when the first finger comes, moves while it is alone, and then the
release of that finger or, if a second one joins it, a lost capture. No drag session outlasts the coming of the second.
-/

namespace ChartGestures

/-! ### Fingers -/

namespace Manipulator

variable {α : Type}

/-- The fingers on the screen after one of them came, moved or went. -/
def track (fingers : List Nat) (m : Manipulator α) : List Nat :=
  match m.action with
  | .down => fingers ++ [m.id]
  | .move => fingers
  | .up => fingers.filter (· ≠ m.id)

/-- Only a finger that is not there comes, and only one that is there moves or goes. -/
def fits (fingers : List Nat) (m : Manipulator α) : Bool :=
  match m.action with
  | .down => decide (m.id ∉ fingers)
  | .move | .up => decide (m.id ∈ fingers)

def fitAll (fingers : List Nat) : List (Manipulator α) → Bool
  | [] => true
  | m :: rest => m.fits fingers && fitAll (m.track fingers) rest

theorem filter_ne_of_not_mem {fingers : List Nat} {id : Nat} (h : id ∉ fingers) : fingers.filter (· ≠ id) = fingers := by
  rw [List.filter_eq_self]
  intro other hother
  rw [decide_eq_true_eq]
  exact fun heq => h (heq ▸ hother)

theorem nodup_track {fingers : List Nat} {m : Manipulator α} (hfits : m.fits fingers = true) (h : fingers.Nodup) :
    (m.track fingers).Nodup := by
  rw [fits] at hfits
  rw [track]
  cases haction : m.action with
  | down =>
    rw [haction] at hfits
    rw [← List.concat_eq_append]
    exact List.Nodup.concat (of_decide_eq_true hfits) h
  | move => exact h
  | up => exact h.filter _

end Manipulator

namespace ControllerGroup

/-! ### What the fingers do as the mouse -/

section Promotions

variable {α κ : Type} [Scalar α] [Decimals α] [GestureController α κ]

/-- What the fingers of an event do as the mouse, one after the other. -/
def promotions {α κ : Type} (g : ControllerGroup κ) : List (Manipulator α) → List Promotion
  | [] => []
  | m :: rest => (g.follow m).2 :: (g.follow m).1.promotions rest

/-- Carries out on controllers and their pane what a finger does as the mouse. -/
def perform (args : TouchArgs α) (m : Manipulator α) : Promotion → List κ × Pane α → List κ × Pane α
  | .none, s => s
  | .lostCapture, s => each GestureController.lostCapture s.1 s.2
  | .mouse kind, s =>
    let (cs, p, _) := offer (fun c => GestureController.mouse kind c (promotedArgs args m)) s.1 s.2 false
    (cs, p)

/-- The fingers are followed without regard of the controllers. -/
theorem follow_withControllers {α κ : Type} (g : ControllerGroup κ) (cs : List κ) (m : Manipulator α) :
    { g with controllers := cs }.follow m = ({ (g.follow m).1 with controllers := cs }, (g.follow m).2) := by
  unfold follow
  cases m.action with
  | down =>
    dsimp only
    split <;> rfl
  | move => rfl
  | up =>
    dsimp only
    split <;> rfl

theorem controllers_follow {α κ : Type} (g : ControllerGroup κ) (m : Manipulator α) :
    (g.follow m).1.controllers = g.controllers :=
  congrArg (·.1.controllers) (g.follow_withControllers g.controllers m)

theorem promotions_withControllers {α κ : Type} (g : ControllerGroup κ) (cs : List κ) (ms : List (Manipulator α)) :
    { g with controllers := cs }.promotions ms = g.promotions ms := by
  induction ms generalizing g with
  | nil => rfl
  | cons m rest ih =>
    rw [promotions, promotions, follow_withControllers]
    exact congrArg _ (ih (g.follow m).1)

theorem promote_cons (args : TouchArgs α) (m : Manipulator α) (rest : List (Manipulator α)) (g : ControllerGroup κ)
    (p : Pane α) :
    promote args (m :: rest) g p =
      promote args rest { (g.follow m).1 with controllers := (perform args m (g.follow m).2 (g.controllers, p)).1 }
        (perform args m (g.follow m).2 (g.controllers, p)).2 := by
  rw [promote, ← controllers_follow g m]
  dsimp only
  cases (g.follow m).2 <;> rfl

theorem promote_performs (args : TouchArgs α) (ms : List (Manipulator α)) (g : ControllerGroup κ) (p : Pane α) :
    ((promote args ms g p).1.controllers, (promote args ms g p).2) =
      (ms.zip (g.promotions ms)).foldl (fun s e => perform args e.1 e.2 s) (g.controllers, p) := by
  induction ms generalizing g p with
  | nil => rfl
  | cons m rest ih =>
    rw [promote_cons, ih, promotions_withControllers]
    rfl

/-- A touch event is offered to the controllers, and then does to them and the pane what its promotions say, in their
order. -/
theorem dispatchTouch_performs (g : ControllerGroup κ) (action : TouchAction) (args : TouchArgs α) (handled : Bool)
    (p : Pane α) :
    let offered := offer (fun c => GestureController.touch action c args) g.controllers p handled
    let dispatched := g.dispatchTouch action args handled p
    (dispatched.1.controllers, dispatched.2.1) =
      (args.manipulators.zip (g.promotions args.manipulators)).foldl (fun s e => perform args e.1 e.2 s)
        (offered.1, offered.2.1) := by
  intro offered dispatched
  rw [← promotions_withControllers g offered.1]
  exact promote_performs args args.manipulators { g with controllers := offered.1 } offered.2.1

/-! ### What holds of every controller -/

variable {μ : Type} {R : μ → κ → Prop} {l : List μ} {cs : List κ}

omit [Scalar α] [GestureController α κ] in
theorem forall_of_forall₂ {P : κ → Prop} (h : List.Forall₂ (fun (_ : μ) => P) l cs) : ∀ c ∈ cs, P c := by
  induction h with
  | nil => exact List.forall_mem_nil P
  | cons hc _ ih => exact List.forall_mem_cons.2 ⟨hc, ih⟩

omit [GestureController α κ] in
theorem forall₂_each {S : μ → κ → Prop} {f : κ → Pane α → κ × Pane α} (hf : ∀ a c p, R a c → S a (f c p).1)
    (h : List.Forall₂ R l cs) (p : Pane α) : List.Forall₂ S l (each f cs p).1 := by
  induction h generalizing p with
  | nil => exact .nil
  | cons hc _ ih => exact .cons (hf _ _ p hc) (ih _)

theorem forall₂_offer {react : κ → Pane α → Reaction α κ} (hreact : ∀ a c p, R a c → R a (react c p).controller)
    (h : List.Forall₂ R l cs) (p : Pane α) (handled : Bool) : List.Forall₂ R l (offer react cs p handled).1 := by
  induction h generalizing p handled with
  | nil => exact .nil
  | cons hc _ ih =>
    unfold offer
    split
    · exact .cons hc (ih ..)
    · exact .cons (hreact _ _ p hc) (ih ..)

theorem forall₂_promote {args : TouchArgs α}
    (hmouse : ∀ kind m a c p, R a c → R a (GestureController.mouse kind c (promotedArgs args m) p).controller)
    (hlost : ∀ a c (p : Pane α), R a c → R a (GestureController.lostCapture c p).1) (ms : List (Manipulator α))
    {g : ControllerGroup κ} (h : List.Forall₂ R l g.controllers) (p : Pane α) :
    List.Forall₂ R l (promote args ms g p).1.controllers := by
  induction ms generalizing g p with
  | nil => exact h
  | cons m rest ih =>
    rw [promote_cons]
    refine ih ?_ _
    cases (g.follow m).2 with
    | none => exact h
    | mouse kind => exact forall₂_offer (hmouse kind m) h _ _
    | lostCapture => exact forall₂_each hlost h _

/-! ### What holds of the pane -/

variable {P : Pane α → Prop} {p : Pane α}

omit [GestureController α κ] in
theorem pane_each {f : κ → Pane α → κ × Pane α} (hf : ∀ c p, P p → P (f c p).2) (cs : List κ) (h : P p) :
    P (each f cs p).2 := by
  induction cs generalizing p with
  | nil => exact h
  | cons c rest ih => exact ih (hf c p h)

theorem pane_offer {react : κ → Pane α → Reaction α κ} (hreact : ∀ c p, P p → P (react c p).pane) (cs : List κ)
    (handled : Bool) (h : P p) : P (offer react cs p handled).2.1 := by
  induction cs generalizing p handled with
  | nil => exact h
  | cons c rest ih =>
    unfold offer
    split
    · exact ih handled h
    · exact ih _ (hreact c p h)

theorem pane_promote {args : TouchArgs α}
    (hmouse : ∀ kind m (c : κ) p, P p → P (GestureController.mouse kind c (promotedArgs args m) p).pane)
    (hlost : ∀ (c : κ) p, P p → P (GestureController.lostCapture c p).2) (ms : List (Manipulator α))
    (g : ControllerGroup κ) (h : P p) : P (promote args ms g p).2 := by
  induction ms generalizing g p with
  | nil => exact h
  | cons m rest ih =>
    rw [promote_cons]
    refine ih _ ?_
    cases (g.follow m).2 with
    | none => exact h
    | mouse kind => exact pane_offer (hmouse kind m) g.controllers false h
    | lostCapture => exact pane_each hlost g.controllers h

end Promotions

/-- Blocks of a press, moves, and one release or lost capture, the last of them open or not. -/
inductive Bracketed : Bool → List Promotion → Prop
  | start : Bracketed false []
  | none {isOpen : Bool} {log : List Promotion} (h : Bracketed isOpen log) : Bracketed isOpen (log ++ [.none])
  | press {log : List Promotion} (h : Bracketed false log) : Bracketed true (log ++ [.mouse .down])
  | move {log : List Promotion} (h : Bracketed true log) : Bracketed true (log ++ [.mouse .move])
  | release {log : List Promotion} (h : Bracketed true log) : Bracketed false (log ++ [.mouse .up])
  | lostCapture {log : List Promotion} (h : Bracketed true log) : Bracketed false (log ++ [.lostCapture])

/-! ### Sessions under touch input -/

variable {α : Type} [Scalar α] [Decimals α]

theorem forall_each {P : Controller α → Prop} {f : Controller α → Pane α → Controller α × Pane α}
    (hf : ∀ c p, P c → P (f c p).1) {cs : List (Controller α)} (hcs : ∀ c ∈ cs, P c) (p : Pane α) :
    ∀ c ∈ (each f cs p).1, P c :=
  forall_of_forall₂ (forall₂_each (fun _ => hf) (List.forall₂_same.2 hcs) p)

variable [Trigonometry α]

theorem forall_offer {P : Controller α → Prop} {react : Controller α → Pane α → Reaction α (Controller α)}
    (hreact : ∀ c p, P c → P (react c p).controller) {cs : List (Controller α)} (hcs : ∀ c ∈ cs, P c) (p : Pane α)
    (handled : Bool) : ∀ c ∈ (offer react cs p handled).1, P c :=
  forall_of_forall₂ (forall₂_offer (fun _ => hreact) (List.forall₂_same.2 hcs) p handled)

/-- The group has followed the fingers on the screen, and what it replayed came in blocks. -/
structure Replays (g : ControllerGroup (Controller α)) (fingers : List Nat) (log : List Promotion) : Prop where
  touches : g.activeTouches = fingers
  nodup : fingers.Nodup
  lone : ∀ i, g.promotedTouch = some i → fingers = [i]
  log : Bracketed g.promotedTouch.isSome log
  /-- Fingers that do not pass for the mouse leave no session on. -/
  sessions : g.promotedTouch = none → fingers ≠ [] → ∀ c ∈ g.controllers, c.inSession = false

namespace Replays

variable {g : ControllerGroup (Controller α)} {fingers : List Nat} {log : List Promotion}

omit [Trigonometry α] in
theorem bracketed {promoted : Option Nat} (h : g.Replays fingers log) (hpromoted : g.promotedTouch = promoted) :
    Bracketed promoted.isSome log :=
  hpromoted ▸ h.log

omit [Trigonometry α] in
theorem withControllers (h : g.Replays fingers log) {cs : List (Controller α)}
    (hcs : (∀ c ∈ g.controllers, c.inSession = false) → ∀ c ∈ cs, c.inSession = false) :
    { g with controllers := cs }.Replays fingers log where
  touches := h.touches
  nodup := h.nodup
  lone := h.lone
  log := h.log
  sessions hnone hsome := hcs (h.sessions hnone hsome)

theorem follow {m : Manipulator α} (h : g.Replays fingers log) (hfits : m.fits fingers = true) (args : TouchArgs α)
    (p : Pane α) :
    { (g.follow m).1 with controllers := (perform args m (g.follow m).2 (g.controllers, p)).1 }.Replays
      (m.track fingers) (log ++ [(g.follow m).2]) := by
  have hnodup := Manipulator.nodup_track hfits h.nodup
  rw [Manipulator.fits] at hfits
  rw [Manipulator.track] at hnodup ⊢
  unfold ControllerGroup.follow
  rw [h.touches]
  cases haction : m.action with
  | down =>
    rw [haction] at hfits hnodup
    simp only [Manipulator.filter_ne_of_not_mem (of_decide_eq_true hfits)]
    cases fingers with
    | nil =>
      -- the first finger: nothing was promoted, since only a lone finger is
      have hnone : g.promotedTouch = none := Option.eq_none_iff_forall_ne_some.2 fun i hi => nomatch h.lone i hi
      have hlog := h.bracketed hnone
      exact ⟨rfl, hnodup, fun i hi => by rw [Option.some.inj hi]; rfl, hlog.press, fun hsome => nomatch hsome⟩
    | cons first rest =>
      have hmore : first :: rest ≠ [] := List.cons_ne_nil first rest
      cases hpromoted : g.promotedTouch with
      | none =>
        have hlog := h.bracketed hpromoted
        exact ⟨rfl, hnodup, fun i hi => (nomatch hi), hlog.none, fun _ _ => h.sessions hpromoted hmore⟩
      | some i =>
        have hlog := h.bracketed hpromoted
        refine ⟨rfl, hnodup, fun i hi => (nomatch hi), hlog.lostCapture, fun _ _ => ?_⟩
        exact each_inSession Controller.lostCapture_inSession g.controllers p
  | move =>
    dsimp only
    split
    · next hpromoted =>
      have hlog := h.bracketed hpromoted
      refine ⟨h.touches, h.nodup, h.lone, ?_, fun hnone => ?_⟩
      · dsimp only
        rw [hpromoted]
        exact hlog.move
      · rw [hpromoted] at hnone
        cases hnone
    · exact ⟨h.touches, h.nodup, h.lone, h.log.none, h.sessions⟩
  | up =>
    rw [haction] at hfits hnodup
    dsimp only
    split
    · next hpromoted =>
      have hlog := h.bracketed hpromoted
      have hempty : fingers.filter (· ≠ m.id) = [] := by
        rw [h.lone m.id hpromoted]
        simp
      exact ⟨rfl, hnodup, fun i hi => (nomatch hi), hlog.release, fun _ hsome => absurd hempty hsome⟩
    · next hother =>
      have hthere : m.id ∈ fingers := of_decide_eq_true hfits
      refine ⟨rfl, hnodup, fun i hi => ?_, h.log.none, fun hnone hsome => ?_⟩
      · -- a lone finger that goes is the promoted one
        have hlone := h.lone i hi
        rw [hlone, List.mem_singleton] at hthere
        exact absurd (hthere ▸ hi) hother
      · exact h.sessions hnone (List.ne_nil_of_mem hthere)

theorem promote {ms : List (Manipulator α)} (h : g.Replays fingers log)
    (hfit : Manipulator.fitAll fingers ms = true) (args : TouchArgs α) (p : Pane α) :
    (promote args ms g p).1.Replays (ms.foldl Manipulator.track fingers) (log ++ g.promotions ms) := by
  induction ms generalizing g fingers log p with
  | nil =>
    rw [promotions, List.append_nil]
    exact h
  | cons m rest ih =>
    rw [Manipulator.fitAll, Bool.and_eq_true] at hfit
    have hlater := ih (h.follow hfit.1 args p) hfit.2 (perform args m (g.follow m).2 (g.controllers, p)).2
    rw [promotions_withControllers, List.append_assoc] at hlater
    rw [promote_cons]
    exact hlater

theorem dispatchTouch {args : TouchArgs α} (h : g.Replays fingers log)
    (hfit : Manipulator.fitAll fingers args.manipulators = true) (action : TouchAction) (handled : Bool) (p : Pane α) :
    (g.dispatchTouch action args handled p).1.Replays (args.manipulators.foldl Manipulator.track fingers)
      (log ++ g.promotions args.manipulators) := by
  have htouch (c : Controller α) (p : Pane α) (hc : c.inSession = false) :
      (Controller.touch action c args p).controller.inSession = false := by
    cases c with
    | pinchZoom c => cases action <;> rfl
    | _ => cases action <;> exact hc
  have hoffered : { g with controllers := (offer (fun c => GestureController.touch action c args) g.controllers p
      handled).1 }.Replays fingers log :=
    h.withControllers fun hcs => forall_offer htouch hcs p handled
  rw [← promotions_withControllers g
    (offer (fun c => GestureController.touch action c args) g.controllers p handled).1]
  exact hoffered.promote hfit args _

theorem tick (h : g.Replays fingers log) (now : Nat) (p : Pane α) : (g.tick now p).1.Replays fingers log := by
  refine h.withControllers fun hcs => forall_each (fun c p hc => ?_) hcs p
  split
  · cases c with
    | zoomPan c =>
      change (c.tick now p).1.session.isSome = false
      unfold ZoomPan.tick
      dsimp only
      repeat' split
      all_goals exact hc
    | _ => exact hc
  · exact hc

end Replays

end ControllerGroup

end ChartGestures
