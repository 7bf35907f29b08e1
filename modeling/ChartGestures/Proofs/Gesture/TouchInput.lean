import ChartGestures.Proofs.Gesture.TouchPromotion

/-!
# Fingers as the group and as its pinch know them

A group and the pinch in it follow the fingers on the screen independently. Whatever touch input comes, the group replays
its lone touches in blocks and has no drag session on while two fingers are down. The pinch agrees with it, and is on
while there are two fingers or more, as long as it is shown every touch: one that arrives claimed is hidden from it, and
an event that says it moves fingers starts and ends no pinch, even if fingers come and go in it.
-/

namespace ChartGestures

variable {α : Type} [Scalar α] [Decimals α] [Trigonometry α]

/-! ### The fingers of a pinch -/

namespace PinchZoom

variable {c : PinchZoom α} {fingers : List Nat} {args : TouchArgs α}

/-- The pinch knows the fingers on the screen, and is on if there are two or more. -/
structure Follows (c : PinchZoom α) (fingers : List Nat) : Prop where
  touches : (c.touches.map (·.1)).Perm fingers
  pinching : c.isPinching = decide (2 ≤ fingers.length)

omit [Scalar α] [Trigonometry α] [Decimals α] in
theorem perm_trackOne {touches : List (Nat × Point α)} {m : Manipulator α} (hfits : m.fits fingers = true)
    (hnodup : fingers.Nodup) (h : (touches.map (·.1)).Perm fingers) :
    ((trackOne touches m).map (·.1)).Perm (m.track fingers) := by
  have hothers : ((touches.filter fun touch => touch.1 ≠ m.id).map (·.1)).Perm (fingers.filter (· ≠ m.id)) := by
    have hmap : (touches.filter fun touch => touch.1 ≠ m.id).map (·.1) = (touches.map (·.1)).filter (· ≠ m.id) := by
      rw [List.filter_map]
      rfl
    rw [hmap]
    exact h.filter _
  rw [Manipulator.fits] at hfits
  rw [trackOne, Manipulator.track]
  cases haction : m.action with
  | down =>
    rw [haction] at hfits
    rw [Manipulator.filter_ne_of_not_mem (of_decide_eq_true hfits)] at hothers
    rw [List.map_append]
    exact hothers.append_right _
  | move =>
    rw [haction] at hfits
    have hback : (fingers.filter (· ≠ m.id) ++ [m.id]).Perm fingers := by
      have herase : fingers.erase m.id = fingers.filter (· ≠ m.id) := by
        rw [hnodup.erase_eq_filter]
        exact List.filter_congr fun _ _ => decide_not.symm
      rw [← herase]
      exact (List.perm_append_singleton ..).trans (List.perm_cons_erase (of_decide_eq_true hfits)).symm
    rw [List.map_append]
    exact (hothers.append_right _).trans hback
  | up => exact hothers

omit [Scalar α] [Trigonometry α] [Decimals α] in
theorem perm_foldl_trackOne {ms : List (Manipulator α)} {touches : List (Nat × Point α)}
    (hfit : Manipulator.fitAll fingers ms = true) (hnodup : fingers.Nodup) (h : (touches.map (·.1)).Perm fingers) :
    ((ms.foldl trackOne touches).map (·.1)).Perm (ms.foldl Manipulator.track fingers) := by
  induction ms generalizing touches fingers with
  | nil => exact h
  | cons m rest ih =>
    rw [Manipulator.fitAll, Bool.and_eq_true] at hfit
    exact ih hfit.2 (Manipulator.nodup_track hfit.1 hnodup) (perm_trackOne hfit.1 hnodup h)

omit [Decimals α] in
theorem isPinching_resetReference (c : PinchZoom α) :
    c.resetReference.isPinching = decide (2 ≤ c.touches.length) := by
  rw [isPinching, resetReference, currentExtent]
  by_cases hfew : c.touches.length < 2
  · rw [if_pos hfew, decide_eq_false (Nat.not_le.2 hfew)]
    rfl
  · rw [if_neg hfew, decide_eq_true (Nat.not_lt.1 hfew)]
    match hpoints : c.touches with
    | [] => simp [hpoints] at hfew
    | _ :: _ => rfl

theorem touches_flush (c : PinchZoom α) (p : Pane α) : (c.flush p).1.touches = c.touches := by
  unfold flush
  dsimp only
  split <;> rfl

theorem Follows.flush (h : c.Follows fingers) (p : Pane α) : (c.flush p).1.Follows fingers := by
  refine ⟨by rw [touches_flush]; exact h.touches, ?_⟩
  unfold PinchZoom.flush
  dsimp only
  split
  · exact h.pinching
  · rw [isPinching_resetReference, ← h.touches.length_eq, List.length_map]

omit [Decimals α] in
/-- A pinch that measures its fingers anew is on if there are two of them. -/
theorem Follows.resetReference (h : (c.touches.map (·.1)).Perm fingers) : c.resetReference.Follows fingers where
  touches := h
  pinching := by rw [isPinching_resetReference, ← h.length_eq, List.length_map]

theorem Follows.touch {action : TouchAction} (h : c.Follows fingers) (hnodup : fingers.Nodup)
    (hfit : Manipulator.fitAll fingers args.manipulators = true)
    (hmove : action = .move →
      (2 ≤ fingers.length ↔ 2 ≤ (args.manipulators.foldl Manipulator.track fingers).length)) (p : Pane α) :
    (match action with
      | .down => (c.touchDown args p).controller
      | .move => (c.touchMove args p).controller
      | .up => (c.touchUp args p).controller).Follows (args.manipulators.foldl Manipulator.track fingers) := by
  have hflushed : (((c.flush p).1.track args).touches.map (·.1)).Perm
      (args.manipulators.foldl Manipulator.track fingers) := perm_foldl_trackOne hfit hnodup (h.flush p).touches
  cases action with
  | down => exact .resetReference hflushed
  | move =>
    have htracked : (c.track args).Follows (args.manipulators.foldl Manipulator.track fingers) := by
      refine ⟨perm_foldl_trackOne hfit hnodup h.touches, ?_⟩
      rw [← decide_eq_decide.2 (hmove rfl)]
      exact h.pinching
    dsimp only
    unfold touchMove
    dsimp only
    split <;> exact ⟨htracked.touches, htracked.pinching⟩
  | up => exact .resetReference hflushed

theorem Follows.tick (h : c.Follows fingers) (now : Nat) (p : Pane α) : (c.tick now p).1.Follows fingers := by
  have hpolled : { c with timer := (c.timer.poll now).2 }.Follows fingers := ⟨h.touches, h.pinching⟩
  unfold PinchZoom.tick
  dsimp only
  split
  · exact hpolled.flush p
  · exact hpolled

end PinchZoom

/-! ### The pinch of a group -/

def Controller.pinch? {α : Type} [Scalar α] [Decimals α] : Controller α → Option (PinchZoom α)
  | pinchZoom c => some c
  | _ => none

namespace ControllerGroup

variable {cs cs' : List (Controller α)} {z : PinchZoom α}

/-- What is done to `c'` since it was `c` is nothing to a pinch. -/
def SparesPinch {α : Type} [Scalar α] [Decimals α] (c c' : Controller α) : Prop := c'.pinch? = c.pinch?

omit [Trigonometry α] in
theorem forall₂_sparesPinch (cs : List (Controller α)) : List.Forall₂ SparesPinch cs cs :=
  List.forall₂_same.2 fun _ _ => rfl

omit [Trigonometry α] in
theorem filterMap_of_forall₂ (h : List.Forall₂ SparesPinch cs cs') :
    cs'.filterMap Controller.pinch? = cs.filterMap Controller.pinch? := by
  induction h with
  | nil => rfl
  | cons hc _ ih => rw [List.filterMap_cons, List.filterMap_cons, show _ = _ from hc, ih]

omit [Trigonometry α] in
theorem filterMap_each {f : Controller α → Pane α → Controller α × Pane α} (hf : ∀ c p, (f c p).1.pinch? = c.pinch?)
    (cs : List (Controller α)) (p : Pane α) :
    (each f cs p).1.filterMap Controller.pinch? = cs.filterMap Controller.pinch? :=
  filterMap_of_forall₂ (forall₂_each (fun _ c p h => (hf c p).trans h) (forall₂_sparesPinch cs) p)

/-- The replay of touches as the mouse is nothing to a pinch. -/
theorem filterMap_promote (args : TouchArgs α) (ms : List (Manipulator α)) (g : ControllerGroup (Controller α))
    (p : Pane α) :
    (promote args ms g p).1.controllers.filterMap Controller.pinch? = g.controllers.filterMap Controller.pinch? := by
  have hmouse (kind : MouseEventKind) (args : MouseArgs α) (c : Controller α) (p : Pane α) :
      (Controller.mouse kind c args p).controller.pinch? = c.pinch? := by
    cases c <;> cases kind <;> rfl
  have hlost (c : Controller α) (p : Pane α) : (c.lostCapture p).1.pinch? = c.pinch? := by
    cases c <;> rfl
  refine filterMap_of_forall₂ (forall₂_promote (R := SparesPinch) ?_ ?_ ms (forall₂_sparesPinch g.controllers) p)
  · exact fun kind m _ c p h => (hmouse kind (promotedArgs args m) c p).trans h
  · exact fun _ c p h => (hlost c p).trans h

theorem offer_touch_of_no_pinch (hcs : cs.filterMap Controller.pinch? = []) (action : TouchAction) (args : TouchArgs α)
    (p : Pane α) (handled : Bool) :
    (offer (fun c => Controller.touch action c args) cs p handled).1.filterMap Controller.pinch? = [] := by
  rw [List.filterMap_eq_nil_iff] at hcs ⊢
  refine forall_offer (fun c p hc => ?_) hcs p handled
  cases c with
  | pinchZoom c => cases hc
  | _ => cases action <;> rfl

/-- Of the controllers only the pinch has an eye for an unclaimed touch. -/
theorem filterMap_offer_touch (hcs : cs.filterMap Controller.pinch? = [z]) (action : TouchAction) (args : TouchArgs α)
    (p : Pane α) :
    (offer (fun c => Controller.touch action c args) cs p false).1.filterMap Controller.pinch? =
      [match action with
        | .down => (z.touchDown args p).controller
        | .move => (z.touchMove args p).controller
        | .up => (z.touchUp args p).controller] := by
  induction cs with
  | nil => cases hcs
  | cons c rest ih =>
    rw [offer_cons]
    cases c with
    | pinchZoom c =>
      obtain ⟨rfl, hrest⟩ := List.cons.inj hcs
      have hnone := offer_touch_of_no_pinch hrest action args
      cases action <;> exact congrArg _ (hnone _ _)
    | _ =>
      have hrest := ih hcs
      cases action <;> exact hrest

end ControllerGroup

/-! ### Runs of touch input -/

namespace GroupCall

/-- The fingers on the screen after a call. -/
def fingersAfter {α : Type} (fingers : List Nat) : GroupCall α → List Nat
  | touch _ args _ => args.manipulators.foldl Manipulator.track fingers
  | _ => fingers

/-- Touches that fit the fingers on the screen, and ticks. -/
def isTouchInput {α : Type} (fingers : List Nat) : GroupCall α → Bool
  | touch _ args _ => Manipulator.fitAll fingers args.manipulators
  | tick _ => true
  | mouse .. | lostCapture | remove _ => false

def areTouchInput {α : Type} (fingers : List Nat) : List (GroupCall α) → Bool
  | [] => true
  | call :: rest => call.isTouchInput fingers && areTouchInput (call.fingersAfter fingers) rest

/-- Whether a touch comes to the pinch unclaimed and, if it says that it moves fingers, neither brings them to two nor
back below. -/
def isShownToPinch {α : Type} (fingers : List Nat) : GroupCall α → Bool
  | touch action args handled =>
    !handled && (action != .move ||
      decide (2 ≤ fingers.length) == decide (2 ≤ (args.manipulators.foldl Manipulator.track fingers).length))
  | _ => true

def areShownToPinch {α : Type} (fingers : List Nat) : List (GroupCall α) → Bool
  | [] => true
  | call :: rest => call.isShownToPinch fingers && areShownToPinch (call.fingersAfter fingers) rest

/-- What the fingers do as the mouse in a call. -/
def promotions (g : ControllerGroup (Controller α)) : GroupCall α → List ControllerGroup.Promotion
  | touch _ args _ => g.promotions args.manipulators
  | _ => []

/-- What the fingers do as the mouse in a run. -/
def promotionsOf (s : ControllerGroup (Controller α) × Pane α) : List (GroupCall α) → List ControllerGroup.Promotion
  | [] => []
  | call :: rest => call.promotions s.1 ++ promotionsOf (call.apply s) rest

end GroupCall

namespace ControllerGroup

variable {g : ControllerGroup (Controller α)} {p : Pane α} {fingers : List Nat} {log : List Promotion}

open GroupCall (areTouchInput areShownToPinch promotionsOf)

theorem Replays.apply {call : GroupCall α} (h : g.Replays fingers log) (hcall : call.isTouchInput fingers = true) :
    (call.apply (g, p)).1.Replays (call.fingersAfter fingers) (log ++ call.promotions g) := by
  cases call with
  | touch action args handled => exact h.dispatchTouch hcall action handled p
  | tick now =>
    have hnothing : (GroupCall.tick now : GroupCall α).promotions g = [] := rfl
    rw [hnothing, List.append_nil]
    exact h.tick now p
  | mouse kind args => cases hcall
  | lostCapture => cases hcall
  | remove id => cases hcall

theorem Replays.run {calls : List (GroupCall α)} (h : g.Replays fingers log)
    (hcalls : areTouchInput fingers calls = true) :
    (GroupCall.run calls (g, p)).1.Replays (calls.foldl GroupCall.fingersAfter fingers)
      (log ++ promotionsOf (g, p) calls) := by
  induction calls generalizing g p fingers log with
  | nil =>
    rw [promotionsOf, List.append_nil]
    exact h
  | cons call rest ih =>
    rw [areTouchInput, Bool.and_eq_true] at hcalls
    have hlater := ih (p := (call.apply (g, p)).2) (h.apply (p := p) hcalls.1) hcalls.2
    rw [List.append_assoc] at hlater
    exact hlater

/-- The controllers have one pinch, and it follows the fingers. -/
def IsPinchedBy (g : ControllerGroup (Controller α)) (fingers : List Nat) : Prop :=
  ∃ z, g.controllers.filterMap Controller.pinch? = [z] ∧ z.Follows fingers

theorem IsPinchedBy.apply {call : GroupCall α} (h : g.IsPinchedBy fingers) (hnodup : fingers.Nodup)
    (hcall : call.isTouchInput fingers = true) (hshown : call.isShownToPinch fingers = true) :
    (call.apply (g, p)).1.IsPinchedBy (call.fingersAfter fingers) := by
  obtain ⟨z, hz, hfollows⟩ := h
  cases call with
  | touch action args handled =>
    rw [GroupCall.isShownToPinch, Bool.and_eq_true, Bool.not_eq_true'] at hshown
    obtain ⟨rfl, hmove⟩ := hshown
    have hmove (h : action = .move) :
        2 ≤ fingers.length ↔ 2 ≤ (args.manipulators.foldl Manipulator.track fingers).length := by
      rw [h] at hmove
      exact decide_eq_decide.1 (beq_iff_eq.1 hmove)
    exact ⟨_, (filterMap_promote ..).trans (filterMap_offer_touch hz action args p),
      hfollows.touch hnodup hcall hmove p⟩
  | tick now =>
    have hticked : List.Forall₂
        (fun c c' : Controller α => Option.Rel (fun z z' => z.Follows fingers → z'.Follows fingers) c.pinch? c'.pinch?)
        g.controllers (g.tick now p).1.controllers := by
      refine forall₂_each (R := Eq) ?_ (List.forall₂_same.2 fun _ _ => rfl) p
      rintro c _ p rfl
      cases c with
      | pinchZoom c =>
        split
        · exact .some fun h => h.tick now p
        · exact .some id
      | _ => split <;> exact .none
    have hall := List.rel_filterMap (fun _ _ h => h) hticked
    rw [hz, List.forall₂_cons_left_iff] at hall
    obtain ⟨z', rest, hz', hrest, heq⟩ := hall
    rw [List.forall₂_nil_left_iff.1 hrest] at heq
    exact ⟨z', heq, hz' hfollows⟩
  | mouse kind args => cases hcall
  | lostCapture => cases hcall
  | remove id => cases hcall

theorem IsPinchedBy.run {calls : List (GroupCall α)} (h : g.IsPinchedBy fingers) (hreplays : g.Replays fingers log)
    (hcalls : areTouchInput fingers calls = true) (hshown : areShownToPinch fingers calls = true) :
    (GroupCall.run calls (g, p)).1.IsPinchedBy (calls.foldl GroupCall.fingersAfter fingers) := by
  induction calls generalizing g p fingers log with
  | nil => exact h
  | cons call rest ih =>
    rw [areTouchInput, Bool.and_eq_true] at hcalls
    rw [areShownToPinch, Bool.and_eq_true] at hshown
    exact ih (p := (call.apply (g, p)).2) (h.apply hreplays.nodup hcalls.1 hshown.1) (hreplays.apply hcalls.1) hcalls.2
      hshown.2

/-- Whatever touch input an attached group gets, it promotes a finger only while that is the only one, and no drag session
is on while two fingers are down. What the fingers do as the mouse comes in blocks, and the next touch carries out its
part of it. If the one pinch of the group is shown every touch, it is on if and only if two fingers or more are down, and
so no drag session is on with it. -/
theorem touch_promotion_is_bracketed {cs : List (Controller α)} {z₀ : PinchZoom α}
    (hpinch : cs.filterMap Controller.pinch? = [z₀]) (hfresh : z₀.Follows []) (p : Pane α)
    {calls : List (GroupCall α)} (hcalls : areTouchInput [] calls = true) :
    let start := (ofList cs).attach p
    let s := GroupCall.run calls start
    let fingers := calls.foldl GroupCall.fingersAfter []
    s.1.activeTouches = fingers ∧
      (∀ i, s.1.promotedTouch = some i → s.1.activeTouches = [i]) ∧
      Bracketed s.1.promotedTouch.isSome (promotionsOf start calls) ∧
      (∀ action args handled,
        let offered := offer (fun c => GestureController.touch action c args) s.1.controllers s.2 handled
        let dispatched := s.1.dispatchTouch action args handled s.2
        (dispatched.1.controllers, dispatched.2.1) =
          (args.manipulators.zip (s.1.promotions args.manipulators)).foldl (fun s e => perform args e.1 e.2 s)
            (offered.1, offered.2.1)) ∧
      (2 ≤ fingers.length → ∀ c ∈ s.1.controllers, c.inSession = false) ∧
      (areShownToPinch [] calls = true → ∃ z, s.1.controllers.filterMap Controller.pinch? = [z] ∧
        (z.isPinching = true ↔ 2 ≤ fingers.length) ∧
        (z.isPinching = true → ∀ c ∈ s.1.controllers, c.inSession = false)) := by
  intro start s fingers
  have hstart : start.1.Replays [] [] :=
    ⟨rfl, List.nodup_nil, fun i hi => (nomatch hi), .start, fun _ hsome => absurd rfl hsome⟩
  have hreplays : s.1.Replays fingers (promotionsOf start calls) := hstart.run hcalls
  have hsessions (htwo : 2 ≤ fingers.length) : ∀ c ∈ s.1.controllers, c.inSession = false := by
    refine hreplays.sessions (Option.eq_none_iff_forall_ne_some.2 fun i hi => ?_) (List.ne_nil_of_length_pos (by omega))
    rw [hreplays.lone i hi] at htwo
    exact Nat.not_succ_le_self 1 htwo
  refine ⟨hreplays.touches, fun i hi => hreplays.touches.trans (hreplays.lone i hi), hreplays.log,
    fun action args handled => s.1.dispatchTouch_performs action args handled s.2, hsessions, fun hshown => ?_⟩
  have hattached : start.1.IsPinchedBy [] := by
    refine ⟨z₀, ?_, hfresh⟩
    rw [← hpinch]
    exact filterMap_each (fun c p => by cases c <;> rfl) cs p
  obtain ⟨z, hz, hfollows⟩ : s.1.IsPinchedBy fingers := hattached.run hstart hcalls hshown
  have hpinching : z.isPinching = true ↔ 2 ≤ fingers.length := by rw [hfollows.pinching, decide_eq_true_eq]
  exact ⟨z, hz, hpinching, fun h => hsessions (hpinching.1 h)⟩

/-- A finger passes for the mouse until a second one starts a pinch with it, and leaves before it. -/
theorem touch_promotion_is_bracketed_two_fingers :
    let p : Pane Float := (Pane.new ⟨0, 0, 400, 300⟩ .cartesian).addAxis .x (.new "x" true (.double (.new 0 100)))
    let z₀ : PinchZoom Float := .new 0 .default
    let cs : List (Controller Float) := [.pinchZoom z₀, .zoomPan (.ofInertia 1 .default (.atRest .default))]
    let event (action : TouchAction) (time : Nat) (fingers : List (Nat × Point Float)) : GroupCall Float :=
      .touch action ⟨fingers.map fun f => ⟨f.1, f.2, action⟩, true, time⟩ false
    let joined : List (GroupCall Float) :=
      [event .down 0 [(1, ⟨100, 100⟩)], event .move 5 [(1, ⟨110, 100⟩)], event .down 10 [(2, ⟨200, 200⟩)],
        event .move 15 [(2, ⟨220, 220⟩), (1, ⟨90, 90⟩)], .tick 90]
    let left : List (GroupCall Float) := joined ++ [event .up 95 [(1, ⟨90, 90⟩)], event .move 99 [(2, ⟨220, 220⟩)]]
    let start := (ofList cs).attach p
    let s := GroupCall.run joined start
    (cs.filterMap Controller.pinch? = [z₀] ∧ z₀.Follows [] ∧ areTouchInput [] joined = true ∧
        areTouchInput [] left = true ∧ areShownToPinch [] joined = true) ∧
      Bracketed s.1.promotedTouch.isSome (promotionsOf start joined) ∧ s.1.activeTouches = [1, 2] ∧
      (GroupCall.run left start).1.activeTouches = [2] ∧
      ∃ z, s.1.controllers.filterMap Controller.pinch? = [z] ∧ z.isPinching = true ∧
        ∀ c ∈ s.1.controllers, c.inSession = false := by
  intro p z₀ cs event joined left
  have hpinch : cs.filterMap Controller.pinch? = [z₀] := rfl
  have hfresh : z₀.Follows [] := ⟨.nil, rfl⟩
  have hjoined : areTouchInput [] joined = true := by decide +kernel
  have hleft : areTouchInput [] left = true := by decide +kernel
  have hshown : areShownToPinch [] joined = true := by decide +kernel
  have htwo : joined.foldl GroupCall.fingersAfter [] = [1, 2] := by decide +kernel
  have hone : left.foldl GroupCall.fingersAfter [] = [2] := by decide +kernel
  obtain ⟨hfingers, -, hlog, -, -, hknown⟩ := touch_promotion_is_bracketed hpinch hfresh p hjoined
  obtain ⟨hfingers', -⟩ := touch_promotion_is_bracketed hpinch hfresh p hleft
  obtain ⟨z, hz, hpinching, hsessions⟩ := hknown hshown
  have hon : z.isPinching = true := hpinching.2 (by rw [htwo]; decide)
  exact ⟨⟨hpinch, hfresh, hjoined, hleft, hshown⟩, hlog, hfingers.trans htwo, hfingers'.trans hone, z, hz, hon,
    hsessions hon⟩

/-- A second finger that arrives claimed, or in an event that says it moves fingers, is missed by the pinch. One that
left claimed is taken to be there still, and then the next finger drags under the pinch. -/
theorem pinch_misses_touches :
    let p : Pane Float := (Pane.new ⟨0, 0, 400, 300⟩ .cartesian).addAxis .x (.new "x" true (.double (.new 0 100)))
    let cs : List (Controller Float) := [.pinchZoom (.new 0 .default), .zoomPan (.ofInertia 1 .default (.atRest .default))]
    let one : Point Float := ⟨100, 100⟩
    let two : Point Float := ⟨200, 200⟩
    let claimed : List (GroupCall Float) :=
      [.touch .down ⟨[⟨1, one, .down⟩], true, 0⟩ false, .touch .down ⟨[⟨2, two, .down⟩], true, 5⟩ true]
    let mixed : List (GroupCall Float) := [.touch .move ⟨[⟨1, one, .down⟩, ⟨2, two, .down⟩], true, 0⟩ false]
    let left : List (GroupCall Float) :=
      [.touch .down ⟨[⟨1, one, .down⟩, ⟨2, two, .down⟩], true, 0⟩ false,
        .touch .up ⟨[⟨1, one, .up⟩, ⟨2, two, .up⟩], true, 5⟩ true, .touch .down ⟨[⟨3, one, .down⟩], true, 10⟩ true]
    let fingers (calls : List (GroupCall Float)) := calls.foldl GroupCall.fingersAfter []
    let after (calls : List (GroupCall Float)) := (GroupCall.run calls ((ofList cs).attach p)).1.controllers
    let pinching (calls : List (GroupCall Float)) := ((after calls).filterMap Controller.pinch?).map (·.isPinching)
    (areTouchInput [] claimed = true ∧ fingers claimed = [1, 2] ∧ pinching claimed = [false]) ∧
      (areTouchInput [] mixed = true ∧ fingers mixed = [1, 2] ∧ pinching mixed = [false]) ∧
      areTouchInput [] left = true ∧ fingers left = [3] ∧ pinching left = [true] ∧
      (after left).map Controller.inSession = [false, true] := by
  decide +kernel

end ControllerGroup

end ChartGestures
