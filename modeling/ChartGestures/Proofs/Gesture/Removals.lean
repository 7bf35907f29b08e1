import ChartGestures.Proofs.Gesture.Membership
import ChartGestures.Proofs.Gesture.PointerOwnership
import ChartGestures.Proofs.Gesture.TouchPromotion

/-!
# What a removed controller leaves behind

A controller that leaves an attached group is detached, and with that gives up the pointer, its overlay and its timer.
Input reaches the controllers of a group that is not attached as well, but nobody is detached from it: a controller that
leaves such a group in a drag keeps the pointer and its overlay, and one that coasts keeps coasting. In either case all
that a controller holds is what its own state says, whatever was added, removed, put back, attached, detached and
dispatched before.
-/

namespace ChartGestures

variable {α : Type} [Scalar α] [Decimals α]

/-- Nothing of a controller is left on a pane, and no timer of it runs. -/
structure LeavesNothing (p : Pane α) (c : Controller α) : Prop where
  pointer : p.capturedBy ≠ some c.id
  overlay : p.overlay? c.id = none
  timer : c.isTimerActive = false

namespace Controller

/-- A controller with neither a drag nor a timer on. -/
def isIdle (c : Controller α) : Bool := !c.inSession && !c.isTimerActive

theorem detached_isIdle (c : Controller α) (p : Pane α) : (c.detached p).1.isIdle = true := by
  have htimer : (c.detached p).1.isTimerActive = false := by
    cases c with
    | zoomPan c =>
      show (c.resetInertia.endDrag p).1.inertia.isActive = false
      unfold ZoomPan.endDrag
      split <;> rfl
    | _ => rfl
  rw [isIdle, c.detached_inSession p, htimer]
  rfl

variable [Trigonometry α] {c : Controller α} {p : Pane α}

theorem Coherent.leavesNothing_iff (h : c.Coherent p) : LeavesNothing p c ↔ c.isIdle = true := by
  have hpointer : p.capturedBy = some c.id ↔ c.inSession = true := by
    rw [← h.pointer, Pane.heldBy, beq_iff_eq]
  rw [isIdle, Bool.and_eq_true, Bool.not_eq_true', Bool.not_eq_true']
  constructor
  · intro hleft
    exact ⟨Bool.eq_false_iff.2 fun hsession => hleft.pointer (hpointer.2 hsession), hleft.timer⟩
  · rintro ⟨hsession, htimer⟩
    refine ⟨fun hcaptured => ?_, ?_, htimer⟩
    · rw [hpointer.1 hcaptured] at hsession
      cases hsession
    · rw [Pane.overlay?_eq_heldBy, (shows_of_not_inSession hsession).1 h.overlays]
      rfl

end Controller

variable [Trigonometry α]

/-! ### Coherent members -/

theorem Chain.append {cs cs' ds ds' : List (Controller α)} {p q r : Pane α} (h : Chain cs p cs' q) (h' : Chain ds q ds' r) :
    Chain (cs ++ ds) p (cs' ++ ds') r := by
  induction h with
  | nil => exact h'
  | cons head _ ih => exact .cons head (ih h')

namespace GroupCoherent

variable {cs cs' rest : List (Controller α)} {p p' : Pane α}

/-- A new controller holds nothing. -/
theorem insert {c : Controller α} (h : GroupCoherent cs p) (hid : c.id ∉ cs.map Controller.id) (hc : c.inSession = false) :
    GroupCoherent (c :: cs) p := by
  have hheld := h.others c.id hid
  refine ⟨List.nodup_cons.2 ⟨hid, h.nodup⟩, List.forall_mem_cons.2 ⟨⟨?_, ?_⟩, h.each⟩, fun id hother => ?_⟩
  · rw [hheld, hc]
  · rw [hheld]
    exact (Controller.shows_of_not_inSession hc).2 rfl
  · exact h.others id fun hmem => hother (List.mem_cons_of_mem c.id hmem)

/-- Some of the controllers act. -/
theorem chain_append (h : GroupCoherent (cs ++ rest) p) (hchain : Chain cs p cs' p') : GroupCoherent (cs' ++ rest) p' :=
  h.chain (hchain.append (.refl rest p'))

end GroupCoherent

namespace ControllerGroup

variable {g : ControllerGroup (Controller α)} {rest : List (Controller α)} {p : Pane α}

theorem coherent_promote (args : TouchArgs α) (ms : List (Manipulator α)) (h : GroupCoherent (g.controllers ++ rest) p) :
    GroupCoherent ((promote args ms g p).1.controllers ++ rest) (promote args ms g p).2 := by
  induction ms generalizing g p with
  | nil => exact h
  | cons m manipulators ih =>
    rw [promote_cons]
    refine ih (g := { (g.follow m).1 with controllers := (perform args m (g.follow m).2 (g.controllers, p)).1 }) ?_
    cases (g.follow m).2 with
    | none => exact h
    | lostCapture => exact h.chain_append (chain_each (fun c => c.step_lostCapture) g.controllers p)
    | mouse kind =>
      exact h.chain_append (chain_offer (fun c => c.step_mouse kind (promotedArgs args m)) g.controllers p false)

end ControllerGroup

/-- What is done to a group: to its members, or to the pane through them. -/
inductive LifeCall (α : Type) [Scalar α] [Decimals α] where
  | membership (call : MembershipCall (Controller α))
  | mouse (kind : MouseEventKind) (args : MouseArgs α) (handled : Bool)
  | touch (action : TouchAction) (args : TouchArgs α) (handled : Bool)
  | tick (now : Nat)
  | lostCapture

namespace GroupOnPane

variable {s : GroupOnPane α (Controller α)}

def after (s : GroupOnPane α (Controller α)) : LifeCall α → GroupOnPane α (Controller α)
  | .membership call => s.apply call
  | .mouse kind args handled =>
    let (group, pane, _) := s.group.dispatchMouse kind args handled s.pane
    { s with group, pane }
  | .touch action args handled =>
    let (group, pane, _) := s.group.dispatchTouch action args handled s.pane
    { s with group, pane }
  | .tick now => { s with group := (s.group.tick now s.pane).1, pane := (s.group.tick now s.pane).2 }
  | .lostCapture => { s with group := (s.group.lostCapture s.pane).1, pane := (s.group.lostCapture s.pane).2 }

def afterAll (s : GroupOnPane α (Controller α)) (calls : List (LifeCall α)) : GroupOnPane α (Controller α) :=
  calls.foldl after s

/-- A controller that is added is a new one: its id is its own, and it is in no drag. -/
def admits (s : GroupOnPane α (Controller α)) : LifeCall α → Bool
  | .membership (.add c) => !c.inSession && s.members.all (·.id != c.id)
  | _ => true

def admitsAll : GroupOnPane α (Controller α) → List (LifeCall α) → Bool
  | _, [] => true
  | s, call :: rest => s.admits call && admitsAll (s.after call) rest

theorem coherent_putBack (h : GroupCoherent s.members s.pane) (id : OwnerId) :
    GroupCoherent (s.putBack id).members (s.putBack id).pane := by
  rcases s.putBack_cases id with ⟨-, hsame⟩ | ⟨before, c, after, hremoved, -, hback⟩
  · rw [hsame]
    exact h
  · rw [hback]
    have hfront : (c :: (before ++ after)).Perm (before ++ c :: after) := List.perm_middle.symm
    refine h.perm ?_
    rw [members, members, hremoved]
    show (s.group.controllers ++ [c] ++ (before ++ after)).Perm (s.group.controllers ++ (before ++ c :: after))
    rw [List.append_assoc]
    exact hfront.append_left s.group.controllers

theorem coherent_remove (h : GroupCoherent s.members s.pane) (id : OwnerId) :
    GroupCoherent (s.remove id).members (s.remove id).pane := by
  rcases s.group.remove_cases id s.pane with ⟨-, hsame⟩ | ⟨before, c, after, hgroup, -, hremoved⟩
  · rw [remove, hsame]
    show GroupCoherent (s.group.controllers ++ (s.removed ++ [])) s.pane
    rw [List.append_nil]
    exact h
  · have hfront : GroupCoherent (c :: (before ++ after ++ s.removed)) s.pane := by
      have hmiddle : (before ++ c :: (after ++ s.removed)).Perm (c :: (before ++ (after ++ s.removed))) :=
        List.perm_middle
      refine h.perm ?_
      rw [members, hgroup]
      simpa using hmiddle.symm
    have hlast (c' : Controller α) :
        ((before ++ after) ++ (s.removed ++ [c'])).Perm (c' :: (before ++ after ++ s.removed)) := by
      rw [← List.append_assoc]
      exact List.perm_append_singleton c' _
    cases hattached : s.group.attached with
    | true =>
      rw [hattached, if_pos rfl] at hremoved
      have hdetached := hfront.chain (.cons (c.step_detached s.pane) (.refl _ _))
      rw [remove, hremoved]
      exact hdetached.perm (hlast _)
    | false =>
      rw [hattached, if_neg Bool.false_ne_true] at hremoved
      rw [remove, hremoved]
      exact hfront.perm (hlast _)

theorem coherent_after {call : LifeCall α} (hadmits : s.admits call = true) (h : GroupCoherent s.members s.pane) :
    GroupCoherent (s.after call).members (s.after call).pane := by
  cases call with
  | membership call =>
    -- members only move between the group and those taken out of it, and coherence does not mind the order
    cases call with
    | add c =>
      rw [admits, Bool.and_eq_true, Bool.not_eq_true', List.all_eq_true] at hadmits
      have hnew : c.id ∉ s.members.map Controller.id := by
        intro hmem
        obtain ⟨d, hd, hid⟩ := List.mem_map.1 hmem
        simpa [hid] using hadmits.2 d hd
      refine (h.insert hnew hadmits.1).perm ?_
      show (s.group.controllers ++ [c] ++ s.removed).Perm (c :: (s.group.controllers ++ s.removed))
      rw [List.append_assoc]
      exact List.perm_middle
    | putBack id => exact coherent_putBack h id
    | attach =>
      show GroupCoherent ((s.group.attach s.pane).1.controllers ++ s.removed) (s.group.attach s.pane).2
      unfold ControllerGroup.attach
      split
      · exact h
      · exact h.chain_append (ControllerGroup.chain_each (fun c => c.step_attached) s.group.controllers s.pane)
    | detach =>
      show GroupCoherent ((s.group.detach s.pane).1.controllers ++ s.removed) (s.group.detach s.pane).2
      unfold ControllerGroup.detach
      split
      · exact h
      · exact h.chain_append (ControllerGroup.chain_each (fun c => c.step_detached) s.group.controllers s.pane)
    | remove id => exact coherent_remove h id
  | mouse kind args handled =>
    exact h.chain_append (ControllerGroup.chain_offer (fun c => c.step_mouse kind args) s.group.controllers s.pane handled)
  | touch action args handled =>
    have hoffered :=
      h.chain_append (ControllerGroup.chain_offer (fun c => c.step_touch action args) s.group.controllers s.pane handled)
    let offered := ControllerGroup.offer (fun c => Controller.touch action c args) s.group.controllers s.pane handled
    exact ControllerGroup.coherent_promote args args.manipulators (g := { s.group with controllers := offered.1 }) hoffered
  | tick now =>
    refine h.chain_append (ControllerGroup.chain_each (fun c p => ?_) s.group.controllers s.pane)
    split
    · exact c.step_tick now p
    · exact .refl c p
  | lostCapture =>
    exact h.chain_append (ControllerGroup.chain_each (fun c => c.step_lostCapture) s.group.controllers s.pane)

theorem coherent_afterAll {calls : List (LifeCall α)} (hadmits : s.admitsAll calls = true)
    (h : GroupCoherent s.members s.pane) : GroupCoherent (s.afterAll calls).members (s.afterAll calls).pane := by
  induction calls generalizing s with
  | nil => exact h
  | cons call rest ih =>
    rw [admitsAll, Bool.and_eq_true] at hadmits
    exact ih hadmits.2 (coherent_after hadmits.1 h)

/-! ### Main result -/

/-- A removal leaves nothing behind if the controller was detached, or had nothing on. -/
theorem leavesNothing_remove_iff (h : GroupCoherent s.members s.pane) {id : OwnerId} {c : Controller α}
    (hc : (s.group.controllers.find? (·.id == id)) = some c) :
    ∃ r, (s.group.remove id s.pane).1 = some r ∧ r.id = id ∧
      (LeavesNothing (s.group.remove id s.pane).2.2 r ↔ s.group.attached = true ∨ c.isIdle = true) := by
  have hid : c.id = id := by simpa using List.find?_some hc
  have hcoherent := coherent_remove h id
  rcases s.group.remove_cases id s.pane with ⟨hnone, -⟩ | ⟨before, c', after, -, hfound, hremoved⟩
  · rw [show (s.group.controllers.find? fun c => GestureController.id α c == id) = some c from hc] at hnone
    cases hnone
  · obtain rfl : c = c' := Option.some.inj (hc.symm.trans hfound)
    cases hattached : s.group.attached with
    | true =>
      rw [hattached, if_pos rfl] at hremoved
      rw [remove, hremoved] at hcoherent
      have hlast := hcoherent.each (c.detached s.pane).1 (by simp [members, GestureController.detached])
      refine ⟨(c.detached s.pane).1, by rw [hremoved]; rfl, (c.step_detached s.pane).id.trans hid, ?_⟩
      rw [hremoved]
      exact hlast.leavesNothing_iff.trans ⟨fun _ => .inl rfl, fun _ => c.detached_isIdle s.pane⟩
    | false =>
      rw [hattached, if_neg Bool.false_ne_true] at hremoved
      rw [remove, hremoved] at hcoherent
      have hlast := hcoherent.each c (by simp [members])
      refine ⟨c, by rw [hremoved], hid, ?_⟩
      rw [hremoved]
      exact hlast.leavesNothing_iff.trans ⟨.inr, fun h => h.resolve_left Bool.false_ne_true⟩

theorem leavesNothing_detach_iff (h : GroupCoherent s.members s.pane) :
    (∀ c ∈ (s.group.detach s.pane).1.controllers, LeavesNothing (s.group.detach s.pane).2 c) ↔
      s.group.attached = true ∨ ∀ c ∈ s.group.controllers, c.isIdle = true := by
  have hadmits : s.admits (.membership .detach) = true := rfl
  have hcoherent := coherent_after hadmits h
  have heach : ∀ c ∈ (s.group.detach s.pane).1.controllers, c.Coherent (s.group.detach s.pane).2 :=
    fun c hc => hcoherent.each c (List.mem_append_left _ hc)
  cases hattached : s.group.attached with
  | true =>
    refine ⟨fun _ => .inl rfl, fun _ c hc => (heach c hc).leavesNothing_iff.2 ?_⟩
    rw [ControllerGroup.detach, hattached, Bool.not_true, if_neg Bool.false_ne_true] at hc
    have hself : List.Forall₂ Eq s.group.controllers s.group.controllers := List.forall₂_same.2 fun _ _ => rfl
    have hidle := ControllerGroup.forall₂_each (S := fun _ (d : Controller α) => d.isIdle = true)
      (fun _ d p _ => d.detached_isIdle p) hself s.pane
    exact ControllerGroup.forall_of_forall₂ hidle c hc
  | false =>
    have hsame : s.group.detach s.pane = (s.group, s.pane) := by
      rw [ControllerGroup.detach, hattached]
      rfl
    rw [hsame] at heach ⊢
    constructor
    · exact fun hleft => .inr fun c hc => (heach c hc).leavesNothing_iff.1 (hleft c hc)
    · intro hidle c hc
      exact (heach c hc).leavesNothing_iff.2 (hidle.resolve_left Bool.false_ne_true c hc)

/-- However a group on a pane came to be what it is, a controller that is removed from it leaves nothing on the pane and
no timer if the group is attached; and if it is not, exactly if it had no drag and no timer on. The same holds of all
controllers of a group that is detached. -/
theorem removal_leaves_nothing_iff {p : Pane α} (hfree : p.capturedBy = none) (hbare : p.overlays = [])
    {calls : List (LifeCall α)} (hcalls : (on p).admitsAll calls = true) :
    let s := (on p).afterAll calls
    (∀ id c, s.group.controllers.find? (·.id == id) = some c →
      ∃ r, (s.group.remove id s.pane).1 = some r ∧ r.id = id ∧
        (LeavesNothing (s.group.remove id s.pane).2.2 r ↔ s.group.attached = true ∨ c.isIdle = true)) ∧
      ((∀ c ∈ (s.group.detach s.pane).1.controllers, LeavesNothing (s.group.detach s.pane).2 c) ↔
        s.group.attached = true ∨ ∀ c ∈ s.group.controllers, c.isIdle = true) := by
  intro s
  have hstart : GroupCoherent (on p : GroupOnPane α (Controller α)).members p :=
    .of_idle List.nodup_nil ⟨fun c hc => absurd hc List.not_mem_nil, hfree, hbare⟩
  have hcoherent : GroupCoherent s.members s.pane := coherent_afterAll hcalls hstart
  exact ⟨fun _ _ hc => leavesNothing_remove_iff hcoherent hc, leavesNothing_detach_iff hcoherent⟩

/-- A pane with one x axis. -/
def plot : Pane Float :=
  (Pane.new ⟨0, 0, 400, 300⟩ .cartesian).addAxis .x
    ((ChartAxis.new "x" true (.double (.new 20 40))).withData (.double (.new 0 100)))

/-- A rubber band and a pan that starts with the right button. -/
def bandAndPan : List (LifeCall Float) :=
  let onRight : ZoomPanConfig Float := { ZoomPanConfig.default with executeOn := .rightButton }
  [.membership (.add (.rubberBand (.new 0 .default))),
    .membership (.add (.zoomPan (.ofInertia 1 onRight (.atRest .default))))]

/-- A pan that is pressed, moved and let go of, so that it coasts. -/
def fling : List (LifeCall Float) :=
  [.mouse .down (.new ⟨200, 150⟩ .onlyRight 0) false, .mouse .move (.new ⟨190, 150⟩ .onlyRight 16000000) false,
    .mouse .up (.new ⟨190, 150⟩ .onlyRight 20000000) false]

/-- A band in session leaves nothing when it is removed from an attached group. -/
theorem removal_leaves_nothing_iff_attached :
    let calls := bandAndPan ++ [.membership .attach, .mouse .down (.new ⟨50, 50⟩ .onlyLeft 0) false]
    let s := (on plot).afterAll calls
    (plot.capturedBy = none ∧ plot.overlays = [] ∧ (on plot).admitsAll calls = true ∧ s.pane.capturedBy = some 0) ∧
      ∃ r, (s.group.remove 0 s.pane).1 = some r ∧ r.id = 0 ∧ LeavesNothing (s.group.remove 0 s.pane).2.2 r := by
  intro calls s
  have hadmits : (on plot).admitsAll calls = true := by decide +kernel
  have hcaptured : s.pane.capturedBy = some 0 := by decide +kernel
  have hattached : s.group.attached = true := by decide +kernel
  obtain ⟨hremove, -⟩ := removal_leaves_nothing_iff (p := plot) rfl rfl hadmits
  have hfound : (s.group.controllers.find? (·.id == 0)).isSome = true := by decide +kernel
  obtain ⟨c, hc⟩ := Option.isSome_iff_exists.1 hfound
  obtain ⟨r, hr, hid, hleft⟩ := hremove 0 c hc
  exact ⟨⟨rfl, rfl, hadmits, hcaptured⟩, r, hr, hid, hleft.2 (.inl hattached)⟩

/-- From a group that is not attached, a band takes the pointer and its overlay along, a pan coasts on, and detaching
the group changes nothing. -/
theorem unattached_removal_keeps :
    let pressed := (on plot).afterAll (bandAndPan ++ [.mouse .down (.new ⟨50, 50⟩ .onlyLeft 0) false])
    let flung := (on plot).afterAll (bandAndPan ++ fling)
    (pressed.group.remove 0 pressed.pane).2.2.capturedBy = some 0 ∧
      ((pressed.group.remove 0 pressed.pane).2.2.overlay? 0).isSome = true ∧
      (pressed.group.detach pressed.pane).2.capturedBy = some 0 ∧
      (flung.group.remove 1 flung.pane).1.map Controller.isTimerActive = some true ∧
      (flung.group.detach flung.pane).1.controllers.map Controller.isTimerActive = [false, true] := by
  intro pressed flung
  exact ⟨by decide +kernel, by decide +kernel, by decide +kernel, by decide +kernel, by decide +kernel⟩

end GroupOnPane

end ChartGestures
