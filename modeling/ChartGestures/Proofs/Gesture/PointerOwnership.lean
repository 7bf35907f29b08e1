import ChartGestures.Gesture.Group
import ChartGestures.Number.ExactDecimal
import ChartGestures.Proofs.Gesture.Sessions
import Mathlib.Data.List.Perm.Basic

/-!
# The pointer belongs to the one drag session

A group hands the pane from controller to controller, so a dispatch is a chain of steps and keeps the group coherent:
every controller holds what its session entitles it to, and nobody outside the group holds anything. With distinct ids
that leaves room for a single session at a time. It is the one that has the pointer, and the overlays of the pane are
the overlay of that session. A release, a lost capture and a detach leave none of it behind.
-/

namespace ChartGestures

variable {α : Type} [Scalar α] [Decimals α]

/-- What a controller does to end its session, each controller does in turn. -/
theorem ControllerGroup.each_inSession {f : Controller α → Pane α → Controller α × Pane α}
    (hf : ∀ c p, (f c p).1.inSession = false) (cs : List (Controller α)) (p : Pane α) :
    ∀ c ∈ (each f cs p).1, c.inSession = false := by
  induction cs generalizing p with
  | nil => exact fun c hc => absurd hc List.not_mem_nil
  | cons c rest ih =>
    intro d hd
    rcases List.mem_cons.1 hd with rfl | hd
    · exact hf c p
    · exact ih (f c p).2 d hd

variable [Trigonometry α]

open Controller (Step)

/-- Controllers act on a pane one after the other. -/
inductive Chain : List (Controller α) → Pane α → List (Controller α) → Pane α → Prop
  | nil (p : Pane α) : Chain [] p [] p
  | cons {c c' : Controller α} {rest rest' : List (Controller α)} {p q p' : Pane α}
      (head : Step c p c' q) (tail : Chain rest q rest' p') : Chain (c :: rest) p (c' :: rest') p'

namespace Chain

variable {cs cs' : List (Controller α)} {p p' : Pane α}

theorem refl (cs : List (Controller α)) (p : Pane α) : Chain cs p cs p := by
  induction cs with
  | nil => exact .nil p
  | cons c rest ih => exact .cons (.refl c p) ih

theorem ids (h : Chain cs p cs' p') : cs'.map Controller.id = cs.map Controller.id := by
  induction h with
  | nil => rfl
  | cons head _ ih => rw [List.map_cons, List.map_cons, head.id, ih]

theorem others (h : Chain cs p cs' p') {id : OwnerId} (hid : id ∉ cs.map Controller.id) :
    p'.heldBy id = p.heldBy id := by
  induction h with
  | nil => rfl
  | cons head _ ih =>
    rw [List.map_cons, List.mem_cons, not_or] at hid
    rw [ih hid.2, head.others id hid.1]

/-- A controller is not disturbed by those after it, and those are not disturbed by it. -/
theorem coherent (h : Chain cs p cs' p') (hids : (cs.map Controller.id).Nodup) (hcs : ∀ c ∈ cs, c.Coherent p) :
    ∀ c ∈ cs', c.Coherent p' := by
  induction h with
  | nil => exact hcs
  | @cons c c' rest rest' p q p' head tail ih =>
    rw [List.map_cons, List.nodup_cons] at hids
    have hrest : ∀ d ∈ rest, d.Coherent q := by
      intro d hd
      have hne : d.id ≠ c.id := fun heq => hids.1 (heq ▸ List.mem_map_of_mem hd)
      exact (hcs d (List.mem_cons_of_mem c hd)).of_heldBy (head.others d.id hne)
    have hhead : c'.Coherent p' := by
      have hq := head.coherent (hcs c List.mem_cons_self)
      exact hq.of_heldBy (tail.others (head.id ▸ hids.1))
    intro d hd
    rcases List.mem_cons.1 hd with rfl | hd
    · exact hhead
    · exact ih hids.2 hrest d hd

end Chain

namespace ControllerGroup

theorem chain_each {f : Controller α → Pane α → Controller α × Pane α}
    (hf : ∀ c p, Step c p (f c p).1 (f c p).2) (cs : List (Controller α)) (p : Pane α) :
    Chain cs p (each f cs p).1 (each f cs p).2 := by
  induction cs generalizing p with
  | nil => exact .nil p
  | cons c rest ih => exact .cons (hf c p) (ih (f c p).2)

theorem chain_offer {react : Controller α → Pane α → Reaction α (Controller α)}
    (hreact : ∀ c p, Step c p (react c p).controller (react c p).pane) (cs : List (Controller α)) (p : Pane α)
    (handled : Bool) : Chain cs p (offer react cs p handled).1 (offer react cs p handled).2.1 := by
  induction cs generalizing p handled with
  | nil => exact .nil p
  | cons c rest ih =>
    unfold offer
    split
    · exact .cons (.refl c p) (ih p handled)
    · exact .cons (hreact c p) (ih (react c p).pane _)

/-- A claimed event reaches nobody. -/
theorem offer_handled (react : Controller α → Pane α → Reaction α (Controller α)) (cs : List (Controller α))
    (p : Pane α) : offer react cs p true = (cs, p, true) := by
  induction cs with
  | nil => rfl
  | cons c rest ih =>
    have hskip : (!GestureController.isEnabled α c || true && !GestureController.receivesHandled α c) = true := rfl
    rw [offer, if_pos hskip, ih]

/-- The first controller hears of an event that is not claimed, and the others of what it leaves. -/
theorem offer_cons (react : Controller α → Pane α → Reaction α (Controller α)) (c : Controller α)
    (rest : List (Controller α)) (p : Pane α) :
    offer react (c :: rest) p false =
      ((react c p).controller :: (offer react rest (react c p).pane (react c p).handled).1,
        (offer react rest (react c p).pane (react c p).handled).2) := rfl

/-- A controller that ignores the event is passed over. -/
theorem offer_cons_ignored (react : Controller α → Pane α → Reaction α (Controller α)) {c : Controller α} {p : Pane α}
    (hc : react c p = .ignore c p) (rest : List (Controller α)) :
    offer react (c :: rest) p false = (c :: (offer react rest p false).1, (offer react rest p false).2) := by
  rw [offer_cons, hc]
  rfl

/-- A controller that claims the event is the last to hear of it. -/
theorem offer_cons_claimed (react : Controller α → Pane α → Reaction α (Controller α)) {c : Controller α} {p : Pane α}
    (hc : (react c p).handled = true) (rest : List (Controller α)) :
    offer react (c :: rest) p false = ((react c p).controller :: rest, (react c p).pane, true) := by
  rw [offer_cons, hc, offer_handled]

/-- An event that all ignore is left as it is. -/
theorem offer_ignored (react : Controller α → Pane α → Reaction α (Controller α)) {cs : List (Controller α)}
    (h : ∀ c ∈ cs, ∀ p, react c p = .ignore c p) (p : Pane α) (handled : Bool) :
    offer react cs p handled = (cs, p, handled) := by
  induction cs generalizing handled with
  | nil => rfl
  | cons c rest ih =>
    have hrest := ih fun d hd => h d (List.mem_cons_of_mem c hd)
    cases handled with
    | true => exact offer_handled react (c :: rest) p
    | false => rw [offer_cons_ignored react (h c List.mem_cons_self p), hrest]

end ControllerGroup

/-! ### Coherent groups -/

/-- Controllers of distinct ids hold what their sessions say, and nobody else holds anything. -/
structure GroupCoherent (cs : List (Controller α)) (p : Pane α) : Prop where
  nodup : (cs.map Controller.id).Nodup
  each : ∀ c ∈ cs, c.Coherent p
  others : ∀ id ∉ cs.map Controller.id, p.heldBy id = (false, [])

/-- No session is on, nobody has the pointer, and no overlay is left. -/
structure Idle (cs : List (Controller α)) (p : Pane α) : Prop where
  sessions : ∀ c ∈ cs, c.inSession = false
  capturedBy : p.capturedBy = none
  overlays : p.overlays = []

/-- At most one session is on, its controller has the pointer, and the overlays are those of the session. -/
structure OneSession (cs : List (Controller α)) (p : Pane α) : Prop where
  atMostOne : cs.countP Controller.inSession ≤ 1
  capturedBy : ∀ id, p.capturedBy = some id ↔ ∃ c ∈ cs, c.id = id ∧ c.inSession = true
  bandOverlay : ∀ b s, Controller.rubberBand b ∈ cs → b.session = some s →
    ∃ shape, b.Draws s shape ∧ p.overlays = [(b.id, shape)]
  noOverlay : (∀ b, Controller.rubberBand b ∈ cs → b.session = none) → p.overlays = []

namespace GroupCoherent

variable {cs cs' : List (Controller α)} {p p' : Pane α}

theorem of_idle (hids : (cs.map Controller.id).Nodup) (h : Idle cs p) : GroupCoherent cs p := by
  have hheld (id : OwnerId) : p.heldBy id = (false, []) := by
    simp only [Pane.heldBy, h.capturedBy, h.overlays, List.filter_nil]
    rfl
  refine ⟨hids, fun c hc => ⟨?_, ?_⟩, fun id _ => hheld id⟩
  · rw [hheld, h.sessions c hc]
  · rw [hheld]
    exact (Controller.shows_of_not_inSession (h.sessions c hc)).2 rfl

theorem chain (h : GroupCoherent cs p) (hchain : Chain cs p cs' p') : GroupCoherent cs' p' := by
  refine ⟨?_, hchain.coherent h.nodup h.each, ?_⟩
  · rw [hchain.ids]
    exact h.nodup
  · intro id hid
    rw [hchain.ids] at hid
    rw [hchain.others hid, h.others id hid]

theorem perm (h : GroupCoherent cs p) (hperm : cs'.Perm cs) : GroupCoherent cs' p where
  nodup := ((hperm.map Controller.id).nodup_iff).2 h.nodup
  each c hc := h.each c (hperm.mem_iff.1 hc)
  others id hid := h.others id fun hmem => hid ((hperm.map Controller.id).mem_iff.2 hmem)

/-- A controller out of session can leave. -/
theorem tail {c : Controller α} (h : GroupCoherent (c :: cs) p) (hc : c.inSession = false) : GroupCoherent cs p := by
  have hids := List.nodup_cons.1 h.nodup
  refine ⟨hids.2, fun d hd => h.each d (List.mem_cons_of_mem c hd), fun id hid => ?_⟩
  by_cases hheld : id = c.id
  · have hcoherent := h.each c List.mem_cons_self
    rw [hheld]
    refine Prod.ext ?_ ?_
    · rw [hcoherent.pointer, hc]
    · exact (Controller.shows_of_not_inSession hc).1 hcoherent.overlays
  · refine h.others id ?_
    rw [List.map_cons, List.mem_cons, not_or]
    exact ⟨hheld, hid⟩

/-- Whoever has the pointer is a controller of the group, and in session. -/
theorem capturedBy_iff (h : GroupCoherent cs p) (id : OwnerId) :
    p.capturedBy = some id ↔ ∃ c ∈ cs, c.id = id ∧ c.inSession = true := by
  constructor
  · intro hcaptured
    have hheld : (p.heldBy id).1 = true := by simp [Pane.heldBy, hcaptured]
    by_cases hid : id ∈ cs.map Controller.id
    · obtain ⟨c, hc, rfl⟩ := List.mem_map.1 hid
      exact ⟨c, hc, rfl, (h.each c hc).pointer ▸ hheld⟩
    · rw [h.others id hid] at hheld
      cases hheld
  · rintro ⟨c, hc, rfl, hsession⟩
    have hheld := (h.each c hc).pointer
    rw [hsession] at hheld
    simpa [Pane.heldBy] using hheld

/-- Whoever shows an overlay is a rubber band of the group, and in session. -/
theorem owner_of_mem_overlays (h : GroupCoherent cs p) {entry : OwnerId × OverlayShape α} (hentry : entry ∈ p.overlays) :
    ∃ b s, Controller.rubberBand b ∈ cs ∧ b.session = some s ∧ b.id = entry.1 := by
  have hmem : entry ∈ (p.heldBy entry.1).2 := by simp [Pane.heldBy, hentry]
  by_cases hid : entry.1 ∈ cs.map Controller.id
  · obtain ⟨c, hc, hcid⟩ := List.mem_map.1 hid
    have hshows := (h.each c hc).overlays
    rw [hcid] at hshows
    cases c with
    | rubberBand b =>
      cases hsession : b.session with
      | none =>
        simp only [Controller.Shows, hsession] at hshows
        simp [hshows] at hmem
      | some s => exact ⟨b, s, hc, hsession, hcid⟩
    | _ =>
      simp only [Controller.Shows] at hshows
      simp [hshows] at hmem
  · rw [h.others _ hid] at hmem
    cases hmem

theorem idle (h : GroupCoherent cs p) (hsessions : ∀ c ∈ cs, c.inSession = false) : Idle cs p := by
  refine ⟨hsessions, ?_, ?_⟩
  · cases hcaptured : p.capturedBy with
    | none => rfl
    | some id =>
      obtain ⟨c, hc, -, hsession⟩ := (h.capturedBy_iff id).1 hcaptured
      rw [hsessions c hc] at hsession
      cases hsession
  · refine List.eq_nil_iff_forall_not_mem.2 fun entry hentry => ?_
    obtain ⟨b, s, hb, hsession, -⟩ := h.owner_of_mem_overlays hentry
    have hnone := hsessions _ hb
    simp [Controller.inSession, RubberBand.isDragging, hsession] at hnone

/-- Two sessions would hold the one pointer. -/
theorem id_eq_of_inSession (h : GroupCoherent cs p) {c d : Controller α} (hc : c ∈ cs) (hd : d ∈ cs)
    (hsc : c.inSession = true) (hsd : d.inSession = true) : c.id = d.id := by
  have hpc := (h.capturedBy_iff c.id).2 ⟨c, hc, rfl, hsc⟩
  have hpd := (h.capturedBy_iff d.id).2 ⟨d, hd, rfl, hsd⟩
  exact Option.some.inj (hpc.symm.trans hpd)

theorem oneSession (h : GroupCoherent cs p) : OneSession cs p where
  atMostOne := by
    have hsub : ((cs.filter Controller.inSession).map Controller.id).Nodup :=
      h.nodup.sublist (List.filter_sublist.map Controller.id)
    rw [List.countP_eq_length_filter]
    match hfound : cs.filter Controller.inSession with
    | [] | [_] => simp
    | c :: d :: rest =>
      have hc := List.mem_filter.1 (hfound ▸ List.mem_cons_self : c ∈ cs.filter Controller.inSession)
      have hd := List.mem_filter.1
        (hfound ▸ List.mem_cons_of_mem c List.mem_cons_self : d ∈ cs.filter Controller.inSession)
      have hsame := h.id_eq_of_inSession hc.1 hd.1 hc.2 hd.2
      rw [hfound] at hsub
      simp [hsame] at hsub
  capturedBy := h.capturedBy_iff
  bandOverlay b s hb hsession := by
    have hshows := (h.each _ hb).overlays
    simp only [Controller.Shows, hsession] at hshows
    obtain ⟨shape, hdraws, hheld⟩ := hshows
    refine ⟨shape, hdraws, ?_⟩
    rw [← hheld]
    refine (List.filter_eq_self.2 fun entry hentry => ?_).symm
    obtain ⟨d, t, hd, hdsession, hdid⟩ := h.owner_of_mem_overlays hentry
    have hin {b : RubberBand α} {s : BandSession α} (hs : b.session = some s) :
        (Controller.rubberBand b).inSession = true := by simp [Controller.inSession, RubberBand.isDragging, hs]
    have hsame : d.id = b.id := h.id_eq_of_inSession hd hb (hin hdsession) (hin hsession)
    rw [← hdid, hsame]
    exact BEq.rfl
  noOverlay hnone := by
    refine List.eq_nil_iff_forall_not_mem.2 fun entry hentry => ?_
    obtain ⟨b, s, hb, hsession, -⟩ := h.owner_of_mem_overlays hentry
    rw [hnone b hb] at hsession
    cases hsession

end GroupCoherent

/-! ### Calls on an attached group -/

/-- What the owner of an event loop does with a group. Mouse events arrive unclaimed. -/
inductive GroupCall (α : Type) where
  | mouse (kind : MouseEventKind) (args : MouseArgs α)
  | touch (action : TouchAction) (args : TouchArgs α) (handled : Bool)
  | tick (now : Nat)
  | lostCapture
  | remove (id : OwnerId)

namespace GroupCall

def apply (s : ControllerGroup (Controller α) × Pane α) : GroupCall α → ControllerGroup (Controller α) × Pane α
  | mouse kind args => let (g, p, _) := s.1.dispatchMouse kind args false s.2; (g, p)
  | touch action args handled => let (g, p, _) := s.1.dispatchTouch action args handled s.2; (g, p)
  | tick now => s.1.tick now s.2
  | lostCapture => s.1.lostCapture s.2
  | remove id => let (_, g, p) := s.1.remove id s.2; (g, p)

/-- The group and its pane after a sequence of calls. -/
def run (calls : List (GroupCall α)) (s : ControllerGroup (Controller α) × Pane α) :
    ControllerGroup (Controller α) × Pane α :=
  calls.foldl apply s

end GroupCall

namespace ControllerGroup

/-- An attached group whose controllers hold what their sessions say. -/
structure Sound (g : ControllerGroup (Controller α)) (p : Pane α) : Prop where
  attached : g.attached = true
  coherent : GroupCoherent g.controllers p

variable {g : ControllerGroup (Controller α)} {p : Pane α}

theorem Sound.dispatchMouse (h : Sound g p) (kind : MouseEventKind) (args : MouseArgs α) (handled : Bool) :
    Sound (g.dispatchMouse kind args handled p).1 (g.dispatchMouse kind args handled p).2.1 where
  attached := h.attached
  coherent := h.coherent.chain (chain_offer (fun c => c.step_mouse kind args) g.controllers p handled)

theorem Sound.lostCapture (h : Sound g p) : Sound (g.lostCapture p).1 (g.lostCapture p).2 where
  attached := h.attached
  coherent := h.coherent.chain (chain_each (fun c => c.step_lostCapture) g.controllers p)

theorem Sound.tick (h : Sound g p) (now : Nat) : Sound (g.tick now p).1 (g.tick now p).2 where
  attached := h.attached
  coherent := by
    refine h.coherent.chain (chain_each (fun c p => ?_) g.controllers p)
    split
    · exact c.step_tick now p
    · exact .refl c p

theorem Sound.follow (h : Sound g p) (m : Manipulator α) : Sound (g.follow m).1 p := by
  unfold ControllerGroup.follow
  cases m.action with
  | down =>
    dsimp only
    split <;> exact ⟨h.attached, h.coherent⟩
  | move => exact h
  | up =>
    dsimp only
    split <;> exact ⟨h.attached, h.coherent⟩

theorem Sound.promote (args : TouchArgs α) (manipulators : List (Manipulator α)) (h : Sound g p) :
    Sound (promote args manipulators g p).1 (promote args manipulators g p).2 := by
  induction manipulators generalizing g p with
  | nil => exact h
  | cons m rest ih =>
    have hfollow := h.follow m
    unfold ControllerGroup.promote
    dsimp only
    cases (g.follow m).2 with
    | none => exact ih hfollow
    | lostCapture => exact ih hfollow.lostCapture
    | mouse kind => exact ih (hfollow.dispatchMouse kind (promotedArgs args m) false)

theorem Sound.dispatchTouch (h : Sound g p) (action : TouchAction) (args : TouchArgs α) (handled : Bool) :
    Sound (g.dispatchTouch action args handled p).1 (g.dispatchTouch action args handled p).2.1 := by
  refine Sound.promote args args.manipulators ⟨h.attached, ?_⟩
  exact h.coherent.chain (chain_offer (fun c => c.step_touch action args) g.controllers p handled)

/-- A controller leaves an attached group detached, and takes nothing of the pane along. -/
theorem Sound.remove (h : Sound g p) (id : OwnerId) : Sound (g.remove id p).2.1 (g.remove id p).2.2 := by
  unfold ControllerGroup.remove
  split
  · exact h
  · next index hindex =>
    dsimp only
    split
    · next hnone =>
      refine ⟨h.attached, ?_⟩
      dsimp only
      rw [List.eraseIdx_of_length_le (List.getElem?_eq_none_iff.1 hnone)]
      exact h.coherent
    · next c hc =>
      rw [if_pos h.attached]
      refine ⟨h.attached, ?_⟩
      obtain ⟨hlt, rfl⟩ := List.getElem?_eq_some_iff.1 hc
      have hperm := h.coherent.perm (List.getElem_cons_eraseIdx_perm hlt)
      exact (hperm.chain (.cons (Controller.step_detached ..) (.refl ..))).tail (Controller.detached_inSession ..)

theorem Sound.run (h : Sound g p) (calls : List (GroupCall α)) :
    Sound (GroupCall.run calls (g, p)).1 (GroupCall.run calls (g, p)).2 := by
  induction calls generalizing g p with
  | nil => exact h
  | cons call rest ih =>
    refine ih (g := (call.apply (g, p)).1) (p := (call.apply (g, p)).2) ?_
    cases call with
    | mouse kind args => exact h.dispatchMouse kind args false
    | touch action args handled => exact h.dispatchTouch action args handled
    | tick now => exact h.tick now
    | lostCapture => exact h.lostCapture
    | remove id => exact h.remove id

theorem Sound.attach {cs : List (Controller α)} (hids : (cs.map Controller.id).Nodup) (h : Idle cs p) :
    Sound ((ofList cs).attach p).1 ((ofList cs).attach p).2 where
  attached := rfl
  coherent := (GroupCoherent.of_idle hids h).chain (chain_each (fun c => c.step_attached) cs p)

/-! ### Ends of gestures -/

/-- An unclaimed release reaches the controller in session, since nobody before it claims it. -/
theorem offer_up_inSession (args : MouseArgs α) {cs : List (Controller α)} (hids : (cs.map Controller.id).Nodup)
    (hcs : ∀ c ∈ cs, c.Coherent p) :
    ∀ c ∈ (offer (fun c => Controller.mouse .up c args) cs p false).1, c.inSession = false := by
  induction cs with
  | nil => exact fun c hc => absurd hc List.not_mem_nil
  | cons c rest ih =>
    rw [List.map_cons, List.nodup_cons] at hids
    rw [offer_cons]
    cases hsession : c.inSession with
    | false =>
      rw [Controller.mouse_up_of_not_inSession hsession]
      intro d hd
      rcases List.mem_cons.1 hd with rfl | hd
      · exact hsession
      · exact ih hids.2 (fun d hd => hcs d (List.mem_cons_of_mem c hd)) d hd
    | true =>
      obtain ⟨hended, hhandled⟩ := Controller.mouse_up_of_inSession hsession args p
      rw [hhandled, offer_handled]
      intro d hd
      rcases List.mem_cons.1 hd with rfl | hd
      · exact hended
      · have hpointer := (hcs c List.mem_cons_self).pointer
        have hne : c.id ≠ d.id := fun heq => hids.1 (heq ▸ List.mem_map_of_mem hd)
        rw [hsession, Pane.heldBy, beq_iff_eq] at hpointer
        rw [← (hcs d (List.mem_cons_of_mem c hd)).pointer, Pane.heldBy, hpointer]
        simpa using hne

theorem Sound.idle_up (h : Sound g p) (args : MouseArgs α) :
    Idle (g.dispatchMouse .up args false p).1.controllers (g.dispatchMouse .up args false p).2.1 :=
  (h.dispatchMouse .up args false).coherent.idle (offer_up_inSession args h.coherent.nodup h.coherent.each)

theorem Sound.idle_lostCapture (h : Sound g p) : Idle (g.lostCapture p).1.controllers (g.lostCapture p).2 :=
  h.lostCapture.coherent.idle (each_inSession Controller.lostCapture_inSession g.controllers p)

theorem Sound.idle_detach (h : Sound g p) : Idle (g.detach p).1.controllers (g.detach p).2 := by
  have hcoherent := h.coherent.chain (chain_each (fun c => c.step_detached) g.controllers p)
  have hidle := hcoherent.idle (each_inSession Controller.detached_inSession g.controllers p)
  rw [ControllerGroup.detach, h.attached, Bool.not_true, if_neg Bool.false_ne_true]
  exact hidle

/-- Whatever is called on a group attached to a fresh pane, at most one drag session is on; its controller has the
pointer and the overlays are its own. A release, a lost capture and a detach end it with all it holds. Limits of a
zoom that a configuration has upside down count with the value that `Scalar.clamp` has for them. -/
theorem one_session_holds_pane {cs : List (Controller α)} (hids : (cs.map Controller.id).Nodup)
    (hfresh : Idle cs p) (calls : List (GroupCall α)) :
    let s := GroupCall.run calls ((ofList cs).attach p)
    OneSession s.1.controllers s.2 ∧
      (∀ args, Idle (s.1.dispatchMouse .up args false s.2).1.controllers (s.1.dispatchMouse .up args false s.2).2.1) ∧
      Idle (s.1.lostCapture s.2).1.controllers (s.1.lostCapture s.2).2 ∧
      Idle (s.1.detach s.2).1.controllers (s.1.detach s.2).2 := by
  intro s
  have hsound : Sound s.1 s.2 := (Sound.attach hids hfresh).run calls
  exact ⟨hsound.coherent.oneSession, hsound.idle_up, hsound.idle_lostCapture, hsound.idle_detach⟩

/-- A rubber band, a pan and an axis drag on one pane: a press inside the viewport starts the band alone. -/
theorem one_session_holds_pane_band :
    let cs : List (Controller Float) :=
      [.rubberBand (.new 0 .default), .zoomPan (.ofInertia 1 .default (.atRest .default)), .axisDrag (.new 2 .x .default)]
    let p : Pane Float := (Pane.new ⟨0, 0, 400, 300⟩ .cartesian).addAxis .x (.new "x" true (.double (.new 0 100)))
    let calls : List (GroupCall Float) :=
      [.mouse .down (.new ⟨10, 10⟩ .onlyLeft 0), .mouse .move (.new ⟨50, 60⟩ .onlyLeft 5), .tick 7]
    let s := GroupCall.run calls ((ofList cs).attach p)
    (cs.map Controller.id).Nodup ∧ Idle cs p ∧ s.2.capturedBy = some 0 ∧ OneSession s.1.controllers s.2 ∧
      Idle (s.1.lostCapture s.2).1.controllers (s.1.lostCapture s.2).2 := by
  intro cs p calls s
  have hids : (cs.map Controller.id).Nodup := by decide
  have hfresh : Idle cs p := ⟨by decide, rfl, rfl⟩
  obtain ⟨hone, -, hlost, -⟩ := one_session_holds_pane hids hfresh calls
  refine ⟨hids, hfresh, ?_, hone, hlost⟩
  decide +kernel

end ControllerGroup

end ChartGestures
