import ChartGestures.Proofs.Gesture.OthersCalls

/-!
# Polls add up

A timer that is polled often enough drops no tick: two polls hand out the ticks that the later one alone would. So do
the controllers that own a timer. A pinch applies its buffer once, at whichever poll comes after the due time, and a pan
coasts on by the same steps whether it takes them at once or in two scopes of own writes, between which its watch sees
nothing.
-/

namespace ChartGestures

/-! ### Timers -/

namespace IntervalTimer

/-- How many ticks fall due from `due` up to `now`. -/
def ticksDue (interval due now : Nat) : Nat := (now + interval - due) / interval

theorem catchUp_eq {interval : Nat} (hpos : 0 < interval) (now room due : Nat) :
    catchUp interval now room due =
      (min room (ticksDue interval due now), due + min room (ticksDue interval due now) * interval) := by
  induction room generalizing due with
  | zero => simp [catchUp]
  | succ room ih =>
    rw [catchUp]
    split
    · next hdue =>
      have hnext : ticksDue interval due now = ticksDue interval (due + interval) now + 1 := by
        rw [ticksDue, ticksDue, ← Nat.add_div_right _ hpos]
        congr 1
        omega
      rw [ih, hnext, Nat.add_min_add_right, Nat.add_mul]
      dsimp only
      rw [Nat.one_mul, Nat.add_assoc, Nat.add_comm interval]
    · next hearly =>
      have hnone : ticksDue interval due now = 0 := Nat.div_eq_of_lt (by omega)
      rw [hnone, Nat.min_zero, Nat.zero_mul, Nat.add_zero]

/-- The interval is one that a timer is made with, and if the timer runs, its next tick is due after `now`. -/
structure IsPaced (t : IntervalTimer) (now : Nat) : Prop where
  interval : minInterval ≤ t.interval
  pending : ∀ due, t.nextDue = some due → now < due

variable {t : IntervalTimer} {now earlier later : Nat}

theorem IsPaced.interval_pos (h : t.IsPaced now) : 0 < t.interval := Nat.lt_of_lt_of_le (by decide) h.interval

theorem IsPaced.stop (h : minInterval ≤ t.interval) (now : Nat) : t.stop.IsPaced now := ⟨h, fun _ hdue => nomatch hdue⟩

theorem IsPaced.start (h : minInterval ≤ t.interval) (now : Nat) : (t.start now).IsPaced now := by
  refine ⟨h, fun due hdue => ?_⟩
  obtain rfl := Option.some.inj hdue
  exact Nat.lt_add_of_pos_right (Nat.lt_of_lt_of_le (by decide) h)

theorem isPaced_new (interval now : Nat) : (new interval).IsPaced now :=
  ⟨Nat.le_max_right .., fun _ hdue => nomatch hdue⟩

theorem interval_poll (t : IntervalTimer) (now : Nat) : (t.poll now).2.interval = t.interval := by
  unfold poll
  split <;> rfl

theorem isRunning_poll (t : IntervalTimer) (now : Nat) : (t.poll now).2.isRunning = t.isRunning := by
  unfold poll
  split
  · rfl
  · next due hdue => exact (congrArg Option.isSome hdue).symm

theorem poll_of_stopped (h : t.nextDue = none) (now : Nat) : t.poll now = (0, t) := by
  rw [poll, h]

theorem poll_of_idle (h : t.isRunning = false) (now : Nat) : t.poll now = (0, t) :=
  poll_of_stopped (Option.isNone_iff_eq_none.1 (Option.isSome_eq_false_iff.1 h)) now

/-- A poll within the room for catching up hands out all ticks due. -/
theorem poll_eq {due : Nat} (hpos : 0 < t.interval) (hdue : t.nextDue = some due)
    (hroom : ticksDue t.interval due now ≤ maxCatchUp) :
    t.poll now =
      (ticksDue t.interval due now, { t with nextDue := some (due + ticksDue t.interval due now * t.interval) }) := by
  have hafter : ¬due + ticksDue t.interval due now * t.interval ≤ now := by
    have hlt := Nat.lt_mul_div_succ (now + t.interval - due) hpos
    change _ < t.interval * (ticksDue t.interval due now + 1) at hlt
    rw [Nat.mul_add, Nat.mul_one, Nat.mul_comm] at hlt
    omega
  simp only [poll, hdue, catchUp_eq hpos, Nat.min_eq_right hroom]
  rw [if_neg hafter]

theorem IsPaced.ticksDue_le (h : t.IsPaced now) (hlate : later ≤ now + maxCatchUp * minInterval) {due : Nat}
    (hdue : t.nextDue = some due) : ticksDue t.interval due later ≤ maxCatchUp := by
  have hfuture := h.pending due hdue
  have hpos := h.interval_pos
  have hslow : maxCatchUp * minInterval ≤ maxCatchUp * t.interval := Nat.mul_le_mul_left _ h.interval
  refine Nat.le_of_lt_succ (Nat.div_lt_of_lt_mul ?_)
  rw [Nat.mul_succ, Nat.mul_comm]
  omega

/-- After a poll the next tick is due later. -/
theorem IsPaced.poll (h : t.IsPaced now) (later : Nat) : (t.poll later).2.IsPaced later := by
  refine ⟨(interval_poll t later).symm ▸ h.interval, fun due hdue => ?_⟩
  have hpos := h.interval_pos
  cases hnext : t.nextDue with
  | none =>
    rw [poll_of_stopped hnext, hnext] at hdue
    cases hdue
  | some first =>
    rw [IntervalTimer.poll, hnext] at hdue
    obtain rfl := Option.some.inj hdue
    split <;> omega

/-- Two polls hand out together what the later one alone hands out. -/
theorem IsPaced.poll_poll (h : t.IsPaced now) (hle : earlier ≤ later)
    (hlate : later ≤ now + maxCatchUp * minInterval) :
    t.poll later =
      ((t.poll earlier).1 + ((t.poll earlier).2.poll later).1, ((t.poll earlier).2.poll later).2) := by
  have hpos := h.interval_pos
  cases hdue : t.nextDue with
  | none =>
    simp only [poll_of_stopped hdue, Nat.add_zero]
  | some due =>
    have hroom := h.ticksDue_le hlate hdue
    have hfirst : ticksDue t.interval due earlier ≤ ticksDue t.interval due later :=
      Nat.div_le_div_right (by omega)
    have hrest : ticksDue t.interval (due + ticksDue t.interval due earlier * t.interval) later =
        ticksDue t.interval due later - ticksDue t.interval due earlier := by
      rw [ticksDue, ← Nat.sub_sub, Nat.mul_comm, Nat.sub_mul_div]
      rfl
    let polled : IntervalTimer :=
      { t with nextDue := some (due + ticksDue t.interval due earlier * t.interval) }
    have hrest' : ticksDue polled.interval (due + ticksDue t.interval due earlier * t.interval) later ≤ maxCatchUp := by
      change ticksDue t.interval _ later ≤ maxCatchUp
      rw [hrest]
      omega
    have hsecond := poll_eq (t := polled) hpos rfl hrest'
    rw [poll_eq hpos hdue (Nat.le_trans hfirst hroom), hsecond, poll_eq hpos hdue hroom]
    change _ = (_ + ticksDue t.interval _ later,
      { t with nextDue := some (_ + ticksDue t.interval _ later * t.interval) })
    rw [hrest]
    have hsum : ticksDue t.interval due earlier + (ticksDue t.interval due later - ticksDue t.interval due earlier) =
        ticksDue t.interval due later := by omega
    dsimp only
    rw [hsum, Nat.add_assoc, ← Nat.add_mul, hsum]

/-- What a callback at `now` may do to a timer: nothing, stop it or start it. -/
inductive SetAt (now : Nat) (t : IntervalTimer) : IntervalTimer → Prop
  | same : SetAt now t t
  | stopped : SetAt now t t.stop
  | started : SetAt now t (t.start now)

theorem SetAt.trans {t₁ t₂ t₃ : IntervalTimer} (h : SetAt now t₁ t₂) (h' : SetAt now t₂ t₃) : SetAt now t₁ t₃ := by
  cases h' with
  | same => exact h
  | stopped => cases h <;> exact .stopped
  | started => cases h <;> exact .started

theorem IsPaced.setAt {t' : IntervalTimer} (h : t.IsPaced now) (hset : SetAt now t t') : t'.IsPaced now := by
  cases hset with
  | same => exact h
  | stopped => exact .stop h.interval now
  | started => exact .start h.interval now

end IntervalTimer

open IntervalTimer (SetAt)

/-! ### Scopes of own writes -/

variable {α : Type} [Scalar α] [Decimals α] {owner : OwnerId}

/-- A watch in a scope of own writes that has seen nothing; an observer that is no watch does not matter. -/
def Observer.IsOwning : Observer α → Prop
  | .recorder _ => True
  | .watch state => state.external = false ∧ 0 < state.ownWrites

theorem Observer.IsOwning.receive {o : Observer α} (h : o.IsOwning) (batch : List (RangeChange α)) :
    (o.receive batch).IsOwning := by
  cases o with
  | recorder batches => trivial
  | watch state =>
    obtain ⟨hquiet, hown⟩ := h
    have hscope : (state.ownWrites == 0) = false := beq_eq_false_iff_ne.2 (Nat.ne_of_gt hown)
    refine ⟨?_, hown⟩
    change (state.external || state.ownWrites == 0) = false
    rw [hquiet, hscope, Bool.or_false]

namespace Notifier

/-- A scope of own writes of `owner` is open, and its watch has seen nothing. -/
def OwnsWrites (owner : OwnerId) (n : Notifier α) : Prop :=
  ∀ entry ∈ n.observers, entry.1 = .watch owner → entry.2.IsOwning

variable {n : Notifier α}

theorem OwnsWrites.deliver (h : n.OwnsWrites owner) (batch : List (RangeChange α)) :
    (n.deliver batch).OwnsWrites owner := by
  have hreceived {o : Observer α} (k : Nat) (ho : o.IsOwning) : ((Observer.receive batch)^[k] o).IsOwning := by
    induction k generalizing o with
    | zero => exact ho
    | succ k ih => exact ih (ho.receive batch)
  rw [OwnsWrites, (delivered_deliver n batch).observers, List.forall_mem_map]
  intro entry hentry hid
  exact hreceived _ (h entry hentry hid)

theorem OwnsWrites.notify (h : n.OwnsWrites owner) (change : RangeChange α) : (n.notify change).OwnsWrites owner := by
  rw [Notifier.notify]
  split
  · exact h
  · exact h.deliver [change]

theorem OwnsWrites.resume (h : n.OwnsWrites owner) : n.resume.OwnsWrites owner := by
  unfold Notifier.resume
  split
  · exact h
  · dsimp only
    split
    · exact h
    · exact OwnsWrites.deliver (n := { n with depth := _, pending := [] }) h n.pending

theorem ownsWrites_begin (n : Notifier α) (owner : OwnerId) :
    ((n.takeExternal owner).2.beginOwnWrites owner).OwnsWrites owner := by
  change ∀ entry ∈ (n.observers.map _).map _, _
  rw [List.map_map, List.forall_mem_map]
  rintro ⟨id, o⟩ - hid
  obtain rfl : id = .watch owner := hid
  simp only [Function.comp_apply, if_true]
  cases o with
  | recorder batches => trivial
  | watch state => exact ⟨rfl, Nat.succ_pos _⟩

/-- When the scope is closed the watch has seen nothing. -/
theorem OwnsWrites.quiet (h : n.OwnsWrites owner) : ((n.endOwnWrites owner).takeExternal owner).1 = false := by
  rw [takeExternal]
  dsimp only
  split
  · next state hfound =>
    obtain ⟨before, after, hsplit, -⟩ := List.lookup_eq_some_iff.1 hfound
    have hmem : (ObserverId.watch owner, Observer.watch state) ∈ (n.endOwnWrites owner).observers := by
      rw [hsplit]
      exact List.mem_append_right _ List.mem_cons_self
    obtain ⟨⟨id, o⟩, hentry, heq⟩ := List.mem_map.1 hmem
    by_cases hid : id = .watch owner
    · simp only [hid, if_true] at heq
      have hown := h _ hentry hid
      cases o with
      | recorder batches => cases heq
      | watch opened =>
        cases heq
        exact hown.1
    · exact absurd (congrArg Prod.fst heq) hid
  · rfl

/-- A scope that is closed and opened again at once might as well have stayed open. -/
theorem OwnsWrites.reopen (h : n.OwnsWrites owner) :
    ((n.endOwnWrites owner).takeExternal owner).2.beginOwnWrites owner = n := by
  have hobservers : (((n.endOwnWrites owner).takeExternal owner).2.beginOwnWrites owner).observers = n.observers := by
    change ((n.observers.map _).map _).map _ = n.observers
    rw [List.map_map, List.map_map]
    refine (List.map_congr_left fun entry hentry => ?_).trans (List.map_id n.observers)
    obtain ⟨id, o⟩ := entry
    by_cases hid : id = .watch owner
    · simp only [Function.comp_apply, hid, if_true, id_eq]
      cases o with
      | recorder batches => rfl
      | watch state =>
        obtain ⟨hquiet, hown⟩ := h _ hentry hid
        obtain ⟨own, external⟩ := state
        obtain rfl : external = false := hquiet
        have hopened : own - 1 + 1 = own := Nat.sub_add_cancel hown
        simp only [hopened]
    · simp only [Function.comp_apply, if_neg hid, id_eq]
  exact congrArg (fun observers => { n with observers }) hobservers

end Notifier

namespace Pane

open Notifier (OwnsWrites)

variable {p : Pane α}

theorem ownsWrites_writeAxis (h : p.notifier.OwnsWrites owner) (id : String) (write : ChartAxis α → AxisWrite α) :
    (p.writeAxis id write).notifier.OwnsWrites owner := by
  rw [notifier_writeAxis]
  cases p.axis? id with
  | none => exact h
  | some a =>
    rw [Option.elim_some, AxisWrite.publish]
    split
    · exact h.notify _
    · exact h

theorem ownsWrites_writeAll (h : p.notifier.OwnsWrites owner) (writes : AxisWrites α) :
    (p.writeAll writes).notifier.OwnsWrites owner := by
  induction writes generalizing p with
  | nil => exact h
  | cons w rest ih => exact ih (ownsWrites_writeAxis h w.1 w.2)

theorem ownsWrites_suspended_writeAll (h : p.notifier.OwnsWrites owner) (writes : AxisWrites α) :
    (p.suspended (writeAll writes)).notifier.OwnsWrites owner :=
  (ownsWrites_writeAll (p := { p with notifier := p.notifier.suspend }) h writes).resume

end Pane

/-! ### Pans that coast on -/

namespace Inertia

theorem ownsWrites_step {i : Inertia α} {p : Pane α} (h : p.notifier.OwnsWrites owner) :
    (i.step p).2.notifier.OwnsWrites owner := by
  unfold step
  cases i.target with
  | none => exact h
  | some target =>
    dsimp only
    rw [PanTarget.pan_eq]
    exact Pane.ownsWrites_suspended_writeAll h _

theorem ownsWrites_steps {p : Pane α} (h : p.notifier.OwnsWrites owner) (count : Nat) (i : Inertia α) :
    (steps count i p).2.notifier.OwnsWrites owner := by
  induction count generalizing i p with
  | zero => exact h
  | succ count ih =>
    unfold steps
    dsimp only
    split
    · exact ownsWrites_step h
    · exact ih (ownsWrites_step h) _

/-- With any timer, a step of `i` on `p` leads to `j` on `q`, and stops there if the velocity is zero. -/
def StepsTo (i : Inertia α) (p : Pane α) (j : Inertia α) (q : Pane α) : Prop :=
  ∀ t, { i with timer := t }.step p =
    (if j.velocity == .zero then { j with timer := t }.reset else { j with timer := t }, q)

theorem exists_stepsTo (i : Inertia α) (p : Pane α) : ∃ j q, i.StepsTo p j q := by
  let velocity : Point α := ⟨decay i.velocity.x i.config.friction, decay i.velocity.y i.config.friction⟩
  exact ⟨{ i with velocity, categoryOffset := i.categoryOffset + velocity }, (i.step p).2, fun _ => rfl⟩

theorem StepsTo.steps_of_rest [Decimals Float] {i j : Inertia Float} {p q : Pane Float} (h : i.StepsTo p j q)
    (hrest : (j.velocity == .zero) = true) (count : Nat) (t : IntervalTimer) :
    steps (count + 1) { i with timer := t } p = ({ j with timer := t }.reset, q) := by
  have hzero : (({ j with timer := t }.reset).velocity == .zero) = true := by
    change ((Point.zero : Point Float) == .zero) = true
    decide
  rw [steps, h t, if_pos hrest]
  exact if_pos hzero

theorem StepsTo.steps_of_motion {i j : Inertia α} {p q : Pane α} (h : i.StepsTo p j q)
    (hmotion : (j.velocity == .zero) = false) (count : Nat) (t : IntervalTimer) :
    steps (count + 1) { i with timer := t } p = steps count { j with timer := t } q := by
  have hmoving : ¬(({ j with timer := t } : Inertia α).velocity == .zero) = true := by
    change ¬(j.velocity == .zero) = true
    rw [hmotion]
    exact Bool.false_ne_true
  rw [steps, h t, hmotion, if_neg Bool.false_ne_true]
  exact if_neg hmoving

/-- The timer only stops in a step, and steps in a row are not concerned by when it is due next. -/
theorem steps_add [Decimals Float] (i : Inertia Float) (p : Pane Float) {t t' : IntervalTimer}
    (hinterval : t'.interval = t.interval) (count more : Nat) :
    let r := steps count { i with timer := t } p
    (r.1.timer = t.stop ∧ steps (count + more) { i with timer := t' } p = r) ∨
      (r.1.timer = t ∧ steps (count + more) { i with timer := t' } p = steps more { r.1 with timer := t' } r.2) := by
  induction count generalizing i p with
  | zero => exact .inr ⟨rfl, by rw [Nat.zero_add]; rfl⟩
  | succ count ih =>
    obtain ⟨j, q, hstep⟩ := i.exists_stepsTo p
    rw [Nat.add_right_comm]
    cases hrest : j.velocity == .zero with
    | true =>
      have hstop : t'.stop = t.stop := congrArg (IntervalTimer.mk · none) hinterval
      have hreset : ({ j with timer := t' } : Inertia Float).reset = ({ j with timer := t } : Inertia Float).reset := by
        rw [reset, reset, hstop]
      refine .inl ?_
      rw [hstep.steps_of_rest hrest, hstep.steps_of_rest hrest, hreset]
      exact ⟨rfl, rfl⟩
    | false =>
      rw [hstep.steps_of_motion hrest, hstep.steps_of_motion hrest]
      exact ih j q

theorem tick_of_stopped {i : Inertia α} (h : i.isActive = false) (now : Nat) (p : Pane α) : i.tick now p = (i, p) := by
  rw [tick, IntervalTimer.poll_of_idle h]
  rfl

/-- Two polls take the steps that the later one alone takes. -/
theorem tick_tick [Decimals Float] {i : Inertia Float} {now earlier later : Nat} (h : i.timer.IsPaced now)
    (hle : earlier ≤ later) (hlate : later ≤ now + maxCatchUp * minInterval) (p : Pane Float) :
    (i.tick earlier p).1.tick later (i.tick earlier p).2 = i.tick later p := by
  let first := i.timer.poll earlier
  let second := first.2.poll later
  have hinterval : second.2.interval = first.2.interval := IntervalTimer.interval_poll ..
  have hboth : i.timer.poll later = (first.1 + second.1, second.2) := h.poll_poll hle hlate
  have hearlier : i.tick earlier p = steps first.1 { i with timer := first.2 } p := rfl
  have hlater : i.tick later p = steps (first.1 + second.1) { i with timer := second.2 } p := by
    rw [tick, hboth]
  rw [hearlier, hlater]
  rcases steps_add i p hinterval first.1 second.1 with ⟨hstopped, hall⟩ | ⟨hrunning, hall⟩
  · -- the motion came to rest before, and a stopped timer has no ticks
    rw [hall, tick_of_stopped]
    rw [isActive, hstopped]
    rfl
  · rw [hall, tick, hrunning]

theorem setAt_reset (i : Inertia α) (now : Nat) : SetAt now i.timer i.reset.timer := .stopped

theorem setAt_start (i : Inertia α) (now : Nat) (velocity offset : Point α) (starts : StartRanges α)
    (target : PanTarget) : SetAt now i.timer (i.start now velocity offset starts target).timer := by
  unfold start
  dsimp only
  split
  · exact i.setAt_reset now
  · exact .started

theorem setAt_step (i : Inertia α) (now : Nat) (p : Pane α) : SetAt now i.timer (i.step p).1.timer := by
  unfold step
  dsimp only
  split
  · exact .stopped
  · exact .same

theorem setAt_steps (count : Nat) (i : Inertia α) (now : Nat) (p : Pane α) :
    SetAt now i.timer (steps count i p).1.timer := by
  induction count generalizing i p with
  | zero => exact .same
  | succ count ih =>
    unfold steps
    dsimp only
    split
    · exact i.setAt_step now p
    · exact (i.setAt_step now p).trans (ih ..)

theorem setAt_tick (i : Inertia α) (now : Nat) (p : Pane α) :
    SetAt now (i.timer.poll now).2 (i.tick now p).1.timer :=
  setAt_steps _ { i with timer := (i.timer.poll now).2 } now p

end Inertia

namespace ZoomPan

/-- A pan that coasts in two scopes of own writes coasts as far as in one. -/
theorem tick_tick [Decimals Float] {c : ZoomPan Float} {now earlier later : Nat} (h : c.inertia.timer.IsPaced now)
    (hle : earlier ≤ later) (hlate : later ≤ now + maxCatchUp * minInterval) (p : Pane Float) :
    (c.tick earlier p).1.tick later (c.tick earlier p).2 = c.tick later p := by
  cases hactive : c.inertia.isActive with
  | false => simp only [tick_of_idle hactive]
  | true =>
    cases hexternal : (p.takeExternal c.id).1 with
    | true =>
      rw [tick_of_external hactive hexternal, tick_of_external hactive hexternal]
      exact tick_of_idle rfl later _
    | false =>
      rw [tick_of_quiet hactive hexternal, tick_of_quiet hactive hexternal]
      have hall : (c.coasted earlier (p.takeExternal c.id).2).1.tick later
          (c.coasted earlier (p.takeExternal c.id).2).2 = c.coasted later (p.takeExternal c.id).2 :=
        Inertia.tick_tick h hle hlate _
      have hown : (c.coasted earlier (p.takeExternal c.id).2).2.notifier.OwnsWrites c.id :=
        Inertia.ownsWrites_steps (Notifier.ownsWrites_begin p.notifier c.id) _ _
      generalize c.coasted earlier (p.takeExternal c.id).2 = first at hall hown ⊢
      obtain ⟨i, q⟩ := first
      rw [← hall]
      let c' : ZoomPan Float := { c with inertia := i }
      let q' : Pane Float := { q with notifier := q.notifier.endOwnWrites c.id }
      change c'.tick later q' = _
      cases hcoasting : i.isActive with
      | false => rw [tick_of_idle hcoasting, Inertia.tick_of_stopped hcoasting]
      | true =>
        have hpane : { (q'.takeExternal c.id).2 with
            notifier := (q'.takeExternal c.id).2.notifier.beginOwnWrites c.id } = q :=
          congrArg (fun notifier => { q with notifier }) hown.reopen
        have hagain : c'.coasted later (q'.takeExternal c.id).2 = i.tick later q := congrArg (i.tick later) hpane
        rw [tick_of_quiet (c := c') (p := q') hcoasting hown.quiet, hagain]

variable {c : ZoomPan α}

theorem inertia_endDrag (c : ZoomPan α) (p : Pane α) : (c.endDrag p).1.inertia = c.inertia := by
  unfold endDrag
  cases c.session <;> rfl

theorem setAt_mouseDown (c : ZoomPan α) (args : MouseArgs α) (p : Pane α) :
    SetAt args.time c.inertia.timer (c.mouseDown args p).controller.inertia.timer := by
  unfold mouseDown
  split
  · exact .same
  · split
    · exact .same
    · exact .stopped

theorem inertia_mouseMove (c : ZoomPan α) (args : MouseArgs α) (p : Pane α) :
    (c.mouseMove args p).controller.inertia = c.inertia := by
  unfold mouseMove
  cases c.session <;> rfl

theorem setAt_mouseUp (c : ZoomPan α) (args : MouseArgs α) (p : Pane α) :
    SetAt args.time c.inertia.timer (c.mouseUp args p).controller.inertia.timer := by
  unfold mouseUp
  split
  · exact .same
  · rw [← c.inertia_endDrag p]
    dsimp only
    split
    · exact .same
    · exact Inertia.setAt_start ..

theorem setAt_tick (c : ZoomPan α) (now : Nat) (p : Pane α) :
    SetAt now (c.inertia.timer.poll now).2 (c.tick now p).1.inertia.timer := by
  cases hactive : c.inertia.isActive with
  | false =>
    rw [tick_of_idle hactive, IntervalTimer.poll_of_idle hactive]
    exact .same
  | true =>
    cases hexternal : (p.takeExternal c.id).1 with
    | true =>
      have hstop : (c.inertia.timer.poll now).2.stop = c.inertia.timer.stop :=
        congrArg (IntervalTimer.mk · none) (IntervalTimer.interval_poll ..)
      rw [tick_of_external hactive hexternal]
      change SetAt now _ c.inertia.timer.stop
      rw [← hstop]
      exact .stopped
    | false =>
      rw [tick_of_quiet hactive hexternal]
      exact Inertia.setAt_tick ..

end ZoomPan

/-! ### Pinches that are buffered -/

namespace PinchZoom

variable [Trigonometry α] {c : PinchZoom α}

theorem tick_of_stopped (h : c.timer.isRunning = false) (now : Nat) (p : Pane α) : c.tick now p = (c, p) := by
  rw [tick, IntervalTimer.poll_of_idle h]
  rfl

/-- The buffer is applied the same whenever the timer is due next, and stops it. -/
theorem flush_withTimer {t : IntervalTimer} (h : t.interval = c.timer.interval) (p : Pane α) :
    { c with timer := t }.flush p = c.flush p := by
  have hstop : t.stop = c.timer.stop := congrArg (IntervalTimer.mk · none) h
  simp only [flush, hstop]

theorem timer_flush (c : PinchZoom α) (p : Pane α) : (c.flush p).1.timer = c.timer.stop := by
  unfold flush
  cases c.pending <;> rfl

theorem tick_eq (c : PinchZoom α) (now : Nat) (p : Pane α) :
    c.tick now p =
      if 0 < (c.timer.poll now).1 then c.flush p else ({ c with timer := (c.timer.poll now).2 }, p) := by
  rw [← flush_withTimer (IntervalTimer.interval_poll c.timer now)]
  rfl

/-- A buffer is applied once, however often the timer is polled until and after it is due. -/
theorem tick_tick {now earlier later : Nat} (h : c.timer.IsPaced now) (hle : earlier ≤ later)
    (hlate : later ≤ now + maxCatchUp * minInterval) (p : Pane α) :
    (c.tick earlier p).1.tick later (c.tick earlier p).2 = c.tick later p := by
  have hboth := h.poll_poll hle hlate
  rw [c.tick_eq earlier, c.tick_eq later, hboth]
  by_cases hdue : 0 < (c.timer.poll earlier).1
  · rw [if_pos hdue, if_pos (Nat.add_pos_left hdue _)]
    exact tick_of_stopped (congrArg IntervalTimer.isRunning (c.timer_flush p)) later _
  · rw [if_neg hdue, Nat.eq_zero_of_not_pos hdue, Nat.zero_add, tick_eq]
    rw [flush_withTimer (IntervalTimer.interval_poll c.timer earlier)]

theorem setAt_touchMove (c : PinchZoom α) (args : TouchArgs α) (p : Pane α) :
    SetAt args.time c.timer (c.touchMove args p).controller.timer := by
  unfold touchMove
  dsimp only
  split
  · dsimp only
    split
    · exact .same
    · exact .started
  · exact .same

theorem setAt_tick (c : PinchZoom α) (now : Nat) (p : Pane α) :
    SetAt now (c.timer.poll now).2 (c.tick now p).1.timer := by
  unfold tick
  dsimp only
  split
  · rw [timer_flush]
    exact .stopped
  · exact .same

end PinchZoom

/-! ### Controllers with a timer -/

namespace Controller

variable [Trigonometry α]

/-- The timer that a controller owns, if its kind has one. -/
def timer? {α : Type} [Scalar α] [Decimals α] : Controller α → Option IntervalTimer
  | pinchZoom c => some c.timer
  | zoomPan c => some c.inertia.timer
  | _ => none

def isTimed {α : Type} [Scalar α] [Decimals α] (c : Controller α) : Bool := c.timer?.isSome

/-- A timer is due after `now`, if the controller owns one and it runs. -/
def IsPaced {α : Type} [Scalar α] [Decimals α] (now : Nat) (c : Controller α) : Prop := ∀ t ∈ c.timer?, t.IsPaced now

/-- What a callback at `now` may do to the timer of a controller, which it keeps. -/
def SetAt {α : Type} [Scalar α] [Decimals α] (now : Nat) (c c' : Controller α) : Prop :=
  Option.Rel (IntervalTimer.SetAt now) c.timer? c'.timer?

theorem isTimerActive_of_untimed {α : Type} [Scalar α] [Decimals α] {c : Controller α} (h : c.isTimed = false) :
    c.isTimerActive = false := by
  cases c with
  | pinchZoom c => cases h
  | zoomPan c => cases h
  | _ => rfl

theorem tick_of_idle {c : Controller α} (h : c.isTimerActive = false) (now : Nat) (p : Pane α) :
    c.tick now p = (c, p) := by
  cases c with
  | pinchZoom c => exact congrArg (·.map pinchZoom fun p => p) (PinchZoom.tick_of_stopped h now p)
  | zoomPan c => exact congrArg (·.map zoomPan fun p => p) (ZoomPan.tick_of_idle h now p)
  | _ => rfl

theorem SetAt.same {α : Type} [Scalar α] [Decimals α] {now : Nat} {c c' : Controller α} (h : c'.timer? = c.timer?) :
    c.SetAt now c' := by
  rw [SetAt, h]
  cases c.timer? with
  | none => exact .none
  | some t => exact .some .same

theorem SetAt.trans {α : Type} [Scalar α] [Decimals α] {now : Nat} {c c' c'' : Controller α} (h : c.SetAt now c')
    (h' : c'.SetAt now c'') : c.SetAt now c'' := by
  unfold SetAt at h h' ⊢
  generalize c.timer? = t, c'.timer? = t', c''.timer? = t'' at h h' ⊢
  cases h with
  | none => exact h'
  | some h =>
    cases h' with
    | some h' => exact .some (h.trans h')

theorem setAt_mouse (kind : MouseEventKind) (c : Controller α) (args : MouseArgs α) (p : Pane α) :
    c.SetAt args.time (c.mouse kind args p).controller := by
  cases c with
  | zoomPan c =>
    cases kind with
    | down => exact .some (c.setAt_mouseDown args p)
    | move => exact .same (congrArg (fun i : Inertia α => some i.timer) (c.inertia_mouseMove args p))
    | up => exact .some (c.setAt_mouseUp args p)
    | wheel => exact .same rfl
    | doubleClick => exact .same rfl
  | _ => cases kind <;> exact .same rfl

theorem setAt_touch (action : TouchAction) (c : Controller α) (args : TouchArgs α) (p : Pane α) :
    c.SetAt args.time (c.touch action args p).controller := by
  cases c with
  | pinchZoom c =>
    have hstop : SetAt args.time (pinchZoom c) (pinchZoom (c.flush p).1) := by
      refine .some ?_
      rw [PinchZoom.timer_flush]
      exact .stopped
    cases action with
    | down => exact hstop
    | move => exact .some (c.setAt_touchMove args p)
    | up => exact hstop
  | _ => cases action <;> exact .same rfl

theorem timer?_attached {α : Type} [Scalar α] [Decimals α] (c : Controller α) (p : Pane α) :
    (c.attached p).1.timer? = c.timer? := by
  cases c <;> rfl

theorem timer?_lostCapture {α : Type} [Scalar α] [Decimals α] (c : Controller α) (p : Pane α) :
    (c.lostCapture p).1.timer? = c.timer? := by
  cases c with
  | zoomPan c => exact congrArg (fun i : Inertia α => some i.timer) (c.inertia_endDrag p)
  | _ => rfl

/-- A tick polls the timer, and may stop it. -/
theorem setAt_tick (c : Controller α) (now : Nat) (p : Pane α) :
    Option.Rel (fun t t' => IntervalTimer.SetAt now (t.poll now).2 t') c.timer? (c.tick now p).1.timer? := by
  cases c with
  | pinchZoom c => exact .some (c.setAt_tick now p)
  | zoomPan c => exact .some (c.setAt_tick now p)
  | _ => exact .none

/-- Two polls do what the later one alone does. -/
theorem tick_tick [Decimals Float] {now earlier later : Nat} {c : Controller Float} (h : c.IsPaced now)
    (hle : earlier ≤ later) (hlate : later ≤ now + maxCatchUp * minInterval) (p : Pane Float) :
    (c.tick earlier p).1.tick later (c.tick earlier p).2 = c.tick later p := by
  cases c with
  | pinchZoom c => exact congrArg (·.map pinchZoom fun p => p) (PinchZoom.tick_tick (h _ rfl) hle hlate p)
  | zoomPan c => exact congrArg (·.map zoomPan fun p => p) (ZoomPan.tick_tick (h _ rfl) hle hlate p)
  | _ => rfl

end Controller

end ChartGestures
