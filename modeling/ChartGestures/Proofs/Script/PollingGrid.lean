import ChartGestures.Number.ExactDecimal
import ChartGestures.Proofs.Gesture.Polling
import ChartGestures.Proofs.Gesture.TouchPromotion
import ChartGestures.Proofs.Script.Start

/-!
# The grid of polls

While timers run, a replay polls them on a grid of small steps that starts anew at each event. Where at most one
controller owns a timer, the grid is of no account: time goes on as if every nanosecond was polled. So events that only
let time pass can be put in front of others, or left out, and all that comes after them stays as it was.
-/

namespace ChartGestures

/-! ### Groups -/

section Related

variable {α : Type} [Scalar α] [Decimals α] {R : IntervalTimer → IntervalTimer → Prop} {c c' : Controller α}

theorem Controller.isTimed_of_rel (h : Option.Rel R c.timer? c'.timer?) : c'.isTimed = c.isTimed := by
  unfold isTimed
  generalize c.timer? = before, c'.timer? = after at h
  cases h <;> rfl

theorem Controller.IsPaced.of_rel {now later : Nat} (hc : c.IsPaced now)
    (hR : ∀ t t', R t t' → t.IsPaced now → t'.IsPaced later) (h : Option.Rel R c.timer? c'.timer?) :
    c'.IsPaced later := by
  unfold IsPaced at hc ⊢
  generalize c.timer? = before, c'.timer? = after at h hc ⊢
  cases h with
  | none => exact fun _ ht => nomatch ht
  | some h =>
    rintro t' ⟨⟩
    exact hR _ _ h (hc _ rfl)

end Related

namespace ControllerGroup

/-- No timer is due at `now` or before, and one controller at most has a timer. -/
structure IsPaced {α : Type} [Scalar α] [Decimals α] (now : Nat) (cs : List (Controller α)) : Prop where
  timers : ∀ c ∈ cs, c.IsPaced now
  lone : cs.countP Controller.isTimed ≤ 1

variable {α : Type} [Scalar α] [Decimals α] {now : Nat} {cs cs' : List (Controller α)}

theorem countP_isTimed {R : IntervalTimer → IntervalTimer → Prop}
    (h : List.Forall₂ (fun c c' => Option.Rel R c.timer? c'.timer?) cs cs') :
    cs'.countP Controller.isTimed = cs.countP Controller.isTimed := by
  induction h with
  | nil => rfl
  | cons hc _ ih => rw [List.countP_cons, List.countP_cons, ih, Controller.isTimed_of_rel hc]

/-- Controllers that keep their timers keep being paced, if each of them does. -/
theorem IsPaced.of_forall₂ {later : Nat} {R : IntervalTimer → IntervalTimer → Prop}
    (hR : ∀ t t', R t t' → t.IsPaced now → t'.IsPaced later) (h : IsPaced now cs)
    (hall : List.Forall₂ (fun c c' => Option.Rel R c.timer? c'.timer?) cs cs') : IsPaced later cs' where
  timers := by
    have hboth := (List.forall₂_and_left cs cs').2 ⟨h.timers, hall⟩
    exact forall_of_forall₂ (hboth.imp fun _ _ hc => hc.1.of_rel hR hc.2)
  lone := countP_isTimed hall ▸ h.lone

theorem IsPaced.setAt (h : IsPaced now cs) (hall : List.Forall₂ (Controller.SetAt now) cs cs') : IsPaced now cs' :=
  h.of_forall₂ (fun _ _ hset ht => ht.setAt hset) hall

theorem forall₂_setAt (now : Nat) (cs : List (Controller α)) : List.Forall₂ (Controller.SetAt now) cs cs :=
  List.forall₂_same.2 fun _ _ => .same rfl

variable [Trigonometry α]

theorem IsPaced.tick (h : IsPaced now cs) (later : Nat) (p : Pane α) :
    IsPaced later (each (Controller.tick later) cs p).1 := by
  refine h.of_forall₂ (fun _ _ hset ht => (ht.poll later).setAt hset) ?_
  refine forall₂_each (R := Eq) ?_ (List.forall₂_same.2 fun _ _ => rfl) p
  rintro c _ p rfl
  exact c.setAt_tick later p

theorem IsPaced.dispatchMouse (kind : MouseEventKind) (args : MouseArgs α) {g : ControllerGroup (Controller α)}
    (h : IsPaced args.time g.controllers) (handled : Bool) (p : Pane α) :
    IsPaced args.time (g.dispatchMouse kind args handled p).1.controllers :=
  h.setAt (forall₂_offer (fun _ c p hset => hset.trans (c.setAt_mouse kind args p)) (forall₂_setAt ..) p handled)

theorem IsPaced.dispatchTouch (action : TouchAction) (args : TouchArgs α) {g : ControllerGroup (Controller α)}
    (h : IsPaced args.time g.controllers) (handled : Bool) (p : Pane α) :
    IsPaced args.time (g.dispatchTouch action args handled p).1.controllers := by
  refine h.setAt (forall₂_promote ?_ ?_ args.manipulators (forall₂_offer ?_ (forall₂_setAt ..) p handled) _)
  · exact fun kind m _ c p hset => hset.trans (c.setAt_mouse kind (promotedArgs args m) p)
  · exact fun _ c p hset => hset.trans (.same (c.timer?_lostCapture p))
  · exact fun _ c p hset => hset.trans (c.setAt_touch action args p)

/-- A group asks only those whose timers run, and a tick is nothing to the others. -/
theorem tick_eq (g : ControllerGroup (Controller α)) (now : Nat) (p : Pane α) :
    g.tick now p = g.forEach (Controller.tick now) p := by
  have hsame : (fun (c : Controller α) (p : Pane α) =>
      if GestureController.isTimerActive α c then GestureController.tick now c p else (c, p)) =
        Controller.tick now := by
    funext c p
    split
    · rfl
    · next hidle => exact (Controller.tick_of_idle (Bool.not_eq_true _ ▸ hidle) now p).symm
  rw [tick, hsame]

theorem each_tick_of_idle (h : ∀ c ∈ cs, c.isTimerActive = false) (now : Nat) (p : Pane α) :
    each (Controller.tick now) cs p = (cs, p) := by
  induction cs with
  | nil => rfl
  | cons c rest ih =>
    rw [List.forall_mem_cons] at h
    rw [each, Controller.tick_of_idle h.1]
    dsimp only
    rw [ih h.2]

theorem each_tick_tick [Decimals Float] {cs : List (Controller Float)} (h : IsPaced now cs) {earlier later : Nat}
    (hle : earlier ≤ later) (hlate : later ≤ now + maxCatchUp * minInterval) (p : Pane Float) :
    each (Controller.tick later) (each (Controller.tick earlier) cs p).1 (each (Controller.tick earlier) cs p).2 =
      each (Controller.tick later) cs p := by
  obtain ⟨htimers, hlone⟩ := h
  induction cs generalizing p with
  | nil => rfl
  | cons c rest ih =>
    rw [List.forall_mem_cons] at htimers
    cases htimed : c.isTimed with
    | true =>
      -- nobody after it has a timer
      have hnone : rest.countP Controller.isTimed = 0 := by
        rw [List.countP_cons_of_pos htimed] at hlone
        exact Nat.eq_zero_of_le_zero (Nat.le_of_succ_le_succ hlone)
      have hidle : ∀ d ∈ rest, d.isTimerActive = false := fun d hd =>
        Controller.isTimerActive_of_untimed (Bool.not_eq_true _ ▸ List.countP_eq_zero.1 hnone d hd)
      simp only [each, each_tick_of_idle hidle]
      rw [Controller.tick_tick htimers.1 hle hlate]
    | false =>
      have hidle := Controller.isTimerActive_of_untimed htimed
      have huntimed : ¬c.isTimed = true := Bool.not_eq_true _ ▸ htimed
      rw [List.countP_cons_of_neg huntimed] at hlone
      simp only [each, Controller.tick_of_idle hidle]
      rw [ih p htimers.2 hlone]

end ControllerGroup

/-! ### Replays -/

namespace Replay

open ControllerGroup (each)

variable [Decimals Float] {r : Replay}

/-- A poll of the timers at `now`. -/
def tickAt (now : Nat) (r : Replay) : Replay where
  pane := (r.group.tick now r.pane).2
  group := (r.group.tick now r.pane).1
  now := now

/-- A nanosecond goes by, and the timers are polled. -/
def elapse (r : Replay) : Replay := r.tickAt (r.now + 1)

def IsPaced (r : Replay) : Prop := ControllerGroup.IsPaced r.now r.group.controllers

theorem tickAt_eq (now : Nat) (r : Replay) :
    r.tickAt now =
      { pane := (each (Controller.tick now) r.group.controllers r.pane).2
        group := { r.group with controllers := (each (Controller.tick now) r.group.controllers r.pane).1 }
        now := now } := by
  rw [tickAt, ControllerGroup.tick_eq]
  rfl

theorem IsPaced.tickAt (h : r.IsPaced) (now : Nat) : (r.tickAt now).IsPaced := by
  rw [tickAt_eq]
  exact ControllerGroup.IsPaced.tick h now r.pane

theorem IsPaced.tickAt_tickAt (h : r.IsPaced) {earlier later : Nat} (hle : earlier ≤ later)
    (hlate : later ≤ r.now + maxCatchUp * minInterval) : (r.tickAt earlier).tickAt later = r.tickAt later := by
  have hboth := ControllerGroup.each_tick_tick h hle hlate r.pane
  rw [tickAt_eq earlier, tickAt_eq later, tickAt_eq later]
  dsimp only
  rw [hboth]

theorem now_iterate_elapse (count : Nat) (r : Replay) : (elapse^[count] r).now = r.now + count := by
  induction count generalizing r with
  | zero => rfl
  | succ count ih =>
    rw [Function.iterate_succ_apply, ih]
    exact Nat.add_right_comm ..

theorem IsPaced.iterate_elapse (h : r.IsPaced) (count : Nat) : (elapse^[count] r).IsPaced := by
  induction count generalizing r with
  | zero => exact h
  | succ count ih =>
    rw [Function.iterate_succ_apply]
    exact ih (h.tickAt _)

/-- A poll makes up for those left out before it. -/
theorem IsPaced.tickAt_eq_iterate (h : r.IsPaced) {count : Nat} (hcount : count + 1 ≤ maxCatchUp * minInterval) :
    r.tickAt (r.now + (count + 1)) = elapse^[count + 1] r := by
  induction count with
  | zero => rfl
  | succ count ih =>
    rw [Function.iterate_succ_apply', ← ih (by omega)]
    exact (h.tickAt_tickAt (Nat.le_succ _) (Nat.add_le_add_left hcount _)).symm

/-- Without a timer that runs, time goes by and nothing else happens. -/
theorem iterate_elapse_of_idle (h : r.group.isTimerActive Float = false) (count : Nat) :
    elapse^[count] r = { r with now := r.now + count } := by
  induction count generalizing r with
  | zero => rfl
  | succ count ih =>
    have hidle : ∀ c ∈ r.group.controllers, c.isTimerActive = false := fun c hc =>
      Bool.not_eq_true _ ▸ List.any_eq_false.1 h c hc
    have helapse : r.elapse = { r with now := r.now + 1 } := by
      rw [elapse, tickAt_eq, ControllerGroup.each_tick_of_idle hidle]
    rw [Function.iterate_succ_apply, helapse, ih (r := { r with now := r.now + 1 }) h, Nat.add_right_comm]
    rfl

/-- However far apart its polls are, a replay goes on as if it polled every nanosecond. -/
theorem IsPaced.runTimers_eq {step limit : Nat} (positive : 0 < step) (hstep : step ≤ maxCatchUp * minInterval)
    (h : r.IsPaced) :
    { runTimers step positive limit r with now := max (runTimers step positive limit r).now limit } =
      elapse^[limit - r.now] r := by
  fun_induction runTimers step positive limit r with
  | case1 r hrunning now group pane htick ih =>
    have hpolled : (⟨pane, group, now⟩ : Replay) = r.tickAt now := by rw [Replay.tickAt, htick]
    obtain ⟨count, hnow⟩ : ∃ count, now = r.now + (count + 1) := ⟨now - r.now - 1, by omega⟩
    have hcount : count + 1 ≤ step := by omega
    have hrest : limit - now + (count + 1) = limit - r.now := by omega
    rw [hpolled] at ih ⊢
    rw [ih (h.tickAt now), hnow, h.tickAt_eq_iterate (Nat.le_trans hcount hstep), now_iterate_elapse, ← hnow,
      ← Function.iterate_add_apply, hrest]
  | case2 r hstopped =>
    by_cases hlimit : r.now < limit
    · have hidle : r.group.isTimerActive Float = false := Bool.not_eq_true _ ▸ fun hactive => hstopped ⟨hactive, hlimit⟩
      have hle := Nat.le_of_lt hlimit
      rw [iterate_elapse_of_idle hidle, Nat.add_sub_cancel' hle, Nat.max_eq_right hle]
    · have hdone := Nat.le_of_not_lt hlimit
      rw [Nat.sub_eq_zero_of_le hdone, Nat.max_eq_left hdone]
      rfl

theorem IsPaced.advanceTo_eq (h : r.IsPaced) (limit : Nat) : r.advanceTo limit = elapse^[limit - r.now] r :=
  h.runTimers_eq tickStep_pos (by decide)

theorem IsPaced.advanceTo (h : r.IsPaced) (limit : Nat) : (r.advanceTo limit).IsPaced := by
  rw [h.advanceTo_eq]
  exact h.iterate_elapse _

theorem IsPaced.advanceTo_advanceTo (h : r.IsPaced) {earlier later : Nat} (hle : earlier ≤ later) :
    (r.advanceTo earlier).advanceTo later = r.advanceTo later := by
  have hsum : later - (r.now + (earlier - r.now)) + (earlier - r.now) = later - r.now := by omega
  rw [(h.advanceTo earlier).advanceTo_eq, h.advanceTo_eq, h.advanceTo_eq, now_iterate_elapse,
    ← Function.iterate_add_apply, hsum]

theorem IsPaced.now_advanceTo (h : r.IsPaced) {limit : Nat} (hle : r.now ≤ limit) :
    (r.advanceTo limit).now = limit := by
  rw [h.advanceTo_eq, now_iterate_elapse, Nat.add_sub_cancel' hle]

theorem IsPaced.dispatchMouse (h : r.IsPaced) (kind : MouseEventKind) (args : MouseArgs Float)
    (htime : args.time = r.now) : (r.dispatchMouse kind args).IsPaced ∧ (r.dispatchMouse kind args).now = r.now := by
  obtain ⟨pane, group, now⟩ := r
  obtain rfl : args.time = now := htime
  exact ⟨ControllerGroup.IsPaced.dispatchMouse kind args h false pane, rfl⟩

/-- An event reaches controllers whose timers are due after it. -/
theorem IsPaced.apply (h : r.IsPaced) (e : ScriptEvent) (htime : r.now ≤ e.time) :
    (r.apply e).IsPaced ∧ (r.apply e).now = e.time := by
  have hnow := h.now_advanceTo htime
  have hadvanced := h.advanceTo e.time
  rw [Replay.apply]
  -- the replay advanced to the event is named, for a term with `advanceTo` in it would be run to be checked
  obtain ⟨r', hr'⟩ : ∃ r', r.advanceTo e.time = r' := ⟨_, rfl⟩
  rw [hr'] at hnow hadvanced ⊢
  rw [← hnow]
  cases e.input with
  | mouse kind point buttons => exact hadvanced.dispatchMouse kind (.new point buttons r'.now) rfl
  | wheel point delta =>
    exact hadvanced.dispatchMouse .wheel { MouseArgs.new point .none r'.now with wheelDelta := delta } rfl
  | touch action touches =>
    let args : TouchArgs Float := ⟨touches.map fun t => ⟨t.id, t.position, action⟩, true, r'.now⟩
    exact ⟨ControllerGroup.IsPaced.dispatchTouch action args hadvanced false r'.pane, rfl⟩
  | advance => exact ⟨hadvanced, rfl⟩

end Replay

/-! ### Waits between events -/

/-- Lets time pass up to `atMs`. -/
def ScriptEvent.wait (atMs : Nat) : ScriptEvent := ⟨atMs, .advance⟩

/-- The events, each with waits in front of it. -/
def Script.weave (pairs : List (List Nat × ScriptEvent)) : List ScriptEvent :=
  pairs.flatMap fun (waits, e) => waits.map .wait ++ [e]

theorem Script.weave_cons (waits : List Nat) (e : ScriptEvent) (pairs : List (List Nat × ScriptEvent)) :
    weave ((waits, e) :: pairs) = waits.map .wait ++ e :: weave pairs := by
  rw [weave, List.flatMap_cons, List.append_assoc]
  rfl

/-- Times that never go back are what a script is checked for. -/
theorem Script.outOfOrder?_eq_none {events : List ScriptEvent} {index previous : Nat} :
    outOfOrder? index previous events = none ↔ (previous :: events.map (·.atMs)).IsChain (· ≤ ·) := by
  induction events generalizing index previous with
  | nil => simp [outOfOrder?]
  | cons e rest ih =>
    rw [outOfOrder?, List.map_cons, List.isChain_cons_cons, ← @ih (index + 1)]
    split
    · next hback => simp [Nat.not_le_of_lt hback]
    · next hforth => simp [Nat.le_of_not_lt hforth]

namespace Replay

variable [Decimals Float] {r r' : Replay}

theorem apply_congr {e : ScriptEvent} (h : r'.advanceTo e.time = r.advanceTo e.time) : r'.apply e = r.apply e := by
  rw [apply, apply, h]

/-- Waits before an event are nothing to it. -/
theorem IsPaced.apply_foldl_waits (h : r.IsPaced) {e : ScriptEvent} (htime : r.now ≤ e.time) {waits : List Nat}
    (hwaits : ∀ ms ∈ waits, ms ≤ e.atMs) : ((waits.map ScriptEvent.wait).foldl Replay.apply r).apply e = r.apply e := by
  induction waits generalizing r with
  | nil => rfl
  | cons ms rest ih =>
    rw [List.forall_mem_cons] at hwaits
    have hle : (ScriptEvent.wait ms).time ≤ e.time := Nat.mul_le_mul_right _ hwaits.1
    have hnow : (r.advanceTo (ScriptEvent.wait ms).time).now ≤ e.time := by
      rw [h.advanceTo_eq, now_iterate_elapse]
      omega
    exact (ih (h.advanceTo _) hnow hwaits.2).trans (apply_congr (h.advanceTo_advanceTo hle))

/-- Events in order reach the same states with waits in front of them as without. -/
theorem IsPaced.foldl_weave (h : r.IsPaced) {pairs : List (List Nat × ScriptEvent)}
    (hlater : ∀ e ∈ Script.weave pairs, r.now ≤ e.time)
    (hordered : ((Script.weave pairs).map (·.atMs)).Pairwise (· ≤ ·)) :
    (Script.weave pairs).foldl Replay.apply r = (pairs.map (·.2)).foldl Replay.apply r := by
  induction pairs generalizing r with
  | nil => rfl
  | cons pair rest ih =>
    obtain ⟨waits, e⟩ := pair
    rw [Script.weave_cons] at hlater hordered ⊢
    rw [List.map_append, List.map_cons, List.pairwise_append, List.pairwise_cons] at hordered
    obtain ⟨-, ⟨hafter, hrest⟩, hbefore⟩ := hordered
    have htime : r.now ≤ e.time := hlater e (List.mem_append_right _ List.mem_cons_self)
    have hwaits : ∀ ms ∈ waits, ms ≤ e.atMs := fun ms hms =>
      hbefore ms (List.mem_map.2 ⟨.wait ms, List.mem_map_of_mem hms, rfl⟩) _ List.mem_cons_self
    obtain ⟨hpaced, hnow⟩ := h.apply e htime
    have hlater' : ∀ e' ∈ Script.weave rest, (r.apply e).now ≤ e'.time := by
      intro e' he'
      rw [hnow]
      exact Nat.mul_le_mul_right _ (hafter _ (List.mem_map_of_mem he'))
    rw [List.foldl_append, List.foldl_cons, h.apply_foldl_waits htime hwaits, ih hpaced hlater' hrest]
    rfl

theorem applyAll_snd (r : Replay) (events : List ScriptEvent) : (r.applyAll events).2 = events.foldl apply r := by
  induction events generalizing r with
  | nil => rfl
  | cons e rest ih => exact ih (r.apply e)

end Replay

/-! ### Scripts -/

/-- A pan coasts, and a pinch is buffered. -/
def ControllerKind.isTimed : ControllerKind → Bool
  | pinchZoom | zoomPan => true
  | _ => false

theorem ControllerKind.isPaced_build [Decimals Float] {kind : ControllerKind} {id : OwnerId}
    {config : InteractionConfig Float} {c : Controller Float} (h : kind.build id config = .ok c) (now : Nat) :
    c.isTimed = kind.isTimed ∧ c.IsPaced now := by
  have hnew (interval : Nat) : ∀ t ∈ some (IntervalTimer.new interval), t.IsPaced now := by
    rintro t ⟨⟩
    exact IntervalTimer.isPaced_new interval now
  cases kind with
  | zoomPan =>
    rw [build, ZoomPan.new, Inertia.new] at h
    cases hfault : config.zoomPan.inertia.fault? with
    | some fault =>
      rw [hfault] at h
      cases h
    | none =>
      rw [hfault] at h
      cases h
      exact ⟨rfl, hnew _⟩
  | pinchZoom =>
    cases h
    exact ⟨rfl, hnew _⟩
  | _ =>
    cases h
    exact ⟨rfl, fun _ ht => nomatch ht⟩

namespace Replay

section

variable [Decimals Float] {r : Replay}

theorem isPaced_buildControllers {config : InteractionConfig Float} {kinds : List ControllerKind} {id : OwnerId}
    {cs : List (Controller Float)} (h : buildControllers config id kinds = .ok cs) (now : Nat) :
    cs.countP Controller.isTimed = kinds.countP ControllerKind.isTimed ∧ ∀ c ∈ cs, c.IsPaced now := by
  have hbuilt := (forall₂_buildControllers h).imp fun _ _ ⟨_, hc⟩ => ControllerKind.isPaced_build hc now
  clear h
  induction hbuilt with
  | nil => exact ⟨rfl, List.forall_mem_nil _⟩
  | cons hc _ ih =>
    rw [List.countP_cons, List.countP_cons, ih.1, hc.1, List.forall_mem_cons]
    exact ⟨rfl, hc.2, ih.2⟩

theorem isPaced_ofScript {s : Script} {config : InteractionConfig Float} (h : ofScript s config = .ok r)
    (hlone : s.controllers.countP ControllerKind.isTimed ≤ 1) : r.IsPaced ∧ r.now = 0 := by
  obtain ⟨-, pane, controllers, -, hbuilt, rfl⟩ := ofScript_eq h
  obtain ⟨hcount, hpaced⟩ := isPaced_buildControllers hbuilt 0
  have hstart : ControllerGroup.IsPaced 0 controllers := ⟨hpaced, hcount ▸ hlone⟩
  refine ⟨hstart.setAt ?_, rfl⟩
  exact ControllerGroup.forall₂_each (fun _ c p hset => hset.trans (.same (c.timer?_attached p)))
    (ControllerGroup.forall₂_setAt 0 controllers) pane

/-- In a valid script that has one pan or pinch at most, waits that keep the order can stand in front of any events: the
script stays valid and starts the same, after each of its own events it is in the same state, and it ends with the same
report. -/
theorem ignores_waits {s : Script} {config : InteractionConfig Float} {pairs : List (List Nat × ScriptEvent)}
    (hvalid : s.fault? = none) (hstart : ofScript s config = .ok r)
    (hlone : s.controllers.countP ControllerKind.isTimed ≤ 1) (hevents : pairs.map (·.2) = s.events)
    (hordered : ((Script.weave pairs).map (·.atMs)).Pairwise (· ≤ ·)) :
    { s with events := Script.weave pairs }.fault? = none ∧
      ofScript { s with events := Script.weave pairs } config = .ok r ∧
      (∀ k, (Script.weave (pairs.take k)).foldl apply r = (s.events.take k).foldl apply r) ∧
      (r.applyAll (Script.weave pairs)).2.finish = (r.applyAll s.events).2.finish := by
  obtain ⟨hpaced, hnow⟩ := isPaced_ofScript hstart hlone
  have hstates (k : Nat) : (Script.weave (pairs.take k)).foldl apply r = (s.events.take k).foldl apply r := by
    have hsplit : Script.weave pairs = Script.weave (pairs.take k) ++ Script.weave (pairs.drop k) := by
      rw [Script.weave, Script.weave, Script.weave, ← List.flatMap_append, List.take_append_drop]
    rw [hsplit, List.map_append, List.pairwise_append] at hordered
    rw [← hevents, ← List.map_take]
    exact hpaced.foldl_weave (fun _ _ => hnow ▸ Nat.zero_le _) hordered.1
  refine ⟨?_, hstart, hstates, ?_⟩
  · have hchain : (0 :: (Script.weave pairs).map (·.atMs)).IsChain (· ≤ ·) :=
      (List.pairwise_cons.2 ⟨fun _ _ => Nat.zero_le _, hordered⟩).isChain
    unfold Script.fault? at hvalid ⊢
    split at hvalid
    · cases hvalid
    · next hviewport =>
      split at hvalid
      · cases hvalid
      · next haxes =>
        rw [if_neg hviewport, if_neg haxes]
        exact Script.outOfOrder?_eq_none.2 hchain
  · have hall := hstates pairs.length
    have hlength : pairs.length = s.events.length := by rw [← hevents, List.length_map]
    rw [List.take_length, hlength, List.take_length] at hall
    rw [applyAll_snd, applyAll_snd, hall]

end

/-- A pan that coasts on after its release, with waits while it does. -/
theorem ignores_waits_coasting :
    let pairs : List (List Nat × ScriptEvent) :=
      [([], ⟨0, .mouse .down ⟨200, 150⟩ .onlyLeft⟩), ([3, 7], ⟨16, .mouse .move ⟨180, 160⟩ .onlyLeft⟩),
        ([], ⟨24, .mouse .up ⟨180, 160⟩ .none⟩), ([25, 41, 41, 57], ⟨100, .wheel ⟨200, 150⟩ 120⟩)]
    let x : AxisSpec := ⟨"x", .x, none, "double", (0, 100), some (0, 1000), false, false, .never, .zero, none⟩
    let s : Script := ⟨⟨0, 0, 400, 300⟩, .cartesian, [x], [.zoomPan, .wheelZoom], none, pairs.map (·.2)⟩
    s.fault? = none ∧ s.controllers.countP ControllerKind.isTimed ≤ 1 ∧
      ((Script.weave pairs).map (·.atMs)).Pairwise (· ≤ ·) ∧
      ∃ r, ofScript s .default = .ok r ∧
        (∀ k, (Script.weave (pairs.take k)).foldl apply r = (s.events.take k).foldl apply r) ∧
        (r.applyAll (Script.weave pairs)).2.finish = (r.applyAll s.events).2.finish := by
  intro pairs x s
  have hvalid : s.fault? = none := by decide +kernel
  have hlone : s.controllers.countP ControllerKind.isTimed ≤ 1 := by decide
  have hordered : ((Script.weave pairs).map (·.atMs)).Pairwise (· ≤ ·) := by decide
  have hstarts : (ofScript s .default).isOk = true := by decide +kernel
  cases hstart : ofScript s .default with
  | error fault =>
    rw [hstart] at hstarts
    cases hstarts
  | ok r =>
    obtain ⟨-, -, hstates, hreport⟩ := ignores_waits hvalid hstart hlone rfl hordered
    exact ⟨hvalid, hlone, hordered, r, rfl, hstates, hreport⟩

end Replay

end ChartGestures
