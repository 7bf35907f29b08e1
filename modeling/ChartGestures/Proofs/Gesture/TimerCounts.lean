import ChartGestures.Proofs.Gesture.Polling
import Mathlib.Data.List.Chain

/-!
# Ticks on schedule

However a timer is polled, what it has handed out are the whole intervals since its start, and its next tick is due at
the next multiple: none is lost, none comes twice, and the schedule does not drift. Only a poll that comes too late
drops ticks. From then on the timer runs as if it had been started later.
-/

namespace ChartGestures

namespace IntervalTimer

/-- Polls at these times in a row: their ticks together, and the timer after the last. -/
def pollAll (t : IntervalTimer) : List Nat → Nat × IntervalTimer
  | [] => (0, t)
  | now :: later =>
    let (ticks, next) := t.poll now
    let (more, last) := next.pollAll later
    (ticks + more, last)

theorem pollAll_concat (t : IntervalTimer) (times : List Nat) (now : Nat) :
    t.pollAll (times ++ [now]) =
      ((t.pollAll times).1 + ((t.pollAll times).2.poll now).1, ((t.pollAll times).2.poll now).2) := by
  induction times generalizing t with
  | nil => simp only [List.nil_append, pollAll, Nat.add_zero, Nat.zero_add]
  | cons first later ih => simp only [List.cons_append, pollAll, ih, Nat.add_assoc]

theorem ticksDue_bounds {interval : Nat} (hpos : 0 < interval) (due now : Nat) :
    ticksDue interval due now * interval ≤ now + interval - due ∧
      now + interval - due < ticksDue interval due now * interval + interval :=
  ⟨Nat.div_mul_le_self .., Nat.lt_div_mul_add hpos⟩

theorem le_of_lt_ticksDue {interval due now room : Nat} (hpos : 0 < interval) (h : room < ticksDue interval due now) :
    due + room * interval ≤ now := by
  have hmul := Nat.mul_le_mul_right interval (Nat.succ_le_of_lt h)
  rw [Nat.succ_mul] at hmul
  have hfloor := (ticksDue_bounds hpos due now).1
  omega

variable {t : IntervalTimer} {origin ticks now later : Nat} {times : List Nat}

/-- As many ticks as there are whole intervals since `origin` are handed out by `now`, and the next is due on time. -/
structure RunsFrom (origin ticks now : Nat) (t : IntervalTimer) : Prop where
  next : t.nextDue = some (origin + (ticks + 1) * t.interval)
  elapsed : origin + ticks * t.interval ≤ now
  pending : now < origin + (ticks + 1) * t.interval

namespace RunsFrom

theorem of_start (hpos : 0 < t.interval) (now : Nat) : (t.start now).RunsFrom now 0 now := by
  have hone : (0 + 1) * t.interval = t.interval := by rw [Nat.zero_add, Nat.one_mul]
  refine ⟨congrArg (fun wait => some (now + wait)) hone.symm, ?_, ?_⟩
  · exact Nat.le_of_eq (by rw [Nat.zero_mul, Nat.add_zero])
  · change now < now + (0 + 1) * t.interval
    omega

theorem interval_pos (h : t.RunsFrom origin ticks now) : 0 < t.interval := by
  have helapsed := h.elapsed
  have hpending := h.pending
  rw [Nat.add_mul, Nat.one_mul] at hpending
  omega

theorem ticks_eq (h : t.RunsFrom origin ticks now) : ticks = (now - origin) / t.interval := by
  refine (Nat.div_eq_of_lt_le ?_ ?_).symm
  · exact Nat.le_sub_of_add_le' h.elapsed
  · exact Nat.sub_lt_left_of_lt_add (Nat.le_trans (Nat.le_add_right ..) h.elapsed) h.pending

/-- Two timers that run from the same time on have handed out the same. -/
theorem unique {t' : IntervalTimer} {ticks' : Nat} (h : t.RunsFrom origin ticks now)
    (h' : t'.RunsFrom origin ticks' now) (hinterval : t'.interval = t.interval) : ticks' = ticks ∧ t' = t := by
  have hticks : ticks' = ticks := by rw [h.ticks_eq, h'.ticks_eq, hinterval]
  have hnext : t'.nextDue = t.nextDue := by rw [h.next, h'.next, hinterval, hticks]
  exact ⟨hticks, congrArg₂ IntervalTimer.mk hinterval hnext⟩

/-- A poll that is not too late hands out the intervals that have passed. -/
theorem poll_of_close (h : t.RunsFrom origin ticks now) (hle : now ≤ later)
    (hclose : ticksDue t.interval (origin + (ticks + 1) * t.interval) later ≤ maxCatchUp) :
    (t.poll later).2.RunsFrom origin (ticks + (t.poll later).1) later := by
  have hpos := h.interval_pos
  have helapsed := h.elapsed
  obtain ⟨hfloor, hceil⟩ := ticksDue_bounds hpos (origin + (ticks + 1) * t.interval) later
  rw [poll_eq hpos h.next hclose]
  generalize ticksDue t.interval (origin + (ticks + 1) * t.interval) later = more at hfloor hceil
  simp only [Nat.add_mul, Nat.one_mul] at hfloor hceil
  refine ⟨congrArg some ?_, ?_, ?_⟩
  · simp only [Nat.add_mul, Nat.one_mul]
    omega
  · simp only [Nat.add_mul]
    omega
  · simp only [Nat.add_mul, Nat.one_mul]
    omega

/-- A poll that is too late leaves a timer that runs as if it had been started later. -/
theorem poll_of_late (h : t.RunsFrom origin ticks now)
    (hlate : maxCatchUp < ticksDue t.interval (origin + (ticks + 1) * t.interval) later) :
    ∃ origin', origin ≤ origin' ∧ (t.poll later).2.RunsFrom origin' (ticks + (t.poll later).1) later := by
  have hpos := h.interval_pos
  have hbacklog := le_of_lt_ticksDue hpos hlate
  have hpoll : t.poll later = (maxCatchUp, { t with nextDue := some (later + t.interval) }) := by
    simp only [poll, h.next, catchUp_eq hpos, Nat.min_eq_left (Nat.le_of_lt hlate), if_pos hbacklog]
  rw [Nat.add_mul, Nat.one_mul] at hbacklog
  have hroom : (ticks + maxCatchUp) * t.interval ≤ later := by
    rw [Nat.add_mul]
    omega
  rw [hpoll]
  refine ⟨later - (ticks + maxCatchUp) * t.interval, ?_, congrArg some ?_, ?_, ?_⟩
  · rw [Nat.add_mul] at hroom ⊢
    omega
  · change later + t.interval = later - _ + (ticks + maxCatchUp + 1) * t.interval
    rw [Nat.add_mul _ 1, Nat.one_mul]
    omega
  · exact Nat.le_of_eq (Nat.sub_add_cancel hroom)
  · change later < later - _ + (ticks + maxCatchUp + 1) * t.interval
    rw [Nat.add_mul _ 1, Nat.one_mul]
    omega

/-- What a poll preserves: only if it comes more than eight intervals after the last, ticks are dropped. -/
theorem poll (h : t.RunsFrom origin ticks now) (hle : now ≤ later) :
    ∃ origin', origin ≤ origin' ∧ (t.poll later).2.RunsFrom origin' (ticks + (t.poll later).1) later ∧
      (later ≤ now + maxCatchUp * t.interval → origin' = origin) := by
  rcases Nat.lt_or_ge maxCatchUp (ticksDue t.interval (origin + (ticks + 1) * t.interval) later) with hlate | hclose
  · obtain ⟨origin', hafter, hruns⟩ := h.poll_of_late hlate
    refine ⟨origin', hafter, hruns, fun hsoon => ?_⟩
    have hpending := h.pending
    have hbacklog := le_of_lt_ticksDue h.interval_pos hlate
    omega
  · exact ⟨origin, Nat.le_refl origin, h.poll_of_close hle hclose, fun _ => rfl⟩

/-- What polls in a row preserve. -/
theorem pollAll (h : t.RunsFrom origin ticks now) (horder : (now :: times).IsChain (· ≤ ·)) :
    ∃ origin', origin ≤ origin' ∧
      (t.pollAll times).2.RunsFrom origin' (ticks + (t.pollAll times).1) (times.getLastD now) ∧
      ((now :: times).IsChain (fun earlier later => later ≤ earlier + maxCatchUp * t.interval) →
        origin' = origin) := by
  induction times generalizing t origin ticks now with
  | nil => exact ⟨origin, Nat.le_refl origin, h, fun _ => rfl⟩
  | cons later times ih =>
    obtain ⟨hle, horder⟩ := List.isChain_cons_cons.1 horder
    obtain ⟨middle, hmiddle, hpolled, hsame⟩ := h.poll hle
    obtain ⟨origin', horigin, hlast, hsame'⟩ := ih hpolled horder
    rw [interval_poll] at hsame'
    rw [List.getLastD_cons]
    refine ⟨origin', Nat.le_trans hmiddle horigin, ?_, fun hclose => ?_⟩
    · rw [Nat.add_assoc] at hlast
      exact hlast
    · obtain ⟨hsoon, hclose⟩ := List.isChain_cons_cons.1 hclose
      exact (hsame' hclose).trans (hsame hsoon)

end RunsFrom

theorem interval_pollAll (t : IntervalTimer) (times : List Nat) : (t.pollAll times).2.interval = t.interval := by
  induction times generalizing t with
  | nil => rfl
  | cons now later ih => exact (ih _).trans (interval_poll t now)

theorem poll_le (h : 0 < t.interval) (now : Nat) : (t.poll now).1 ≤ maxCatchUp := by
  unfold poll
  split
  · exact Nat.zero_le _
  · simp only [catchUp_eq h]
    exact Nat.min_le_left ..

theorem interval_new {interval : Nat} (h : minInterval ≤ interval) : (new interval).interval = interval :=
  Nat.max_eq_left h

/-- Polls at any times from the start on: the last of them leaves the next tick due within one interval, hands out at
most eight, and no tick has come before its time. If none came more than eight intervals after the one before, all
ticks have come, and other such polls would have led to the same. -/
theorem ticks_on_schedule {interval start now : Nat} {times : List Nat} (hmin : minInterval ≤ interval)
    (horder : (start :: (times ++ [now])).IsChain (· ≤ ·)) :
    let t := (new interval).start start
    let last := (t.pollAll times).2.poll now
    let total := (t.pollAll times).1 + last.1
    let IsClose := fun earlier later => later ≤ earlier + 8 * interval
    (∃ due, last.2.nextDue = some due ∧ now < due ∧ due ≤ now + interval) ∧ last.1 ≤ 8 ∧
      total ≤ (now - start) / interval ∧
      ((start :: (times ++ [now])).IsChain IsClose →
        total = (now - start) / interval ∧ last.2.nextDue = some (start + (total + 1) * interval) ∧
        ∀ others, (start :: (others ++ [now])).IsChain (· ≤ ·) → (start :: (others ++ [now])).IsChain IsClose →
          t.pollAll (others ++ [now]) = (total, last.2)) := by
  intro t last total IsClose
  have hinterval : ((new interval).start start).interval = interval := interval_new hmin
  have hpos : 0 < t.interval := hinterval ▸ Nat.lt_of_lt_of_le (by decide) hmin
  have hrun (polls : List Nat) (h : (start :: (polls ++ [now])).IsChain (· ≤ ·)) :=
    (RunsFrom.of_start (t := new interval) hpos start).pollAll h
  simp only [List.getLastD_concat, Nat.zero_add, hinterval] at hrun
  have hafter (polls : List Nat) : (t.pollAll polls).2.interval = interval := (interval_pollAll t polls).trans hinterval
  have hlast : last.2.interval = interval := (interval_poll _ now).trans (hafter times)
  obtain ⟨origin, horigin, hruns, hsame⟩ := hrun times horder
  rw [pollAll_concat] at hruns
  change last.2.RunsFrom origin total now at hruns
  have hticks : total = (now - origin) / interval := hlast ▸ hruns.ticks_eq
  have hnext : last.2.nextDue = some (origin + (total + 1) * interval) := hlast ▸ hruns.next
  have helapsed : origin + total * interval ≤ now := hlast ▸ hruns.elapsed
  have hpending : now < origin + (total + 1) * interval := hlast ▸ hruns.pending
  refine ⟨⟨_, hnext, hpending, ?_⟩, ?_, ?_, fun hclose => ?_⟩
  · rw [Nat.add_mul, Nat.one_mul]
    omega
  · exact poll_le (interval_pollAll t times ▸ hpos) now
  · rw [hticks]
    exact Nat.div_le_div_right (by omega)
  · obtain rfl := hsame hclose
    refine ⟨hticks, hnext, fun others horder' hclose' => ?_⟩
    obtain ⟨origin', -, hruns', hsame'⟩ := hrun others horder'
    obtain rfl := hsame' hclose'
    obtain ⟨hcount, htimer⟩ := hruns.unique hruns' ((hafter _).trans hlast.symm)
    exact Prod.ext hcount htimer

/-- Polls between and at the due times of a timer that ticks every ten milliseconds. -/
theorem ticks_on_schedule_ten_millis :
    let t := (new 10000000).start 0
    let last := (t.pollAll [5000000, 10000000]).2.poll 35000000
    let total := (t.pollAll [5000000, 10000000]).1 + last.1
    total = (35000000 - 0) / 10000000 ∧ last.2.nextDue = some (0 + (total + 1) * 10000000) := by
  have hpolled := @ticks_on_schedule 10000000 0 35000000 [5000000, 10000000] (by decide) (by decide)
  have hall := hpolled.2.2.2 (by decide +kernel)
  exact ⟨hall.1, hall.2.1⟩

/-- A backlog of a second leaves the schedule behind. -/
example : ((new 1000000).start 0).poll 1000000000 = (8, ⟨1000000, some 1001000000⟩) := by decide

end IntervalTimer

end ChartGestures
