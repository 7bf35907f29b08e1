import ChartGestures.Number.ExactDecimal
import ChartGestures.Proofs.Gesture.Polling
import ChartGestures.Proofs.Number.Exact
import Mathlib.Algebra.Order.Floor.Semifield
import Mathlib.Algebra.Order.Group.MinMax
import Mathlib.Data.Rat.Floor

/-!
# Coming to rest

Each tick of a coasting pan takes the friction off the magnitude of both components of its velocity. So the larger one
says how many ticks are left, and every tick that is taken is one less, however polls hand them out. A pan whose
velocity is gone holds nothing of the gesture that it went on from.
-/

namespace ChartGestures

open Scalar

/-! ### Magnitudes -/

section Decay

variable {v friction : Rat}

theorem decay_of_pos (h : 0 < v) : decay v friction = max (v - friction) 0 := by
  rw [← larger_eq_max]
  exact if_pos h

theorem decay_of_nonpos (h : v ≤ 0) : decay v friction = min (v + friction) 0 := by
  rw [← smaller_eq_min]
  exact if_neg (not_lt.2 h)

theorem abs_decay (v friction : Rat) : |decay v friction| = max (|v| - friction) 0 := by
  rcases lt_or_ge 0 v with hpos | hneg
  · rw [decay_of_pos hpos, abs_of_pos hpos, abs_of_nonneg (le_max_right ..)]
  · rw [decay_of_nonpos hneg, abs_of_nonpos hneg, abs_of_nonpos (min_le_right ..), ← max_neg_neg, neg_zero,
      neg_add']

theorem decay_nonneg (hfriction : 0 ≤ friction) (h : 0 ≤ v) : 0 ≤ decay v friction := by
  rcases h.lt_or_eq with hpos | rfl
  · rw [decay_of_pos hpos]
    exact le_max_right ..
  · rw [decay_of_nonpos le_rfl, zero_add, min_eq_right hfriction]

theorem decay_nonpos (h : v ≤ 0) : decay v friction ≤ 0 := by
  rw [decay_of_nonpos h]
  exact min_le_right ..

/-- The magnitude is less by the friction, or gone, and the sign is kept. -/
structure Decays (friction before after : Rat) : Prop where
  magnitude : |after| = max (|before| - friction) 0
  nonneg : 0 ≤ before → 0 ≤ after
  nonpos : before ≤ 0 → after ≤ 0

theorem decays_decay (hfriction : 0 ≤ friction) (v : Rat) : Decays friction v (decay v friction) :=
  ⟨abs_decay v friction, decay_nonneg hfriction, decay_nonpos⟩

end Decay

namespace Point

variable {v : Point Rat}

/-- The larger of the two magnitudes. -/
def speed (v : Point Rat) : Rat := max |v.x| |v.y|

theorem speed_le_zero : v.speed ≤ 0 ↔ v = .zero := by
  obtain ⟨x, y⟩ := v
  rw [speed, max_le_iff, abs_nonpos_iff, abs_nonpos_iff]
  exact (Point.mk.injEq x y 0 0).symm ▸ Iff.rfl

theorem beq_zero_iff : (v == .zero) = true ↔ v = .zero := by
  obtain ⟨x, y⟩ := v
  change (x == 0 && y == 0) = true ↔ _
  rw [Bool.and_eq_true, beq_iff_eq, beq_iff_eq]
  exact (Point.mk.injEq x y 0 0).symm ▸ Iff.rfl

end Point

theorem InertiaConfig.positive_of_valid {config : InertiaConfig Rat} (h : config.fault? = none) :
    0 < config.friction ∧ 0 < config.maxVelocity := by
  unfold fault? at h
  split at h
  · cases h
  · split at h
    · cases h
    · next hfriction =>
      split at h
      · cases h
      · next hmax => exact ⟨not_not.1 hfriction, not_not.1 hmax⟩

namespace Inertia

section

variable [Decimals Rat] {i : Inertia Rat} {config : InertiaConfig Rat}

/-! ### One tick -/

theorem velocity_start (i : Inertia Rat) (now : Nat) (velocity offset : Point Rat) (starts : StartRanges Rat)
    (target : PanTarget) :
    (i.start now velocity offset starts target).velocity =
      ⟨min (max velocity.x (-i.config.maxVelocity)) i.config.maxVelocity,
        min (max velocity.y (-i.config.maxVelocity)) i.config.maxVelocity⟩ := by
  have hlimit : limit i.config velocity =
      ⟨min (max velocity.x (-i.config.maxVelocity)) i.config.maxVelocity,
        min (max velocity.y (-i.config.maxVelocity)) i.config.maxVelocity⟩ := by
    simp only [limit, Point.clamp, Point.larger, Point.smaller, larger_eq_max, smaller_eq_min]
  unfold start
  dsimp only
  split
  · next hrest => exact (Point.beq_zero_iff.1 hrest).symm.trans hlimit
  · exact hlimit

omit [Decimals Rat] in
theorem abs_limited_le {most : Rat} (h : 0 < most) (v : Rat) : |min (max v (-most)) most| ≤ most :=
  abs_le.2 ⟨le_min (le_max_right ..) (neg_le_self h.le), min_le_right ..⟩

theorem config_step (i : Inertia Rat) (p : Pane Rat) : (i.step p).1.config = i.config := by
  unfold step
  dsimp only
  split <;> rfl

theorem velocity_step (i : Inertia Rat) (p : Pane Rat) :
    (i.step p).1.velocity = ⟨decay i.velocity.x i.config.friction, decay i.velocity.y i.config.friction⟩ := by
  unfold step
  dsimp only
  split
  · next hrest => exact (Point.beq_zero_iff.1 hrest).symm
  · rfl

/-- The ticks that are left. -/
def ticksToRest (i : Inertia Rat) : Nat := ⌈i.velocity.speed / i.config.friction⌉₊

theorem ticksToRest_eq_zero (hfriction : 0 < i.config.friction) : i.ticksToRest = 0 ↔ i.velocity = .zero := by
  rw [ticksToRest, Nat.ceil_eq_zero, ← Point.speed_le_zero, div_le_iff₀ hfriction, zero_mul]

/-- Both components lose the same, so the larger of them does too. -/
theorem speed_step (i : Inertia Rat) (p : Pane Rat) :
    (i.step p).1.velocity.speed = max (i.velocity.speed - i.config.friction) 0 := by
  rw [velocity_step, Point.speed, abs_decay, abs_decay, max_max_max_comm, max_self, max_sub_sub_right]
  rfl

theorem ticksToRest_step (hfriction : 0 < i.config.friction) (p : Pane Rat) :
    (i.step p).1.ticksToRest = i.ticksToRest - 1 := by
  have hless : (i.velocity.speed - i.config.friction) / i.config.friction =
      i.velocity.speed / i.config.friction - 1 := by
    rw [sub_div, div_self hfriction.ne']
  rw [ticksToRest, config_step, speed_step, ← max_div_div_right hfriction.le, zero_div, hless,
    Nat.ceil_mono.map_max, Nat.ceil_zero, Nat.max_zero, Nat.ceil_sub_one]
  rfl

theorem velocity_step_of_rest (hfriction : 0 < i.config.friction) (hrest : i.velocity = .zero) (p : Pane Rat) :
    (i.step p).1.velocity = .zero := by
  have hfriction' : 0 < (i.step p).1.config.friction := config_step i p ▸ hfriction
  rw [← ticksToRest_eq_zero hfriction', ticksToRest_step hfriction, (ticksToRest_eq_zero hfriction).2 hrest]

/-! ### Ticks in a row -/

/-- How many of `count` ticks are taken before the velocity is gone. -/
def taken : Nat → Inertia Rat → Pane Rat → Nat
  | 0, _, _ => 0
  | count + 1, i, p =>
    let (i, p) := i.step p
    if i.velocity == .zero then 1 else taken count i p + 1

theorem steps_eq_iterate (count : Nat) (i : Inertia Rat) (p : Pane Rat) :
    steps count i p = (fun s : Inertia Rat × Pane Rat => s.1.step s.2)^[taken count i p] (i, p) := by
  induction count generalizing i p with
  | zero => rfl
  | succ count ih =>
    unfold steps taken
    dsimp only
    split
    · rfl
    · exact ih ..

theorem taken_eq (hfriction : 0 < i.config.friction) (hmoving : i.velocity ≠ .zero) (count : Nat) (p : Pane Rat) :
    taken count i p = min count i.ticksToRest := by
  induction count generalizing i p with
  | zero => exact (Nat.zero_min _).symm
  | succ count ih =>
    have hfriction' : 0 < (i.step p).1.config.friction := config_step i p ▸ hfriction
    have hleft := ticksToRest_step hfriction p
    have hsome := mt (ticksToRest_eq_zero hfriction).1 hmoving
    unfold taken
    dsimp only
    split
    · next hrest =>
      rw [(ticksToRest_eq_zero hfriction').2 (Point.beq_zero_iff.1 hrest)] at hleft
      omega
    · next hmotion =>
      rw [ih hfriction' (mt Point.beq_zero_iff.2 hmotion), hleft]
      omega

theorem ticksToRest_iterate (hfriction : 0 < i.config.friction) (n : Nat) (p : Pane Rat) :
    ((fun s : Inertia Rat × Pane Rat => s.1.step s.2)^[n] (i, p)).1.ticksToRest = i.ticksToRest - n := by
  induction n generalizing i p with
  | zero => rfl
  | succ n ih =>
    have hfriction' : 0 < (i.step p).1.config.friction := config_step i p ▸ hfriction
    rw [Function.iterate_succ_apply]
    exact (ih hfriction' _).trans (by rw [ticksToRest_step hfriction, Nat.sub_sub, Nat.add_comm])

/-- As the timer is after a poll, before the ticks are taken. -/
def polled (i : Inertia Rat) (now : Nat) : Inertia Rat := { i with timer := (i.timer.poll now).2 }

theorem tick_eq_steps (i : Inertia Rat) (now : Nat) (p : Pane Rat) :
    i.tick now p = steps (i.timer.poll now).1 (i.polled now) p := rfl

/-! ### The states of a coasting pan -/

/-- The states that calls lead to, whatever they are given and whatever the panes show. -/
inductive Reached (config : InertiaConfig Rat) : Inertia Rat → Prop
  | new {i : Inertia Rat} : Inertia.new config = .ok i → Reached config i
  | start {i : Inertia Rat} (now : Nat) (velocity offset : Point Rat) (starts : StartRanges Rat) (target : PanTarget) :
    Reached config i → Reached config (i.start now velocity offset starts target)
  | tick {i : Inertia Rat} (now : Nat) (p : Pane Rat) : Reached config i → Reached config (i.tick now p).1
  | reset {i : Inertia Rat} : Reached config i → Reached config i.reset

/-- The timer runs while there is a velocity, and only then a target and what the gesture left are held. -/
structure IsCoherent (config : InertiaConfig Rat) (i : Inertia Rat) : Prop where
  config_eq : i.config = config
  active : i.isActive = true ↔ i.velocity ≠ .zero
  target : i.target.isSome = true ↔ i.velocity ≠ .zero
  rest : i.velocity = .zero → i.categoryOffset = .zero ∧ i.categoryStarts = []

namespace IsCoherent

theorem reset (h : i.config = config) : i.reset.IsCoherent config where
  config_eq := h
  active := iff_of_false Bool.false_ne_true (not_not.2 rfl)
  target := iff_of_false Bool.false_ne_true (not_not.2 rfl)
  rest _ := ⟨rfl, rfl⟩

theorem of_moving (h : i.config = config) (hactive : i.isActive = true) (htarget : i.target.isSome = true)
    (hmoving : i.velocity ≠ .zero) : i.IsCoherent config where
  config_eq := h
  active := iff_of_true hactive hmoving
  target := iff_of_true htarget hmoving
  rest hrest := absurd hrest hmoving

theorem start (h : i.config = config) (now : Nat) (velocity offset : Point Rat) (starts : StartRanges Rat)
    (target : PanTarget) : (i.start now velocity offset starts target).IsCoherent config := by
  unfold Inertia.start
  dsimp only
  split
  · exact .reset h
  · next hmotion => exact .of_moving h rfl rfl (mt Point.beq_zero_iff.2 hmotion)

theorem step (h : i.IsCoherent config) (hfriction : 0 < config.friction) (p : Pane Rat) :
    (i.step p).1.IsCoherent config := by
  have hkept : i.velocity = .zero →
      (⟨decay i.velocity.x i.config.friction, decay i.velocity.y i.config.friction⟩ : Point Rat) = .zero :=
    fun hrest => (velocity_step i p).symm.trans (velocity_step_of_rest (h.config_eq ▸ hfriction) hrest p)
  unfold Inertia.step
  dsimp only
  split
  · exact .reset h.config_eq
  · next hmotion =>
    have hleft := mt Point.beq_zero_iff.2 hmotion
    have hmoving := mt hkept hleft
    exact .of_moving h.config_eq (h.active.2 hmoving) (h.target.2 hmoving) hleft

theorem steps (h : i.IsCoherent config) (hfriction : 0 < config.friction) (count : Nat) (p : Pane Rat) :
    (steps count i p).1.IsCoherent config := by
  induction count generalizing i p with
  | zero => exact h
  | succ count ih =>
    unfold Inertia.steps
    dsimp only
    split
    · exact h.step hfriction p
    · exact ih (h.step hfriction p) _

/-- A poll does not stop the timer. -/
theorem polled (h : i.IsCoherent config) (now : Nat) : (i.polled now).IsCoherent config := by
  have hactive : (i.polled now).isActive = i.isActive := IntervalTimer.isRunning_poll i.timer now
  exact ⟨h.config_eq, hactive ▸ h.active, h.target, h.rest⟩

theorem tick (h : i.IsCoherent config) (hfriction : 0 < config.friction) (now : Nat) (p : Pane Rat) :
    (i.tick now p).1.IsCoherent config :=
  (h.polled now).steps hfriction _ p

theorem rest_iff (h : i.IsCoherent config) : i.isActive = false ↔ i.velocity = .zero := by
  rw [← not_iff_not, Bool.not_eq_false]
  exact h.active

end IsCoherent

/-- Wherever calls lead, the state is coherent. -/
theorem Reached.isCoherent (hfriction : 0 < config.friction) (h : Reached config i) : i.IsCoherent config := by
  induction h with
  | new hnew =>
    unfold Inertia.new at hnew
    split at hnew
    · cases hnew
    · obtain rfl := Except.ok.inj hnew
      exact .reset (i := atRest config) rfl
  | start now velocity offset starts target _ ih => exact .start ih.config_eq ..
  | tick now p _ ih => exact ih.tick hfriction now p
  | reset _ ih => exact .reset ih.config_eq

/-! ### Polls in a row -/

/-- The ticks that a poll takes. -/
def takenAt (i : Inertia Rat) (now : Nat) (p : Pane Rat) : Nat :=
  taken (i.timer.poll now).1 (i.polled now) p

/-- The ticks that polls at these times take together, each on the pane as it is then, and the state after the last. -/
def coast (i : Inertia Rat) : List (Nat × Pane Rat) → Nat × Inertia Rat
  | [] => (0, i)
  | (now, p) :: later =>
    let (more, last) := (i.tick now p).1.coast later
    (i.takenAt now p + more, last)

/-- A poll takes the ticks that are due, as long as there are any left. -/
theorem takenAt_eq (h : i.IsCoherent config) (hfriction : 0 < config.friction) (now : Nat) (p : Pane Rat) :
    i.takenAt now p = min (i.timer.poll now).1 i.ticksToRest := by
  have hfriction' : 0 < i.config.friction := h.config_eq ▸ hfriction
  by_cases hrest : i.velocity = .zero
  · rw [takenAt, IntervalTimer.poll_of_idle (h.rest_iff.2 hrest)]
    exact (Nat.zero_min _).symm
  · exact taken_eq (i := i.polled now) hfriction' hrest _ p

theorem ticksToRest_tick (hfriction : 0 < i.config.friction) (now : Nat) (p : Pane Rat) :
    (i.tick now p).1.ticksToRest = i.ticksToRest - i.takenAt now p := by
  rw [tick_eq_steps, steps_eq_iterate]
  exact ticksToRest_iterate (i := i.polled now) hfriction _ p

/-- The ticks that were taken and those that are left add up to the same after every poll. -/
theorem coast_spec (h : i.IsCoherent config) (hfriction : 0 < config.friction) (polls : List (Nat × Pane Rat)) :
    (i.coast polls).2.IsCoherent config ∧ (i.coast polls).1 + (i.coast polls).2.ticksToRest = i.ticksToRest := by
  induction polls generalizing i with
  | nil => exact ⟨h, Nat.zero_add _⟩
  | cons poll later ih =>
    obtain ⟨now, p⟩ := poll
    obtain ⟨hlast, htotal⟩ := ih (h.tick hfriction now p)
    have htaken := takenAt_eq h hfriction now p
    rw [ticksToRest_tick (h.config_eq ▸ hfriction)] at htotal
    refine ⟨hlast, ?_⟩
    change i.takenAt now p + _ + ((i.tick now p).1.coast later).2.ticksToRest = _
    omega

/-- A pan loses its velocity in as many ticks as the friction fits into the larger component of its first velocity, the
last time in part. A poll takes the ticks that are due, up to that one, and at rest the pan holds nothing. -/
theorem decays_to_rest {config : InertiaConfig Rat} (hvalid : config.fault? = none) :
    (∀ i, Reached config i →
      (i.isActive = true ↔ i.velocity ≠ .zero) ∧ (i.target.isSome = true ↔ i.velocity ≠ .zero) ∧
        (i.velocity = .zero → i.categoryOffset = .zero ∧ i.categoryStarts = [])) ∧
    (∀ i : Inertia Rat, i.config = config → ∀ p,
      Decays config.friction i.velocity.x (i.step p).1.velocity.x ∧
        Decays config.friction i.velocity.y (i.step p).1.velocity.y) ∧
    ∀ i, Reached config i → ∀ now velocity offset starts target,
      let j := i.start now velocity offset starts target
      let k := ⌈max |j.velocity.x| |j.velocity.y| / config.friction⌉₊
      j.velocity = ⟨min (max velocity.x (-config.maxVelocity)) config.maxVelocity,
          min (max velocity.y (-config.maxVelocity)) config.maxVelocity⟩ ∧
        |j.velocity.x| ≤ config.maxVelocity ∧ |j.velocity.y| ≤ config.maxVelocity ∧
        ∀ polls,
          let n := (j.coast polls).1
          let r := (j.coast polls).2
          n ≤ k ∧ (r.isActive = true ↔ n < k) ∧
            ∀ later p, r.takenAt later p = min (r.timer.poll later).1 (k - n) ∧
              r.tick later p = (fun s => s.1.step s.2)^[r.takenAt later p] (r.polled later, p) := by
  obtain ⟨hfriction, hmost⟩ := InertiaConfig.positive_of_valid hvalid
  refine ⟨fun i hi => ?_, fun i hi p => ?_, fun i hi now velocity offset starts target => ?_⟩
  · have h := hi.isCoherent hfriction
    exact ⟨h.active, h.target, h.rest⟩
  · rw [velocity_step, hi]
    exact ⟨decays_decay hfriction.le _, decays_decay hfriction.le _⟩
  · intro j k
    have hconfig := (hi.isCoherent hfriction).config_eq
    have hj : j.IsCoherent config := .start hconfig now velocity offset starts target
    have hk : j.ticksToRest = k := by
      rw [ticksToRest, hj.config_eq]
      rfl
    have hseed : j.velocity = ⟨min (max velocity.x (-config.maxVelocity)) config.maxVelocity,
        min (max velocity.y (-config.maxVelocity)) config.maxVelocity⟩ :=
      hconfig ▸ velocity_start i now velocity offset starts target
    refine ⟨hseed, hseed ▸ abs_limited_le hmost _, hseed ▸ abs_limited_le hmost _, fun polls => ?_⟩
    intro n r
    obtain ⟨hlast, htotal⟩ : r.IsCoherent config ∧ n + r.ticksToRest = j.ticksToRest := coast_spec hj hfriction polls
    rw [hk] at htotal
    refine ⟨by omega, ?_, fun later p => ⟨?_, ?_⟩⟩
    · rw [hlast.active, ne_eq, ← ticksToRest_eq_zero (hlast.config_eq ▸ hfriction)]
      omega
    · rw [takenAt_eq hlast hfriction, ← htotal, Nat.add_sub_cancel_left]
    · rw [tick_eq_steps, steps_eq_iterate]
      rfl

end

/-- A pan at ten pixels a tick, which loses one and a half at each, is at rest after the seventh. -/
theorem decays_to_rest_ten_pixels :
    let j := (atRest (.default : InertiaConfig Rat)).start 0 ⟨10, 0⟩ .zero [] ⟨.xy, .none, .none, true⟩
    (InertiaConfig.default : InertiaConfig Rat).fault? = none ∧ j.velocity = ⟨10, 0⟩ ∧
      ∀ polls, (j.coast polls).1 ≤ 7 ∧ ((j.coast polls).2.isActive = true ↔ (j.coast polls).1 < 7) := by
  intro j
  have hvalid : (InertiaConfig.default : InertiaConfig Rat).fault? = none := by decide +kernel
  have hreached : Reached .default (atRest (.default : InertiaConfig Rat)) := .new (by rw [Inertia.new, hvalid])
  obtain ⟨-, -, hcoasts⟩ := decays_to_rest hvalid
  obtain ⟨hseed, -, -, hrest⟩ := hcoasts _ hreached 0 ⟨10, 0⟩ .zero [] ⟨.xy, .none, .none, true⟩
  have hvelocity : j.velocity = ⟨10, 0⟩ := by
    rw [hseed, Point.mk.injEq]
    decide +kernel
  refine ⟨hvalid, hvelocity, fun polls => ?_⟩
  obtain ⟨hle, hactive, -⟩ := hrest polls
  have hseven : ⌈max |j.velocity.x| |j.velocity.y| / (InertiaConfig.default : InertiaConfig Rat).friction⌉₊ = 7 := by
    rw [hvelocity]
    decide +kernel
  rw [hseven] at hle hactive
  exact ⟨hle, hactive⟩

end Inertia

end ChartGestures
