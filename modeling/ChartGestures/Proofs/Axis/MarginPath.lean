import ChartGestures.Axis.ChartAxis
import ChartGestures.Number.ExactDecimal
import ChartGestures.Proofs.Range.Exact
import Mathlib.Tactic.FieldSimp
import Mathlib.Tactic.Ring

/-!
# The margin path

An axis that always follows its data keeps what is written to it as a margin. Here such an axis runs beside one that
keeps the visible range itself, over exact numbers. The two stay `InStep` while the range shown has a width: the margin
is the one that leads from the data to that range. The margin of a range of no width has lost the data range, so from
then on the axis is `Stuck` and every further write is ignored, though the data has a width.

Data whose width is within the tolerance of a point grows by fractions of its bounds instead. The margin of a range then
leads to that range only where it `Regrows`.
-/

namespace ChartGestures

open Scalar

inductive AxisCall (α : Type) [Scalar α] [Decimals α] where
  | setVisible (r : Range α)
  | applyRange (r : Range α)
  | zoomBy (minFraction maxFraction : α)
  | scroll (pixels : α) (mode : ClipMode)
  | zoomToExtents (nanos : Nat)

section

variable [Decimals Rat]

/-- A range given to the call has its bounds in order. -/
def AxisCall.InOrder : AxisCall Rat → Prop
  | setVisible r | applyRange r => r.preciseBounds.1 ≤ r.preciseBounds.2
  | zoomBy _ _ | scroll _ _ | zoomToExtents _ => True

instance : (c : AxisCall Rat) → Decidable c.InOrder
  | .setVisible r | .applyRange r => inferInstanceAs (Decidable (r.preciseBounds.1 ≤ r.preciseBounds.2))
  | .zoomBy _ _ | .scroll _ _ | .zoomToExtents _ => inferInstanceAs (Decidable True)

end

namespace ChartAxis

section Calls

variable {α : Type} [Scalar α] [Decimals α]

def call (a : ChartAxis α) : AxisCall α → AxisWrite α
  | .setVisible r => a.setVisible r
  | .applyRange r => a.applyRange r
  | .zoomBy minFraction maxFraction => a.zoomBy minFraction maxFraction
  | .scroll pixels mode => a.scroll pixels mode
  | .zoomToExtents nanos => a.zoomToExtents nanos

def run (a : ChartAxis α) (calls : List (AxisCall α)) : ChartAxis α := calls.foldl (fun a c => (a.call c).axis) a

/-- The range that a call writes, if it writes any. -/
def target? (a : ChartAxis α) : AxisCall α → Option (Range α)
  | .setVisible r | .applyRange r => some r
  | .zoomBy minFraction maxFraction => some (a.visibleRange.growBy minFraction maxFraction)
  | .scroll pixels mode => some ((a.scale.scroll a.visibleRange pixels).clipPanned a.data mode)
  | .zoomToExtents _ => if a.data.isDefined then some a.data else none

/-- The range that the axis shows after the first `k` calls. -/
def shownAfter (a : ChartAxis α) (calls : List (AxisCall α)) (k : Nat) : Range α := (a.run (calls.take k)).visibleRange

theorem shownAfter_zero (a : ChartAxis α) (calls : List (AxisCall α)) : a.shownAfter calls 0 = a.visibleRange := rfl

theorem shownAfter_nil (a : ChartAxis α) : a.shownAfter [] = fun _ => a.visibleRange := by
  funext k
  rw [shownAfter, List.take_nil]
  rfl

theorem shownAfter_cons (a : ChartAxis α) (c : AxisCall α) (calls : List (AxisCall α)) (k : Nat) :
    a.shownAfter (c :: calls) (k + 1) = (a.call c).axis.shownAfter calls k := rfl

end Calls

/-! ### The margin that shows a range -/

/-- The margin that grows the data into the visible bounds. -/
def marginTo (data visible : Interval (Domain.double (α := Rat))) : GrowMargin Rat :=
  ⟨(data.min - visible.min) / (data.max - data.min), (visible.max - data.max) / (data.max - data.min)⟩

variable {d v : Interval (Domain.double (α := Rat))}

section

variable [Decimals Rat]

/-- The margin from the data to the range grows the data into that range again. -/
def Regrows (data : Interval (Domain.double (α := Rat))) (r : Range Rat) : Prop :=
  let margin := marginTo data ⟨r.preciseBounds.1, r.preciseBounds.2⟩
  (Range.double data).growBy margin.min margin.max = r

theorem regrows_of_width (hspan : d.min < d.max) (hwidth : (Range.double d).isZero = false) (hv : v.min ≤ v.max) :
    Regrows d (.double v) := by
  have hspan' : d.max - d.min ≠ 0 := (sub_pos.2 hspan).ne'
  change (Range.double d).growBy (marginTo d v).min (marginTo d v).max = .double v
  rw [Range.growBy_of_width hwidth, marginTo, div_mul_cancel₀ _ hspan', div_mul_cancel₀ _ hspan', sub_sub_cancel,
    add_sub_cancel]
  exact Range.between_of_le hv

omit [Decimals Rat] in
theorem scale_marginTo (hspan : d.min < d.max) :
    1 + (marginTo d v).min + (marginTo d v).max = (v.max - v.min) / (d.max - d.min) := by
  have hspan' : d.max - d.min ≠ 0 := (sub_pos.2 hspan).ne'
  rw [marginTo]
  field_simp
  ring

theorem dataBounds?_marginTo (hspan : d.min < d.max) (hv : v.min ≠ v.max) :
    (marginTo d v).dataBounds? (.double v) = some (d.min, d.max) := by
  have hspan' : d.max - d.min ≠ 0 := (sub_pos.2 hspan).ne'
  have hv' : v.max - v.min ≠ 0 := sub_ne_zero.2 hv.symm
  have hscale : (v.max - v.min) / (d.max - d.min) ≠ 0 := div_ne_zero hv' hspan'
  have hdiff : (v.max - v.min) / ((v.max - v.min) / (d.max - d.min)) = d.max - d.min := div_div_cancel₀ hv'
  simp only [GrowMargin.dataBounds?, scale_marginTo hspan]
  rw [if_neg (by simpa [isFinite, toRat?] using hscale)]
  change some (v.min + (marginTo d v).min * ((v.max - v.min) / ((v.max - v.min) / (d.max - d.min))),
    v.max - (marginTo d v).max * ((v.max - v.min) / ((v.max - v.min) / (d.max - d.min)))) = _
  rw [hdiff, marginTo, div_mul_cancel₀ _ hspan', div_mul_cancel₀ _ hspan', add_sub_cancel, sub_sub_cancel]

theorem toShow?_marginTo (hspan : d.min < d.max) (hv : v.min ≠ v.max) (r : Range Rat) :
    (marginTo d v).toShow? (.double v) r = some (marginTo d ⟨r.preciseBounds.1, r.preciseBounds.2⟩) := by
  have hspan' : d.max - d.min ≠ 0 := (sub_pos.2 hspan).ne'
  rw [GrowMargin.toShow?, dataBounds?_marginTo hspan hv]
  change (if (d.max - d.min == 0 || !isFinite (d.max - d.min)) = true then none else _) = _
  rw [if_neg (by simpa [isFinite, toRat?] using hspan')]
  rfl

/-- Nothing can be told about the data from a range of no width. -/
theorem toShow?_eq_none (hspan : d.min < d.max) (hv : v.min = v.max) (visible r : Range Rat) :
    (marginTo d v).toShow? visible r = none := by
  have hscale : 1 + (marginTo d v).min + (marginTo d v).max = 0 := by
    rw [scale_marginTo hspan, hv, sub_self, zero_div]
  have hnone : (marginTo d v).dataBounds? visible = none := by
    rw [GrowMargin.dataBounds?, hscale]
    rfl
  rw [GrowMargin.toShow?, hnone]
  rfl

/-! ### What a call writes -/

theorem toShow?_congr {margin : GrowMargin Rat} {visible r s : Range Rat} (h : r.preciseBounds = s.preciseBounds) :
    margin.toShow? visible r = margin.toShow? visible s := by
  rw [GrowMargin.toShow?, h, GrowMargin.toShow?]

variable {a : ChartAxis Rat} {c : AxisCall Rat} {r : Range Rat}

theorem target?_ordered (hdata : a.data.IsOrdered) (hvisible : a.visibleRange.IsOrdered) (hc : c.InOrder)
    (h : a.target? c = some r) : r.preciseBounds.1 ≤ r.preciseBounds.2 := by
  cases c with
  | setVisible s =>
    obtain rfl := Option.some.inj h
    exact hc
  | applyRange s =>
    obtain rfl := Option.some.inj h
    exact hc
  | zoomBy minFraction maxFraction =>
    obtain rfl := Option.some.inj h
    exact (hvisible.growBy minFraction maxFraction).eq_between.1
  | scroll pixels mode =>
    obtain rfl := Option.some.inj h
    have hscrolled : (a.scale.scroll a.visibleRange pixels).IsOrdered := by
      rw [PixelScale.scroll]
      split
      · exact hvisible
      · exact hvisible.translate _
    exact (hscrolled.clipPanned hdata mode).eq_between.1
  | zoomToExtents nanos =>
    rw [target?] at h
    split at h
    · obtain rfl := Option.some.inj h
      exact hdata.eq_between.1
    · cases h

theorem applyRange_always (h : a.autoRange = .always) (r : Range Rat) :
    (a.applyRange r).axis = { a with margin := (a.margin.toShow? a.visibleRange r).getD a.margin } := by
  rw [applyRange, if_pos h]
  cases a.margin.toShow? a.visibleRange r with
  | none => rfl
  | some margin => rfl

theorem setVisible_always (h : a.autoRange = .always) (hkind : a.visible.kind = .double)
    (hr : r.preciseBounds.1 ≤ r.preciseBounds.2) : (a.setVisible r).axis = (a.applyRange r).axis := by
  have hbounds : (r.convert .double).preciseBounds = r.preciseBounds := by
    rw [Range.convert_double hr, Range.preciseBounds_between hr]
  rw [applyRange_always h, setVisible, hkind, if_pos h, toShow?_congr hbounds]
  cases a.margin.toShow? a.visibleRange r with
  | none => rfl
  | some margin => rfl

theorem setVisible_never (h : a.autoRange = .never) (hvisible : a.visible.IsOrdered)
    (hr : r.preciseBounds.1 ≤ r.preciseBounds.2) :
    (a.setVisible r).axis = { a with visible := .between r.preciseBounds.1 r.preciseBounds.2 } := by
  obtain ⟨lo, hi, -, heq⟩ := hvisible
  have hkind : a.visible.kind = .double := by rw [heq]; rfl
  have hnever : a.autoRange ≠ .always := by rw [h]; decide
  rw [setVisible, hkind, if_neg hnever, Range.convert_double hr]
  split
  · next hsame =>
    rw [heq] at hsame
    have hsame : Range.between r.preciseBounds.1 r.preciseBounds.2 = a.visible :=
      (Range.eq_of_beq_double hsame).trans heq.symm
    rw [hsame]
    rfl
  · rfl

theorem applyRange_never (h : a.autoRange = .never) (r : Range Rat) : a.applyRange r = a.setVisible r := by
  rw [applyRange, if_neg (by rw [h]; decide)]

/-- A call writes its target, or does nothing. -/
theorem call_cases (h : a.target? c = some r) :
    a.call c = a.applyRange r ∨ ∃ animation, a.call c = { a with lastAnimation := animation }.setVisible r := by
  cases c with
  | setVisible s =>
    obtain rfl := Option.some.inj h
    exact .inr ⟨a.lastAnimation, rfl⟩
  | applyRange s =>
    obtain rfl := Option.some.inj h
    exact .inl rfl
  | zoomBy minFraction maxFraction =>
    obtain rfl := Option.some.inj h
    exact .inl rfl
  | scroll pixels mode =>
    obtain rfl := Option.some.inj h
    exact .inl rfl
  | zoomToExtents nanos =>
    rw [target?] at h
    split at h
    · next hdefined =>
      obtain rfl := Option.some.inj h
      rw [call, zoomToExtents, if_pos hdefined, animateTo]
      split
      · exact .inr ⟨a.lastAnimation, rfl⟩
      · exact .inr ⟨some (a.data, nanos), rfl⟩
    · cases h

theorem call_of_target?_eq_none (h : a.target? c = none) : (a.call c).axis = a := by
  cases c with
  | zoomToExtents nanos =>
    rw [target?] at h
    split at h
    · cases h
    · next hundefined => rw [call, zoomToExtents, if_neg hundefined, unchanged]
  | _ => cases h

theorem call_always (h : a.autoRange = .always) (hkind : a.visible.kind = .double)
    (hr : r.preciseBounds.1 ≤ r.preciseBounds.2) (ht : a.target? c = some r) :
    ∃ animation, (a.call c).axis =
      { a with margin := (a.margin.toShow? a.visibleRange r).getD a.margin, lastAnimation := animation } := by
  rcases call_cases ht with heq | ⟨animation, heq⟩
  · exact ⟨a.lastAnimation, by rw [heq, applyRange_always h]⟩
  · refine ⟨animation, ?_⟩
    rw [heq, setVisible_always (a := { a with lastAnimation := animation }) h hkind hr]
    exact applyRange_always (a := { a with lastAnimation := animation }) h r

theorem call_never (h : a.autoRange = .never) (hvisible : a.visible.IsOrdered)
    (hr : r.preciseBounds.1 ≤ r.preciseBounds.2) (ht : a.target? c = some r) :
    ∃ animation, (a.call c).axis =
      { a with visible := .between r.preciseBounds.1 r.preciseBounds.2, lastAnimation := animation } := by
  rcases call_cases ht with heq | ⟨animation, heq⟩
  · refine ⟨a.lastAnimation, ?_⟩
    rw [heq, applyRange_never h, setVisible_never h hvisible hr]
  · refine ⟨animation, ?_⟩
    rw [heq]
    exact setVisible_never (a := { a with lastAnimation := animation }) h hvisible hr

/-! ### Side by side -/

/-- Two axes over the data `d`, one always following it and one keeping its visible range. -/
structure Paired (d : Interval (Domain.double (α := Rat))) (follower direct : ChartAxis Rat) : Prop where
  follows : follower.autoRange = .always
  keeps : direct.autoRange = .never
  followerData : follower.data = .double d
  directData : direct.data = .double d
  scale : follower.scale = direct.scale
  kind : follower.visible.kind = .double
  visible : direct.visible.IsOrdered

/-- Both show `v`, the follower by way of its margin. -/
structure InStep (d v : Interval (Domain.double (α := Rat))) (follower direct : ChartAxis Rat) : Prop
    extends Paired d follower direct where
  shown : direct.visible = .double v
  margin : follower.margin = marginTo d v

/-- The follower shows `v`, which has no width. -/
structure Stuck (d v : Interval (Domain.double (α := Rat))) (follower : ChartAxis Rat) : Prop where
  follows : follower.autoRange = .always
  data : follower.data = .double d
  kind : follower.visible.kind = .double
  margin : follower.margin = marginTo d v

variable {follower direct : ChartAxis Rat}

theorem visibleRange_always (h : a.autoRange = .always) : a.visibleRange = a.data.growBy a.margin.min a.margin.max := by
  rw [visibleRange, if_pos h]

theorem visibleRange_never (h : a.autoRange = .never) : a.visibleRange = a.visible := by
  rw [visibleRange, if_neg (by rw [h]; decide)]

theorem Paired.target?_eq (h : Paired d follower direct) (hsame : follower.visibleRange = direct.visibleRange)
    (c : AxisCall Rat) : follower.target? c = direct.target? c := by
  cases c with
  | setVisible r => rfl
  | applyRange r => rfl
  | zoomBy minFraction maxFraction => rw [target?, hsame, target?]
  | scroll pixels mode => rw [target?, hsame, h.scale, h.followerData, target?, h.directData]
  | zoomToExtents nanos => rw [target?, h.followerData, target?, h.directData]

theorem InStep.visibleRange_eq (h : InStep d v follower direct) : direct.visibleRange = .double v := by
  rw [visibleRange_never h.keeps, h.shown]

theorem InStep.same_iff (h : InStep d v follower direct) :
    follower.visibleRange = direct.visibleRange ↔ Regrows d direct.visibleRange := by
  rw [visibleRange_always h.follows, h.followerData, h.margin, h.visibleRange_eq]
  rfl

theorem InStep.same (hspan : d.min < d.max) (h : InStep d v follower direct)
    (hregrows : (Range.double d).isZero = true → Regrows d direct.visibleRange) :
    follower.visibleRange = direct.visibleRange := by
  rw [h.same_iff]
  cases hwidth : (Range.double d).isZero with
  | true => exact hregrows hwidth
  | false =>
    obtain ⟨lo, hi, hle, heq⟩ := h.visible
    rw [visibleRange_never h.keeps, heq]
    exact regrows_of_width hspan hwidth hle

/-- While the range that both show has a width, a call brings both axes to the same next range. -/
theorem InStep.call (hspan : d.min < d.max) (h : InStep d v follower direct)
    (hsame : follower.visibleRange = direct.visibleRange) (hv : v.min ≠ v.max) (hc : c.InOrder) :
    ∃ v', InStep d v' (follower.call c).axis (direct.call c).axis := by
  have htarget := h.target?_eq hsame c
  cases ht : direct.target? c with
  | none =>
    rw [call_of_target?_eq_none ht, call_of_target?_eq_none (htarget.trans ht)]
    exact ⟨v, h⟩
  | some r =>
    have hdata : direct.data.IsOrdered := ⟨d.min, d.max, hspan.le, h.directData⟩
    have hr : r.preciseBounds.1 ≤ r.preciseBounds.2 :=
      target?_ordered hdata (by rw [visibleRange_never h.keeps]; exact h.visible) hc ht
    obtain ⟨_, hcall⟩ := call_always h.follows h.kind hr (htarget.trans ht)
    obtain ⟨_, hcall'⟩ := call_never h.keeps h.visible hr ht
    refine ⟨⟨r.preciseBounds.1, r.preciseBounds.2⟩, ?_⟩
    -- The follower's range and margin give its data back, so its next margin leads from the data to the target.
    rw [hcall, hcall', hsame, h.visibleRange_eq, h.margin, toShow?_marginTo hspan hv]
    exact ⟨⟨h.follows, h.keeps, h.followerData, h.directData, h.scale, h.kind, Range.isOrdered_between _ _⟩,
      Range.between_of_le hr, rfl⟩

theorem InStep.stuck (h : InStep d v follower direct) : Stuck d v follower :=
  ⟨h.follows, h.followerData, h.kind, h.margin⟩

theorem Stuck.visibleRange_eq (h : Stuck d v follower) :
    follower.visibleRange = (Range.double d).growBy (marginTo d v).min (marginTo d v).max := by
  rw [visibleRange_always h.follows, h.data, h.margin]

/-- No call moves an axis whose margin has lost the data. -/
theorem Stuck.call (hspan : d.min < d.max) (h : Stuck d v follower) (hv : v.min = v.max) (hc : c.InOrder) :
    Stuck d v (follower.call c).axis := by
  have hd : (Range.double d).IsOrdered := ⟨d.min, d.max, hspan.le, rfl⟩
  cases ht : follower.target? c with
  | none =>
    rw [call_of_target?_eq_none ht]
    exact h
  | some r =>
    have hdata : follower.data.IsOrdered := h.data ▸ hd
    have hvisible : follower.visibleRange.IsOrdered := h.visibleRange_eq ▸ hd.growBy _ _
    obtain ⟨_, hcall⟩ := call_always h.follows h.kind (target?_ordered hdata hvisible hc ht) ht
    rw [hcall, h.margin, toShow?_eq_none hspan hv]
    exact ⟨h.follows, h.data, h.kind, rfl⟩

/-! ### Runs -/

variable {calls : List (AxisCall Rat)}

theorem Stuck.shownAfter (hspan : d.min < d.max) (h : Stuck d v follower) (hv : v.min = v.max)
    (hcalls : ∀ c ∈ calls, c.InOrder) (k : Nat) : follower.shownAfter calls k = follower.visibleRange := by
  induction calls generalizing follower k with
  | nil => rw [shownAfter_nil]
  | cons c calls ih =>
    rw [List.forall_mem_cons] at hcalls
    have hcall := h.call hspan hv hcalls.1
    cases k with
    | zero => rfl
    | succ k => rw [shownAfter_cons, ih hcall hcalls.2, hcall.visibleRange_eq, h.visibleRange_eq]

/-- The direct axis stays at the first range of no width, and shows only what the data regrows to. -/
structure Keeps (d : Interval (Domain.double (α := Rat))) (shown : Nat → Range Rat) : Prop where
  regrows : (Range.double d).isZero = true → ∀ k, Regrows d (shown k)
  stays : ∀ j k, j ≤ k → (shown j).HasNoWidth → shown k = shown j

theorem InStep.shownAfter_iff_of_noWidth (hspan : d.min < d.max) (h : InStep d v follower direct) (hv : v.min = v.max)
    (hcalls : ∀ c ∈ calls, c.InOrder) :
    (∀ k, follower.shownAfter calls k = direct.shownAfter calls k) ↔ Keeps d (direct.shownAfter calls) := by
  have hstays := h.stuck.shownAfter hspan hv hcalls
  constructor
  · intro hall
    have hdirect (k : Nat) : direct.shownAfter calls k = direct.visibleRange :=
      calc direct.shownAfter calls k = follower.shownAfter calls k := (hall k).symm
        _ = follower.visibleRange := hstays k
        _ = direct.visibleRange := hall 0
    refine ⟨fun _ k => ?_, fun j k _ _ => by rw [hdirect, hdirect]⟩
    rw [hdirect]
    exact h.same_iff.1 (hall 0)
  · intro hkeeps k
    have hno : (direct.shownAfter calls 0).HasNoWidth := by
      rw [shownAfter_zero, h.visibleRange_eq]
      exact hv
    rw [hstays, hkeeps.stays 0 k (Nat.zero_le k) hno]
    exact h.same hspan fun hzero => hkeeps.regrows hzero 0

theorem InStep.shownAfter_iff (hspan : d.min < d.max) (h : InStep d v follower direct)
    (hcalls : ∀ c ∈ calls, c.InOrder) :
    (∀ k, follower.shownAfter calls k = direct.shownAfter calls k) ↔ Keeps d (direct.shownAfter calls) := by
  induction calls generalizing v follower direct with
  | nil =>
    rw [shownAfter_nil, shownAfter_nil]
    exact ⟨fun hall => ⟨fun _ _ => h.same_iff.1 (hall 0), fun _ _ _ _ => rfl⟩,
      fun hkeeps _ => h.same hspan fun hzero => hkeeps.regrows hzero 0⟩
  | cons c calls ih =>
    -- Once a range of no width is shown the follower is stuck, whatever is left of the run.
    by_cases hv : v.min = v.max
    · exact h.shownAfter_iff_of_noWidth hspan hv hcalls
    rw [List.forall_mem_cons] at hcalls
    constructor
    · intro hall
      obtain ⟨v', h'⟩ := h.call hspan (hall 0) hv hcalls.1
      have hlater := (ih h' hcalls.2).1 fun k => hall (k + 1)
      refine ⟨fun hzero k => ?_, fun j k hjk hno => ?_⟩
      · cases k with
        | zero => exact h.same_iff.1 (hall 0)
        | succ k => exact hlater.regrows hzero k
      · cases j with
        | zero =>
          rw [shownAfter_zero, h.visibleRange_eq] at hno
          exact absurd hno hv
        | succ j =>
          cases k with
          | zero => exact absurd hjk (Nat.not_succ_le_zero j)
          | succ k => exact hlater.stays j k (Nat.le_of_succ_le_succ hjk) hno
    · intro hkeeps
      have hsame := h.same hspan fun hzero => hkeeps.regrows hzero 0
      obtain ⟨v', h'⟩ := h.call hspan hsame hv hcalls.1
      have hlater := (ih h' hcalls.2).2 ⟨fun hzero k => hkeeps.regrows hzero (k + 1),
        fun j k hjk => hkeeps.stays (j + 1) (k + 1) (Nat.succ_le_succ hjk)⟩
      intro k
      cases k with
      | zero => exact hsame
      | succ k => exact hlater k

theorem InStep.start (hauto : a.autoRange = .never) (hdata : a.data = .double d) (hvisible : a.visible = a.data)
    (hspan : d.min < d.max) : InStep d d { a with autoRange := .always, margin := .zero } a := by
  have hordered : a.visible.IsOrdered := ⟨d.min, d.max, hspan.le, hvisible.trans hdata⟩
  refine ⟨⟨rfl, hauto, hdata, hdata, rfl, ?_, hordered⟩, hvisible.trans hdata, ?_⟩
  · change a.visible.kind = .double
    rw [hvisible, hdata]
    rfl
  · rw [marginTo, sub_self, sub_self, zero_div]
    rfl

/-- The axis that follows its data shows what the direct axis shows after every call, exactly when the direct axis keeps
showing a range of no width once it shows one and, over data that counts as a point, only shows what the data regrows
to. -/
theorem margin_path_eq_direct_path_iff (hauto : a.autoRange = .never) (hdata : a.data = .double d)
    (hvisible : a.visible = a.data) (hspan : d.min < d.max) (hcalls : ∀ c ∈ calls, c.InOrder) :
    let follower : ChartAxis Rat := { a with autoRange := .always, margin := .zero }
    (∀ k, follower.shownAfter calls k = a.shownAfter calls k) ↔
      (a.data.isZero = true → ∀ k, Regrows d (a.shownAfter calls k)) ∧
        ∀ j k, j ≤ k → (a.shownAfter calls j).HasNoWidth → a.shownAfter calls k = a.shownAfter calls j := by
  intro follower
  have hstart : InStep d d follower a := .start hauto hdata hvisible hspan
  rw [hstart.shownAfter_iff hspan hcalls, hdata]
  exact ⟨fun h => ⟨h.regrows, h.stays⟩, fun h => ⟨h.1, h.2⟩⟩

end

theorem margin_path_eq_direct_path_zoomed :
    let a : ChartAxis Rat := { (new "x" true (.double (.new 0 10))) with bounds := ⟨0, 0, 100, 20⟩ }
    let follower : ChartAxis Rat := { a with autoRange := .always, margin := .zero }
    let calls : List (AxisCall Rat) :=
      [.zoomBy (-1 / 4) (-1 / 4), .scroll 90 .clipAtExtents, .applyRange (.index (.ofPrecise (1 / 2) 3)), .zoomToExtents 0]
    (a.shownAfter calls 2).preciseBounds = (0, 5) ∧ ∀ k, follower.shownAfter calls k = a.shownAfter calls k := by
  intro a follower calls
  have hwidths : ∀ j, ¬ (a.shownAfter calls j).HasNoWidth := by
    intro j
    rcases j with _ | _ | _ | _ | j
    · decide +kernel
    · decide +kernel
    · decide +kernel
    · decide +kernel
    · rw [shownAfter, show calls.take (j + 4) = calls from List.take_of_length_le (Nat.le_add_left 4 j)]
      decide +kernel
  have hspan : (Interval.new 0 10 : Interval (Domain.double (α := Rat))).min < (10 : Rat) := by decide +kernel
  have hcalls : ∀ c ∈ calls, c.InOrder := by decide +kernel
  have hiff := margin_path_eq_direct_path_iff (a := a) rfl rfl rfl hspan hcalls
  exact ⟨by decide +kernel, hiff.2 ⟨fun hzero => absurd hzero (by decide +kernel),
    fun j k hjk hno => absurd hno (hwidths j)⟩⟩

/-- Once `[5, 5]` is shown over the data `[0, 10]`, the axis that follows its data ignores a write of `[2.5, 5]`. -/
theorem margin_path_sticks :
    let a : ChartAxis Rat := new "x" true (.double (.new 0 10))
    let follower : ChartAxis Rat := { a with autoRange := .always, margin := .zero }
    let calls : List (AxisCall Rat) := [.setVisible (.double (.new 5 5)), .setVisible (.double (.new (5 / 2) 5))]
    (follower.shownAfter calls 2).preciseBounds = (5, 5) ∧ (a.shownAfter calls 2).preciseBounds = (5 / 2, 5) ∧
      follower.shownAfter calls 2 ≠ a.shownAfter calls 2 := by
  intro a follower calls
  have hfollower : (follower.shownAfter calls 2).preciseBounds = (5, 5) := by decide +kernel
  have hdirect : (a.shownAfter calls 2).preciseBounds = (5 / 2, 5) := by decide +kernel
  refine ⟨hfollower, hdirect, fun heq => ?_⟩
  rw [heq, hdirect] at hfollower
  exact absurd hfollower (by decide +kernel)

end ChartAxis

end ChartGestures
