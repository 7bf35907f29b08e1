import ChartGestures.Number.ExactDecimal
import ChartGestures.Proofs.Gesture.Pans
import ChartGestures.Proofs.Gesture.Pinching

/-!
# Zooms keep the value under their anchor

Over exact numbers, a zoom of an axis with a length and a span multiplies the span by one plus its scale and leaves
the value under the anchor where it is, wherever the anchor lies. The wheel holds its scale to `maxScale` either way.
A pinch holds the spread above minus one, and the scale that magnifies by a spread is one over one plus the spread,
less one. So in a configuration without a fault neither can make a range collapse or turn it over.
-/

namespace ChartGestures

open Scalar

theorem clamp_mem {x lo hi : Rat} (h : lo ≤ hi) : lo ≤ clamp x lo hi ∧ clamp x lo hi ≤ hi := by
  unfold clamp
  split
  · exact ⟨le_rfl, h⟩
  · next hlo =>
    split
    · exact ⟨h, le_rfl⟩
    · next hhi => exact ⟨not_lt.1 hlo, not_lt.1 hhi⟩

namespace ChartAxis

variable [Decimals Rat] {a b : ChartAxis Rat} {anchor : Point Rat} {scale : Rat}

/-- An axis that a zoom can stretch: it has a length, keeps what is written to it as numbers, and shows a span that
growth sees. -/
structure IsZoomable (a : ChartAxis Rat) : Prop where
  direct : a.autoRange ≠ .always
  kind : a.visible.kind.KeepsFractions
  extent : 0 < a.pixelExtent
  span : a.visible.tolerance < a.visible.span

instance (a : ChartAxis Rat) : Decidable a.IsZoomable :=
  decidable_of_iff (a.autoRange ≠ .always ∧ a.visible.kind.KeepsFractions ∧ 0 < a.pixelExtent ∧
    a.visible.tolerance < a.visible.span)
    ⟨fun ⟨direct, kind, extent, span⟩ => ⟨direct, kind, extent, span⟩,
      fun h => ⟨h.direct, h.kind, h.extent, h.span⟩⟩

/-- An axis before and after a zoom around an anchor. -/
structure Zooms (anchor : Point Rat) (scale : Rat) (a b : ChartAxis Rat) : Prop where
  span : b.visibleRange.span = a.visibleRange.span * (1 + scale)
  value : b.scale.valueAt b.visibleRange (b.pixelOffset anchor) = a.scale.valueAt a.visibleRange (a.pixelOffset anchor)
  positive : 0 < b.visibleRange.span

theorem zooms_zoomAt (ha : a.IsZoomable) (hscale : -1 < scale) (anchor : Point Rat) :
    Zooms anchor scale a (a.zoomAt anchor scale).axis := by
  have hfactor : 0 < 1 + scale := by linarith
  obtain ⟨v, hv, -, hspan, hanchor⟩ := zoomAt_shows ha.direct ha.kind ha.extent ha.span hfactor anchor
  rw [hv]
  have hshown : ChartAxis.visibleRange { a with visible := v } = v :=
    visibleRange_direct (a := { a with visible := v }) ha.direct
  rw [← visibleRange_direct ha.direct] at hspan hanchor
  refine ⟨?_, ?_, ?_⟩
  · rw [hshown]
    exact hspan
  · rw [hshown]
    change a.scale.valueAt v (a.pixelOffset anchor) = _
    rw [valueAt_pixelOffset ha.extent, valueAt_pixelOffset ha.extent]
    exact hanchor
  · rw [hshown, hspan, visibleRange_direct ha.direct]
    exact mul_pos (Range.span_pos ha.kind ha.span) hfactor

/-- Leaving an axis alone is a zoom by nothing. -/
theorem zooms_zero (ha : a.IsZoomable) (anchor : Point Rat) : Zooms anchor 0 a a where
  span := by rw [add_zero, mul_one]
  value := rfl
  positive := by
    rw [visibleRange_direct ha.direct]
    exact Range.span_pos ha.kind ha.span

end ChartAxis

open ChartAxis (Zooms)

/-! ### The wheel -/

namespace WheelZoom

variable [Decimals Rat] {a : ChartAxis Rat} {config : WheelZoomConfig Rat}

omit [Decimals Rat] in
theorem neg_one_lt_scaleFor (config : WheelZoomConfig Rat) (notches : Rat) : -1 < scaleFor config notches := by
  have hlimit : (maxScale : Rat) < 1 := by decide +kernel
  have hsign : -(maxScale : Rat) ≤ maxScale := by decide +kernel
  have hbound := (clamp_mem (x := -config.growFactor * notches) hsign).1
  exact lt_of_lt_of_le (neg_lt_neg hlimit) hbound

theorem zooms_turn (ha : a.IsZoomable) (haction : config.action = .zoom) (notches : Rat) (anchor : Point Rat) :
    Zooms anchor (scaleFor config notches) a (turn config notches anchor a).axis := by
  rw [turn_of_zoom haction]
  exact ChartAxis.zooms_zoomAt ha (neg_one_lt_scaleFor config notches) anchor

end WheelZoom

/-! ### A pinch -/

namespace PinchZoom

variable [Decimals Rat] {a : ChartAxis Rat} {config : PinchZoomConfig Rat} {r e : PinchExtent Rat}

omit [Decimals Rat] in
theorem relativeChange_mem (current reference : Rat) {maxStep : Rat} (h : 0 ≤ maxStep) :
    -maxStep ≤ relativeChange current reference maxStep ∧ relativeChange current reference maxStep ≤ maxStep := by
  unfold relativeChange
  split
  · exact ⟨neg_nonpos.2 h, h⟩
  · exact clamp_mem (neg_le_self h)

omit [Decimals Rat] in
theorem neg_one_lt_scaleFor {spread : Rat} (h : 0 < 1 + spread) : -1 < scaleFor spread := by
  have hfactor : 0 < 1 + scaleFor spread := by
    rw [one_add_scaleFor h.ne']
    exact one_div_pos.2 h
  linarith

/-- A flush zooms by at most what the step of the configuration leaves. -/
theorem zooms_pinch (hstep : 0 < config.maxStep ∧ config.maxStep < 1) (ha : a.IsZoomable) (r e : PinchExtent Rat) :
    let delta := e.deltaFrom r config.maxStep
    Zooms e.center (scaleFor (spreadFor config delta a)) a (pinch config delta a).axis ∧
      -1 < scaleFor (spreadFor config delta a) := by
  have hspread := (relativeChange_mem (e.measure config a) (r.measure config a) hstep.1.le).1
  rw [← spreadFor_deltaFrom] at hspread
  have hgrown : 0 < 1 + spreadFor config (e.deltaFrom r config.maxStep) a := by linarith [hstep.2]
  have hscale := neg_one_lt_scaleFor hgrown
  refine ⟨?_, hscale⟩
  unfold pinch
  dsimp only
  split
  · exact ChartAxis.zooms_zoomAt ha hscale e.center
  · next hnone =>
    have hzero : spreadFor config (e.deltaFrom r config.maxStep) a = 0 := by simpa using hnone
    rw [hzero, scaleFor, neg_zero, zero_div]
    exact ChartAxis.zooms_zero ha e.center

variable [Trigonometry Rat]

/-- A controller as it comes to be in use. -/
inductive IsUsed (config : PinchZoomConfig Rat) : PinchZoom Rat → Prop
  | new (id : OwnerId) : IsUsed config (.new id config)
  | touchDown {c : PinchZoom Rat} (h : IsUsed config c) (args : TouchArgs Rat) (p : Pane Rat) :
    IsUsed config (c.touchDown args p).controller
  | touchMove {c : PinchZoom Rat} (h : IsUsed config c) (args : TouchArgs Rat) (p : Pane Rat) :
    IsUsed config (c.touchMove args p).controller
  | touchUp {c : PinchZoom Rat} (h : IsUsed config c) (args : TouchArgs Rat) (p : Pane Rat) :
    IsUsed config (c.touchUp args p).controller
  | tick {c : PinchZoom Rat} (h : IsUsed config c) (now : Nat) (p : Pane Rat) : IsUsed config (c.tick now p).1
  | detached {c : PinchZoom Rat} (h : IsUsed config c) (p : Pane Rat) : IsUsed config (c.detached p).1

/-- What waits for a flush is a change between two extents, held to the step of the configuration. -/
structure IsCapped (config : PinchZoomConfig Rat) (c : PinchZoom Rat) : Prop where
  configured : c.config = config
  pending : ∀ delta, c.pending = some delta → ∃ r e : PinchExtent Rat, delta = e.deltaFrom r config.maxStep

variable {c : PinchZoom Rat}

theorem IsCapped.flush (h : c.IsCapped config) (p : Pane Rat) : (c.flush p).1.IsCapped config := by
  cases hpending : c.pending with
  | none =>
    rw [flush_of_none hpending]
    exact ⟨h.configured, h.pending⟩
  | some delta =>
    rw [flush_of_some hpending]
    exact ⟨h.configured, fun _ hnone => nomatch hnone⟩

theorem IsCapped.touchMove (h : c.IsCapped config) (args : TouchArgs Rat) (p : Pane Rat) :
    (c.touchMove args p).controller.IsCapped config := by
  unfold PinchZoom.touchMove
  dsimp only
  split
  · next reference current _ _ =>
    refine ⟨h.configured, fun delta hdelta => ⟨reference, current, ?_⟩⟩
    rw [← h.configured]
    exact (Option.some_inj.1 hdelta).symm
  · exact ⟨h.configured, h.pending⟩

theorem IsUsed.isCapped (h : c.IsUsed config) : c.IsCapped config := by
  induction h with
  | new id => exact ⟨rfl, fun _ hnone => nomatch hnone⟩
  | touchDown _ args p ih => exact ⟨(ih.flush p).configured, (ih.flush p).pending⟩
  | touchMove _ args p ih => exact ih.touchMove args p
  | touchUp _ args p ih => exact ⟨(ih.flush p).configured, (ih.flush p).pending⟩
  | @tick c _ now p ih =>
    have hpolled : IsCapped config { c with timer := (c.timer.poll now).2 } := ⟨ih.configured, ih.pending⟩
    unfold PinchZoom.tick
    dsimp only
    split
    · exact hpolled.flush p
    · exact hpolled
  | detached _ p ih => exact ⟨ih.configured, fun _ hnone => nomatch hnone⟩

end PinchZoom

/-! ### All settings -/

namespace InteractionConfig

variable {config : InteractionConfig Rat}

theorem maxStep_of_fault? (h : config.fault? = none) :
    0 < config.pinchZoom.maxStep ∧ config.pinchZoom.maxStep < 1 := by
  unfold fault? at h
  split_ifs at h with _ _ _ hstep
  exact hstep

end InteractionConfig

/-- A zoom by more than minus one stretches the span around the value under its anchor, and the wheel and a pinch zoom
by more than that. -/
theorem ChartAxis.IsZoomable.zooms_around_anchor [Decimals Rat] [Trigonometry Rat] {a : ChartAxis Rat}
    {config : InteractionConfig Rat} (ha : a.IsZoomable) (hconfig : config.fault? = none) :
    (∀ anchor scale, -1 < scale → Zooms anchor scale a (a.zoomAt anchor scale).axis) ∧
    (∀ delta,
      let notches := WheelZoom.notches config.wheelZoom delta
      let scale := WheelZoom.scaleFor config.wheelZoom notches
      (config.wheelZoom.action = .zoom → ∀ anchor, Zooms anchor scale a
        (WheelZoom.turn config.wheelZoom notches anchor a).axis) ∧ -1 < scale) ∧
    (∀ r e : PinchExtent Rat,
      let delta := e.deltaFrom r config.pinchZoom.maxStep
      let scale := PinchZoom.scaleFor (PinchZoom.spreadFor config.pinchZoom delta a)
      Zooms e.center scale a (PinchZoom.pinch config.pinchZoom delta a).axis ∧ -1 < scale) ∧
    ∀ (c : PinchZoom Rat) (delta : PinchDelta Rat), c.IsUsed config.pinchZoom → c.pending = some delta →
      c.config = config.pinchZoom ∧ ∃ r e : PinchExtent Rat, delta = e.deltaFrom r config.pinchZoom.maxStep := by
  refine ⟨fun anchor scale hscale => zooms_zoomAt ha hscale anchor, fun delta => ⟨fun haction anchor => ?_, ?_⟩,
    fun r e => ?_, fun c delta hused hpending => ?_⟩
  · exact WheelZoom.zooms_turn ha haction _ anchor
  · exact WheelZoom.neg_one_lt_scaleFor ..
  · exact PinchZoom.zooms_pinch (InteractionConfig.maxStep_of_fault? hconfig) ha r e
  · exact ⟨hused.isCapped.configured, hused.isCapped.pending delta hpending⟩

/-- Two notches forward, turned beyond the top of a flipped vertical axis of categories that shows fractions of them. -/
theorem ChartAxis.IsZoomable.zooms_around_anchor_outside :
    let a : ChartAxis Rat :=
      { ChartAxis.new "y" false (.index (.ofPrecise 2.5 7.25)) with flip := true, bounds := ⟨0, 0, 400, 300⟩ }
    let b := (WheelZoom.turn .default (WheelZoom.notches .default 240) ⟨10, -60⟩ a).axis
    (a.IsZoomable ∧ (InteractionConfig.default : InteractionConfig Rat).fault? = none) ∧
      a.visibleRange.span = 4.75 ∧ b.visibleRange.span = 4.75 * 0.8 ∧
      b.scale.valueAt b.visibleRange (b.pixelOffset ⟨10, -60⟩) = 1.55 := by
  intro a b
  let roots : Trigonometry Rat := ⟨fun x y => Rat.sqrt (x * x + y * y), fun _ _ => 0, fun _ => 0, fun _ => 0⟩
  have ha : a.IsZoomable := by decide +kernel
  have hconfig : (InteractionConfig.default : InteractionConfig Rat).fault? = none := by decide +kernel
  have hspan : a.visibleRange.span = 4.75 := by decide +kernel
  have hvalue : a.scale.valueAt a.visibleRange (a.pixelOffset ⟨10, -60⟩) = 1.55 := by decide +kernel
  have hscale : 1 + WheelZoom.scaleFor .default (WheelZoom.notches .default 240) = (0.8 : Rat) := by decide +kernel
  obtain ⟨-, hwheel, -⟩ := zooms_around_anchor ha hconfig
  have hzooms := (hwheel 240).1 rfl ⟨10, -60⟩
  refine ⟨⟨ha, hconfig⟩, hspan, ?_, hzooms.value.trans hvalue⟩
  rw [← hspan, ← hscale]
  exact hzooms.span

end ChartGestures
