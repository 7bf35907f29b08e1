import ChartGestures.Number.ExactDecimal
import ChartGestures.Proofs.Gesture.PanChannels
import Mathlib.Tactic.FieldSimp

/-!
# Panned content sticks to the pointer

Over exact numbers a scroll by some pixels takes the value under a pixel to the pixel that many further on. So through a
drag the value under the pointer at the press stays under the pointer. What every move keeps is `Pins`: the range shows
that value under a point, the axis itself under the last point of the drag, and the start of a category axis under the
point where the drag started. A drag that starts anew from the last point keeps it as well, whatever the watch has seen.
-/

namespace ChartGestures

open Scalar

/-! ### One axis -/

namespace PixelScale

variable [Decimals Rat] {s : PixelScale Rat} {r v : Range Rat}

/-- What was under a pixel is under the pixel that the scroll takes it to. -/
theorem valueAt_scroll (hextent : 0 < s.extent) (hkind : r.kind.KeepsFractions) (hr : r.InOrder) {pixels : Rat}
    (hv : v.preciseBounds = (s.scroll r pixels).preciseBounds) (pixel : Rat) :
    s.valueAt v (pixel + pixels) = s.valueAt r pixel := by
  have hlength : s.extent ≠ 0 := hextent.ne'
  rw [preciseBounds_scroll hkind hr] at hv
  simp only [valueAt, hv, shift, valueOffset, not_isDegenerate hextent, Bool.false_eq_true, if_false]
  cases s.increasing with
  | true =>
    simp only [if_true]
    field_simp
    ring
  | false =>
    simp only [Bool.false_eq_true, if_false]
    field_simp
    ring

end PixelScale

namespace ChartAxis

variable [Decimals Rat] {a : ChartAxis Rat} {r : Range Rat} {value span : Rat}

theorem pixelOffset_add (a : ChartAxis Rat) (p q : Point Rat) :
    a.pixelOffset q = a.pixelOffset p + a.pixelComponent (q - p) := by
  rw [pixelComponent_sub]
  unfold pixelOffset pixelComponent
  split <;> ring

/-- The range, on the axis, has a value under a point, and a span. -/
structure Pins (a : ChartAxis Rat) (r : Range Rat) (point : Point Rat) (value span : Rat) : Prop where
  kind : r.kind.KeepsFractions
  inOrder : r.InOrder
  value : a.scale.valueAt r (a.pixelOffset point) = value
  span : r.span = span

/-- Only where the axis lies matters, not what it shows. -/
theorem Pins.withVisible {point : Point Rat} (h : a.Pins r point value span) (v : Range Rat) :
    ({ a with visible := v } : ChartAxis Rat).Pins r point value span :=
  ⟨h.kind, h.inOrder, h.value, h.span⟩

/-- A pan from one point to another takes the value along. -/
theorem Pins.panFrom {start : Point Rat} (h : a.Pins r start value span) (hextent : 0 < a.pixelExtent)
    (hdirect : a.autoRange ≠ .always) (hkind : a.visible.kind.KeepsFractions) (point : Point Rat) :
    ∃ v, (a.panFrom r (a.pixelComponent (point - start)) .none).axis = { a with visible := v } ∧
      v.kind = a.visible.kind ∧ a.Pins v point value span := by
  obtain ⟨v, hv, hvkind, hbounds⟩ := panFrom_shows hdirect hkind h.kind h.inOrder (a.pixelComponent (point - start))
  refine ⟨v, hv, hvkind, hvkind ▸ hkind, ?_, ?_, ?_⟩
  · rw [Range.InOrder, hbounds]
    exact PixelScale.inOrder_scroll h.kind h.inOrder _
  · rw [a.pixelOffset_add start point, PixelScale.valueAt_scroll hextent h.kind h.inOrder hbounds]
    exact h.value
  · rw [Range.span, hbounds, PixelScale.preciseBounds_scroll h.kind h.inOrder, add_sub_add_right_eq_sub]
    exact h.span

end ChartAxis

/-! ### An axis of a pane under a drag -/

/-- An axis that a drag moves freely: it has a length, and keeps what is written to it as numbers. -/
structure ChartAxis.IsFree [Decimals Rat] (a : ChartAxis Rat) : Prop where
  extent : 0 < a.pixelExtent
  direct : a.autoRange ≠ .always
  kind : a.visible.kind.KeepsFractions

/-- The axis shows the value under the last point, and so does its start, if it is to be panned from there, under the
point where the drag started. -/
structure PanSession.Holds [Decimals Rat] (s : PanSession Rat) (a : ChartAxis Rat) (value span : Rat) : Prop where
  shown : a.Pins a.visible s.lastPoint value span
  start : a.category = true → ∃ r, s.categoryStarts.lookup a.id = some r ∧ a.Pins r s.startPoint value span

namespace PanTarget

variable [Decimals Rat] {a : ChartAxis Rat} {s : PanSession Rat} {value span : Rat}

/-- Either channel takes the value under the last point to the next. -/
theorem panAxis_pins (h : s.Holds a value span) (ha : a.IsFree) (point : Point Rat) :
    ∃ v, (panAxis s.categoryStarts (point - s.lastPoint) (point - s.startPoint) a.id .none a).axis =
        { a with visible := v } ∧
      v.kind = a.visible.kind ∧ a.Pins v point value span := by
  by_cases hcategory : a.category = true
  · obtain ⟨r, hlookup, hpins⟩ := h.start hcategory
    have hchannel : panAxis s.categoryStarts (point - s.lastPoint) (point - s.startPoint) a.id .none a =
        a.panFrom r (a.pixelComponent (point - s.startPoint)) .none := by
      rw [panAxis, hlookup, Option.filter_some, if_pos hcategory]
    rw [hchannel]
    exact hpins.panFrom ha.extent ha.direct ha.kind point
  · have hnone : (s.categoryStarts.lookup a.id).filter (fun _ => a.category) = none := by simp [hcategory]
    simp only [panAxis, hnone]
    split
    · rw [ChartAxis.scroll, ChartAxis.visibleRange_direct ha.direct]
      exact h.shown.panFrom ha.extent ha.direct ha.kind point
    · next hzero =>
      have hstill : a.pixelComponent (point - s.lastPoint) = 0 := by simpa using hzero
      have hoffset : a.pixelOffset point = a.pixelOffset s.lastPoint := by
        rw [a.pixelOffset_add s.lastPoint point, hstill, add_zero]
      exact ⟨a.visible, rfl, rfl, h.shown.kind, h.shown.inOrder, hoffset ▸ h.shown.value, h.shown.span⟩

/-- The start that a pan takes down for a category axis that it moves. -/
theorem lookup_categoryStarts_of_category {t : PanTarget} {p : Pane Rat} {family : AxisFamily}
    (hcovers : t.covers family = true) (hmember : a.id ∈ p.axisIds family) (hfound : p.axis? a.id = some a)
    (hdirect : a.autoRange ≠ .always) (hcategory : a.category = true) :
    (t.categoryStarts p).lookup a.id = some a.visible := by
  have hname : a.id ∈ (t.axes p).map (·.1) := List.mem_map.2 ⟨_, mem_axes hcovers hmember, rfl⟩
  rw [lookup_categoryStarts, if_pos hname, hfound, Option.bind_some, hcategory, if_pos rfl,
    ChartAxis.visibleRange_direct hdirect]

end PanTarget

/-! ### The controller -/

/-- An axis of a family of the pane, all of whose axes have their own names. -/
structure Pane.HasAxis [Decimals Rat] (p : Pane Rat) (family : AxisFamily) (a : ChartAxis Rat) : Prop where
  distinct : (p.axisIds .x ++ p.axisIds .y).Nodup
  member : a.id ∈ p.axisIds family
  found : p.axis? a.id = some a

namespace ZoomPan

section

variable [Decimals Rat] {c : ZoomPan Rat} {p : Pane Rat} {family : AxisFamily} {a : ChartAxis Rat} {s : PanSession Rat}
  {value span : Rat}

/-- A drag that clips nothing moves the axis and holds its content. -/
structure Drags (c : ZoomPan Rat) (family : AxisFamily) (p : Pane Rat) (s : PanSession Rat) (a : ChartAxis Rat)
    (value span : Rat) : Prop where
  extents : c.config.zoomExtentsY = false
  session : c.session = some s
  clip : s.target.clip family = .none
  covers : s.target.covers family = true
  axis : p.HasAxis family a
  free : a.IsFree
  holds : s.Holds a value span

theorem clip_target (hclipX : c.config.clipModeX = .none) (hclipY : c.config.clipModeY = .none) (isMaster : Bool)
    (family : AxisFamily) : (c.target isMaster).clip family = .none := by
  cases family with
  | x => exact hclipX
  | y => exact hclipY

/-- A press that starts a drag finds each axis with its value under the pointer. -/
theorem drags_mouseDown {press : MouseArgs Rat} (hpress : (c.mouseDown press p).handled = true)
    (hclipX : c.config.clipModeX = .none) (hclipY : c.config.clipModeY = .none)
    (hextents : c.config.zoomExtentsY = false) (hcovers : (c.target press.isMaster).covers family = true)
    (haxis : p.HasAxis family a) (hfree : a.IsFree) (hr : a.visible.InOrder) :
    ∃ s, (c.mouseDown press p).controller.Drags family (c.mouseDown press p).pane s a
      (a.scale.valueAt a.visible (a.pixelOffset press.point)) a.visible.span := by
  unfold mouseDown at hpress ⊢
  split at hpress
  · cases hpress
  next hready =>
  rw [if_neg hready]
  cases hcapture : p.capture c.id with
  | none =>
    rw [hcapture] at hpress
    cases hpress
  | some q =>
    obtain ⟨-, rfl⟩ := Pane.capture_eq_some hcapture
    have hpins : a.Pins a.visible press.point (a.scale.valueAt a.visible (a.pixelOffset press.point)) a.visible.span :=
      ⟨hfree.kind, hr, rfl, rfl⟩
    refine ⟨_, hextents, rfl, clip_target hclipX hclipY press.isMaster family, hcovers, ?_, hfree, hpins,
      fun hcategory => ⟨a.visible, ?_, hpins⟩⟩
    · exact ⟨haxis.distinct, haxis.member, haxis.found⟩
    · exact PanTarget.lookup_categoryStarts_of_category (p := { p with capturedBy := some c.id }) hcovers haxis.member
        haxis.found hfree.direct hcategory

/-- A drag that starts anew holds the content as well. -/
theorem holds_rebase (h : s.Holds a value span) (hcovers : s.target.covers family = true) (haxis : p.HasAxis family a)
    (hfree : a.IsFree) (external : Bool) : (rebase s external p).Holds a value span := by
  cases external with
  | false => exact h
  | true =>
    refine ⟨h.shown, fun hcategory => ⟨a.visible, ?_, h.shown⟩⟩
    exact PanTarget.lookup_categoryStarts_of_category hcovers haxis.member haxis.found hfree.direct hcategory

/-- A move takes the content along to its point. -/
theorem Drags.mouseMove (h : c.Drags family p s a value span) (args : MouseArgs Rat) :
    ∃ s' v, s'.lastPoint = args.point ∧
      (c.mouseMove args p).controller.Drags family (c.mouseMove args p).pane s' { a with visible := v } value span := by
  rw [mouseMove_of_session h.session rfl]
  generalize (p.takeExternal c.id).1 = external
  have haxis : (p.takeExternal c.id).2.HasAxis family a := ⟨h.axis.distinct, h.axis.member, h.axis.found⟩
  generalize (p.takeExternal c.id).2 = q at haxis ⊢
  have hholds := holds_rebase h.holds h.covers haxis h.free external
  have htarget := target_rebase s external q
  generalize rebase s external q = s' at hholds htarget ⊢
  obtain ⟨v, hv, hvkind, hpins⟩ := PanTarget.panAxis_pins hholds h.free args.point
  have hpan : c.panTo s' args q = q.asOwnWrites c.id
      (s'.target.pan (args.point - s'.lastPoint) (args.point - s'.startPoint) s'.categoryStarts) := by
    simp only [panTo, h.extents, Bool.false_and, Bool.false_eq_true, if_false]
  have hcovers : s'.target.covers family = true := htarget ▸ h.covers
  have hclip : s'.target.clip family = .none := htarget ▸ h.clip
  have hids := (c.keepsLayout_panTo s' args q).axisIds
  have hfound : (c.panTo s' args q).axis? a.id = some { a with visible := v } := by
    have hbegun : ({ q with notifier := q.notifier.beginOwnWrites c.id } : Pane Rat).HasAxis family a :=
      ⟨haxis.distinct, haxis.member, haxis.found⟩
    rw [hpan]
    refine (PanTarget.axis?_pan_of_covers _ _ hbegun.distinct hcovers hbegun.member).trans ?_
    rw [hbegun.found, Option.map_some, hclip, hv]
  refine ⟨moved c.config s' args, v, rfl, h.extents, rfl, hclip, hcovers, ?_, ?_, ?_, fun hcategory => ?_⟩
  · refine ⟨?_, ?_, hfound⟩
    · rw [hids, hids]
      exact haxis.distinct
    · rw [hids]
      exact haxis.member
  · exact ⟨h.free.extent, h.free.direct, hvkind ▸ h.free.kind⟩
  · exact hpins.withVisible v
  · obtain ⟨r, hlookup, hstart⟩ := hholds.start hcategory
    exact ⟨r, hlookup, hstart.withVisible v⟩

theorem Drags.moves {w : ZoomPan Rat × Pane Rat} (h : w.1.Drags family w.2 s a value span)
    (moves : List (MouseArgs Rat)) :
    ∃ s' v,
      (run (moves.map .move) w).1.Drags family (run (moves.map .move) w).2 s' { a with visible := v } value span := by
  induction moves generalizing w s a with
  | nil => exact ⟨s, a.visible, h⟩
  | cons args rest ih =>
    obtain ⟨s', v, -, h'⟩ := h.mouseMove args
    obtain ⟨s'', v', h''⟩ := ih (w := apply w (.move args)) (a := { a with visible := v }) h'
    exact ⟨s'', v', h''⟩

/-- After a press that starts a drag and any moves, the last one to a point, every axis that the drag moves shows under
that point the value that it showed under the press, and its span has not changed. -/
theorem content_sticks_to_pointer (hclipX : c.config.clipModeX = .none) (hclipY : c.config.clipModeY = .none)
    (hextents : c.config.zoomExtentsY = false) (hdistinct : (p.axisIds .x ++ p.axisIds .y).Nodup)
    {press : MouseArgs Rat} (hpress : (c.mouseDown press p).handled = true)
    (hcovers : (c.target press.isMaster).covers family = true) {id : String} (hmember : id ∈ p.axisIds family)
    (hfound : p.axis? id = some a) (hextent : 0 < a.pixelExtent)
    (hdirect : a.autoRange ≠ .always) (hkind : a.visible.kind.KeepsFractions) (hr : a.visible.InOrder)
    (moves : List (MouseArgs Rat)) (last : MouseArgs Rat) :
    let start := ((c.mouseDown press p).controller, (c.mouseDown press p).pane)
    ∃ a', (run (moves.map .move ++ [.move last]) start).2.axis? id = some a' ∧
      a'.scale.valueAt a'.visibleRange (a'.pixelOffset last.point) =
        a.scale.valueAt a.visibleRange (a.pixelOffset press.point) ∧
      a'.visibleRange.span = a.visibleRange.span := by
  intro start
  have hname : a.id = id := Pane.id_of_find? hfound
  subst hname
  obtain ⟨s, hstart⟩ := drags_mouseDown hpress hclipX hclipY hextents hcovers ⟨hdistinct, hmember, hfound⟩
    ⟨hextent, hdirect, hkind⟩ hr
  obtain ⟨s', v, hdrag⟩ := Drags.moves (w := start) hstart moves
  obtain ⟨s'', v', hlast, hdrag'⟩ := hdrag.mouseMove last
  refine ⟨{ a with visible := v' }, ?_, ?_, ?_⟩
  · rw [run, List.foldl_append]
    exact hdrag'.axis.found
  · rw [ChartAxis.visibleRange_direct hdrag'.free.direct, ChartAxis.visibleRange_direct hdirect, ← hlast]
    exact hdrag'.holds.shown.value
  · rw [ChartAxis.visibleRange_direct hdrag'.free.direct, ChartAxis.visibleRange_direct hdirect]
    exact hdrag'.holds.shown.span

end

/-- Months as categories upside down on the y axis and numbers on the x axis, dragged in three moves. -/
theorem content_sticks_to_pointer_months :
    let x : ChartAxis Rat := { ChartAxis.new "x" true (.double (.new 0 10)) with bounds := ⟨0, 100, 100, 24⟩ }
    let y : ChartAxis Rat :=
      { ChartAxis.new "months" false (.double (.new 2 14)) with
        category := true
        flip := true
        bounds := ⟨0, 0, 48, 60⟩ }
    let p : Pane Rat := { Pane.new ⟨0, 0, 100, 100⟩ .cartesian with xAxes := [x], yAxes := [y] }
    let config : ZoomPanConfig Rat := { ZoomPanConfig.default with clipModeX := .none }
    let c := (ofInertia 0 config (.atRest config.inertia)).attached p
    let press : MouseArgs Rat := .new ⟨50, 20⟩ .onlyLeft 0
    let moves : List (MouseArgs Rat) := [.new ⟨43, 31⟩ .onlyLeft 16000000, .new ⟨43, 40⟩ .onlyLeft 32000000]
    let last : MouseArgs Rat := .new ⟨80, -5⟩ .onlyLeft 48000000
    let start := ((c.1.mouseDown press c.2).controller, (c.1.mouseDown press c.2).pane)
    (∃ a', (run (moves.map .move ++ [.move last]) start).2.axis? "months" = some a' ∧
      a'.scale.valueAt a'.visibleRange (a'.pixelOffset last.point) =
        y.scale.valueAt y.visibleRange (y.pixelOffset press.point) ∧
      a'.visibleRange.span = y.visibleRange.span) ∧
    ((run (moves.map .move ++ [.move last]) start).2.axis? "months").map (·.visibleRange.preciseBounds) =
      some (7, 19) := by
  intro x y p config c press moves last start
  have hcovers : (c.1.target press.isMaster).covers .y = true := rfl
  have hfound : c.2.axis? "months" = some y := rfl
  refine ⟨?_, ?_⟩
  · exact content_sticks_to_pointer rfl rfl rfl (by decide) (by decide +kernel) hcovers (by decide) hfound
      (by decide +kernel) (by decide) (by decide) (by decide +kernel) moves last
  · decide +kernel

end ZoomPan

end ChartGestures
