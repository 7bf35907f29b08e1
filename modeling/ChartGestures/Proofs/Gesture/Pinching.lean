import ChartGestures.Number.ExactDecimal
import ChartGestures.Proofs.Axis.Direct
import ChartGestures.Proofs.Gesture.TouchInput
import ChartGestures.Proofs.Pane.Writes
import Mathlib.Data.Rat.Sqrt
import Mathlib.Tactic.FieldSimp

/-!
# A pinch telescopes

A pinch zooms by how far the fingers spread against a reference, and every flush of its buffer takes the fingers as they
are for the next reference. Over exact numbers the factors of the flushes multiply up, and each cancels the reference of
the next: the span at the end is that at the start times the first measure of the fingers over the last one, whenever
ticks came between. If the center of the fingers stays where it is, each zoom also leaves the value under it, so then the
ticks make no difference to the range shown.
-/

namespace ChartGestures

open Scalar

section

variable [Decimals Rat] [Trigonometry Rat]

/-! ### One flush -/

/-- The measure of the fingers that counts for an axis. -/
def PinchExtent.measure (config : PinchZoomConfig Rat) (a : ChartAxis Rat) (e : PinchExtent Rat) : Rat :=
  if config.isUniform then e.diagonal else if a.horizontal then e.width else e.height

/-- An axis that a pinch can zoom: it has a length, and keeps what is written to it as numbers. -/
structure ChartAxis.IsPinchable (a : ChartAxis Rat) : Prop where
  kind : a.visible.kind = .double
  direct : a.autoRange ≠ .always
  extent : 0 < a.pixelExtent

/-- The relative change from one extent of the fingers to another is one that a flush applies in full. -/
def PinchExtent.IsWithinStep (config : PinchZoomConfig Rat) (a : ChartAxis Rat) (r e : PinchExtent Rat) : Prop :=
  -config.maxStep ≤ (e.measure config a - r.measure config a) / r.measure config a ∧
    (e.measure config a - r.measure config a) / r.measure config a ≤ config.maxStep

instance (config : PinchZoomConfig Rat) (a : ChartAxis Rat) (r e : PinchExtent Rat) :
    Decidable (r.IsWithinStep config a e) := inferInstanceAs (Decidable (_ ∧ _))

namespace PinchZoom

variable {config : PinchZoomConfig Rat} {a : ChartAxis Rat} {r e : PinchExtent Rat}

omit [Trigonometry Rat] in
theorem spreadFor_deltaFrom (config : PinchZoomConfig Rat) (a : ChartAxis Rat) (r e : PinchExtent Rat) (maxStep : Rat) :
    spreadFor config (e.deltaFrom r maxStep) a =
      relativeChange (e.measure config a) (r.measure config a) maxStep := by
  unfold spreadFor PinchExtent.measure
  split
  · rfl
  · split <;> rfl

omit [Trigonometry Rat] in
theorem relativeChange_of_isWithinStep (hr : 0 < r.measure config a) (hstep : r.IsWithinStep config a e) :
    relativeChange (e.measure config a) (r.measure config a) config.maxStep =
      (e.measure config a - r.measure config a) / r.measure config a := by
  rw [relativeChange, if_neg (not_le.2 hr), clamp, if_neg (not_lt.2 hstep.1), if_neg (not_lt.2 hstep.2)]

omit [Trigonometry Rat] [Decimals Rat] in
theorem one_add_scaleFor {spread : Rat} (h : 1 + spread ≠ 0) : 1 + scaleFor spread = 1 / (1 + spread) := by
  rw [scaleFor]
  field_simp
  ring

omit [Trigonometry Rat] in
/-- A flush trades the reference for the present measure, and leaves the value under the center of the fingers. -/
theorem pinch_shows (ha : a.IsPinchable) (hr : 0 < r.measure config a) (he : 0 < e.measure config a)
    (hstep : r.IsWithinStep config a e) (hspan : Domain.double.tolerance < a.visible.span) :
    ∃ v, (pinch config (e.deltaFrom r config.maxStep) a).axis = { a with visible := v } ∧ v.kind = .double ∧
      v.span * e.measure config a = a.visible.span * r.measure config a ∧
      v.preciseBounds.1 + a.share e.center * v.span = a.visible.preciseBounds.1 + a.share e.center * a.visible.span := by
  have hspread : spreadFor config (e.deltaFrom r config.maxStep) a =
      (e.measure config a - r.measure config a) / r.measure config a :=
    (spreadFor_deltaFrom ..).trans (relativeChange_of_isWithinStep hr hstep)
  rw [pinch, hspread]
  generalize hspreads : (e.measure config a - r.measure config a) / r.measure config a = spread
  have hgrown : 1 + spread = e.measure config a / r.measure config a := by
    rw [← hspreads]
    field_simp
    ring
  split
  · have hpositive : 0 < 1 + spread := hgrown ▸ div_pos he hr
    have hscale : 1 + scaleFor spread = r.measure config a / e.measure config a := by
      rw [one_add_scaleFor hpositive.ne', hgrown, one_div_div]
    have hwidth : a.visible.tolerance < a.visible.span := by
      rw [Range.tolerance_double ha.kind]
      exact hspan
    obtain ⟨v, hv, hkind, hvspan, hanchor⟩ :=
      ChartAxis.zoomAt_shows ha.direct (.inl ha.kind) ha.extent hwidth (hscale ▸ div_pos hr he) e.center
    refine ⟨v, hv, hkind.trans ha.kind, ?_, hanchor⟩
    rw [hvspan, hscale, mul_assoc, div_mul_cancel₀ _ he.ne']
  · next hnone =>
    have hzero : spread = 0 := by simpa using hnone
    have hsame : e.measure config a = r.measure config a := by
      rw [hzero, add_zero, eq_div_iff hr.ne', one_mul] at hgrown
      exact hgrown.symm
    exact ⟨a.visible, rfl, ha.kind, by rw [hsame], rfl⟩

/-! ### On a pane -/

/-- What a flush writes. -/
def writes (config : PinchZoomConfig Rat) (delta : PinchDelta Rat) (ids : List String) : AxisWrites Rat :=
  ids.map fun id => (id, pinch config delta)

omit [Trigonometry Rat] in
theorem keepNames_writes (config : PinchZoomConfig Rat) (delta : PinchDelta Rat) (ids : List String) :
    (writes config delta ids).KeepNames := by
  intro w hw b
  obtain ⟨id, -, rfl⟩ := List.mem_map.1 hw
  change (pinch config delta b).axis.id = b.id
  unfold pinch
  dsimp only
  split
  · exact b.id_zoomAt ..
  · rfl

variable {c : PinchZoom Rat} {p : Pane Rat} {delta : PinchDelta Rat}

theorem flush_of_none (h : c.pending = none) (p : Pane Rat) : c.flush p = ({ c with timer := c.timer.stop }, p) := by
  rw [flush]
  dsimp only
  rw [h]

theorem flush_of_some (h : c.pending = some delta) (p : Pane Rat) :
    c.flush p = ({ c with timer := c.timer.stop, pending := none }.resetReference,
      p.suspended (Pane.writeAll (writes c.config delta (p.axisIdsIn c.config.direction c.isMaster)))) := by
  rw [flush]
  dsimp only
  rw [h]
  dsimp only
  rw [Pane.suspended, Pane.suspended, Pane.writeAll, writes, List.foldl_map]
  rfl

omit [Trigonometry Rat] in
theorem nodup_axisIdsIn (h : (p.axisIds .x ++ p.axisIds .y).Nodup) (direction : XyDirection) (withY : Bool) :
    (p.axisIdsIn direction withY).Nodup := by
  refine h.sublist (List.Sublist.append ?_ ?_)
  · split
    · exact List.Sublist.refl _
    · exact List.nil_sublist _
  · split
    · exact List.Sublist.refl _
    · exact List.nil_sublist _

omit [Trigonometry Rat] in
theorem axis?_suspended_writes {id : String} (hdistinct : (p.axisIds .x ++ p.axisIds .y).Nodup)
    {direction : XyDirection} {withY : Bool} (hid : id ∈ p.axisIdsIn direction withY) :
    (p.suspended (Pane.writeAll (writes config delta (p.axisIdsIn direction withY)))).axis? id =
      (p.axis? id).map fun a => (pinch config delta a).axis := by
  refine Pane.axis?_writeAll_of_mem (keepNames_writes config delta _) ?_ (List.mem_map.2 ⟨id, hid, rfl⟩)
    { p with notifier := p.notifier.suspend }
  have hnames : (writes config delta (p.axisIdsIn direction withY)).map (·.1) = p.axisIdsIn direction withY := by
    rw [writes, List.map_map]
    exact List.map_id _
  rw [hnames]
  exact nodup_axisIdsIn hdistinct direction withY

end PinchZoom

/-! ### Runs -/

/-- What comes between the last finger that joins a pinch and the first that leaves it. -/
inductive PinchEvent where
  | move (args : TouchArgs Rat)
  | tick (now : Nat)

def PinchEvent.move? : PinchEvent → Option (TouchArgs Rat)
  | move args => some args
  | tick _ => none

structure PinchOnPane where
  controller : PinchZoom Rat
  pane : Pane Rat

/-- The extents of the fingers after each move. -/
def PinchExtent.afterEach (touches : List (Nat × Point Rat)) : List (TouchArgs Rat) → List (PinchExtent Rat)
  | [] => []
  | args :: rest =>
    let touches := args.manipulators.foldl PinchZoom.trackOne touches
    (ofPoints (touches.map (·.2))).toList ++ afterEach touches rest

namespace PinchOnPane

/-- After a finger joined. -/
def down (c : PinchZoom Rat) (args : TouchArgs Rat) (p : Pane Rat) : PinchOnPane :=
  ⟨(c.touchDown args p).controller, (c.touchDown args p).pane⟩

def step (s : PinchOnPane) : PinchEvent → PinchOnPane
  | .move args => ⟨(s.controller.touchMove args s.pane).controller, (s.controller.touchMove args s.pane).pane⟩
  | .tick now => ⟨(s.controller.tick now s.pane).1, (s.controller.tick now s.pane).2⟩

def run (s : PinchOnPane) (events : List PinchEvent) : PinchOnPane := events.foldl step s

/-- After a finger left. -/
def up (s : PinchOnPane) (args : TouchArgs Rat) : PinchOnPane :=
  ⟨(s.controller.touchUp args s.pane).controller, (s.controller.touchUp args s.pane).pane⟩

def extents (s : PinchOnPane) (moves : List (TouchArgs Rat)) : List (PinchExtent Rat) :=
  PinchExtent.afterEach s.controller.touches moves

/-- A flush now, if anything is pending, applies all of the change, to an axis whose span is above the tolerance. -/
def canFlush (s : PinchOnPane) (id : String) : Bool :=
  match s.controller.reference, s.controller.currentExtent, s.pane.axis? id with
  | some r, some e, some a =>
    s.controller.pending.isNone ||
      decide (r.IsWithinStep s.controller.config a e) && decide (Domain.double.tolerance < a.visible.span)
  | _, _, _ => false

/-- All flushes can be made: those at ticks, and the one when a finger leaves after the events. -/
def canFlushAll (s : PinchOnPane) (id : String) : List PinchEvent → Bool
  | [] => s.canFlush id
  | .move args :: rest => (s.step (.move args)).canFlushAll id rest
  | .tick now :: rest =>
    (decide ((s.controller.timer.poll now).1 = 0) || s.canFlush id) && (s.step (.tick now)).canFlushAll id rest

/-- Two fingers or more that are there throughout the moves pinch an axis of the pane, at every moment with a measure of
their own. -/
structure Pinches (s : PinchOnPane) (id : String) (a : ChartAxis Rat) (moves : List (TouchArgs Rat)) : Prop where
  fingers : (s.controller.touches.map (·.1)).Nodup
  two : 2 ≤ s.controller.touches.length
  distinct : (s.pane.axisIds .x ++ s.pane.axisIds .y).Nodup
  axis : s.pane.axis? id = some a
  pinchable : a.IsPinchable
  moved : ∀ args ∈ moves, ∀ m ∈ args.manipulators, m.action = .move ∧ m.id ∈ s.controller.touches.map (·.1)
  targeted : ∀ args ∈ moves, id ∈ s.pane.axisIdsIn s.controller.config.direction args.isMaster
  apart : ∀ e ∈ s.controller.currentExtent.toList ++ s.extents moves, 0 < e.measure s.controller.config a

/-- What stays true from `s₀` on: the reference `r`, the present extent `e` of the fingers and the range `v` shown. The
span times the reference never changes, and neither does the value under a center `q?` that the fingers keep. -/
structure Telescopes (s₀ : PinchOnPane) (id : String) (a : ChartAxis Rat) (d₀ : Rat) (q? : Option (Point Rat))
    (s : PinchOnPane) (r e : PinchExtent Rat) (v : Range Rat) : Prop where
  config : s.controller.config = s₀.controller.config
  axisIds : ∀ family, s.pane.axisIds family = s₀.pane.axisIds family
  fingers : (s.controller.touches.map (·.1)).Perm (s₀.controller.touches.map (·.1))
  axis : s.pane.axis? id = some { a with visible := v }
  kind : v.kind = .double
  current : s.controller.currentExtent = some e
  reference : s.controller.reference = some r
  pending : s.controller.pending = none ∧ r = e ∨
    s.controller.pending = some (e.deltaFrom r s.controller.config.maxStep) ∧
      id ∈ s.pane.axisIdsIn s.controller.config.direction s.controller.isMaster ∧ ∀ q ∈ q?, e.center = q
  current_pos : 0 < e.measure s₀.controller.config a
  reference_pos : 0 < r.measure s₀.controller.config a
  span : v.span * r.measure s₀.controller.config a = a.visible.span * d₀
  anchor : ∀ q ∈ q?, v.preciseBounds.1 + a.share q * v.span = a.visible.preciseBounds.1 + a.share q * a.visible.span

namespace Telescopes

variable {s₀ s : PinchOnPane} {id : String} {a : ChartAxis Rat} {d₀ : Rat} {q? : Option (Point Rat)}
  {r e : PinchExtent Rat} {v : Range Rat}

theorem withTimer (h : Telescopes s₀ id a d₀ q? s r e v) (timer : IntervalTimer) :
    Telescopes s₀ id a d₀ q? ⟨{ s.controller with timer }, s.pane⟩ r e v :=
  { h with }

/-- A flush leaves the present extent for a reference. -/
theorem flush (h : Telescopes s₀ id a d₀ q? s r e v) (ha : a.IsPinchable)
    (hdistinct : (s₀.pane.axisIds .x ++ s₀.pane.axisIds .y).Nodup) (hcan : s.canFlush id = true) :
    ∃ v', Telescopes s₀ id a d₀ q? ⟨(s.controller.flush s.pane).1, (s.controller.flush s.pane).2⟩ e e v' := by
  rcases h.pending with ⟨hnone, rfl⟩ | ⟨hsome, hid, hcenter⟩
  · rw [PinchZoom.flush_of_none hnone]
    exact ⟨v, h.withTimer _⟩
  · simp only [canFlush, h.reference, h.current, h.axis, hsome, Option.isNone_some, Bool.false_or, Bool.and_eq_true,
      decide_eq_true_eq] at hcan
    obtain ⟨hstep, hspan⟩ := hcan
    rw [h.config] at hstep
    have hpinchable : ChartAxis.IsPinchable { a with visible := v } := ⟨h.kind, ha.direct, ha.extent⟩
    obtain ⟨v', hv', hkind, hspan', hanchor⟩ :=
      PinchZoom.pinch_shows hpinchable h.reference_pos h.current_pos hstep hspan
    rw [← h.config] at hv'
    rw [PinchZoom.flush_of_some hsome]
    refine ⟨v', ?_⟩
    have hids (family : AxisFamily) := (Pane.KeepsLayout.suspended_writeAll
      (PinchZoom.keepNames_writes s.controller.config (e.deltaFrom r s.controller.config.maxStep)
        (s.pane.axisIdsIn s.controller.config.direction s.controller.isMaster)) s.pane).axisIds family
    refine { h with
      axisIds := fun family => (hids family).trans (h.axisIds family)
      axis := ?_
      kind := hkind
      reference := h.current
      pending := .inl ⟨rfl, rfl⟩
      reference_pos := h.current_pos
      span := hspan'.trans h.span
      anchor := fun q hq => ?_ }
    · have hdistinct' : (s.pane.axisIds .x ++ s.pane.axisIds .y).Nodup := by
        rw [h.axisIds, h.axisIds]
        exact hdistinct
      exact (PinchZoom.axis?_suspended_writes hdistinct' hid).trans (by rw [h.axis, Option.map_some, hv'])
    · rw [hcenter q hq] at hanchor
      exact hanchor.trans (h.anchor q hq)

theorem tick (h : Telescopes s₀ id a d₀ q? s r e v) (ha : a.IsPinchable)
    (hdistinct : (s₀.pane.axisIds .x ++ s₀.pane.axisIds .y).Nodup) {now : Nat}
    (hcan : (s.controller.timer.poll now).1 = 0 ∨ s.canFlush id = true) :
    ∃ r' v', Telescopes s₀ id a d₀ q? (s.step (.tick now)) r' e v' := by
  have hpolled := h.withTimer (s.controller.timer.poll now).2
  rw [step, PinchZoom.tick]
  dsimp only
  split
  · next hdue =>
    have hflush := hcan.resolve_left (Nat.ne_of_gt hdue)
    obtain ⟨v', hv'⟩ := hpolled.flush ha hdistinct hflush
    exact ⟨e, v', hv'⟩
  · exact ⟨r, v, hpolled⟩

omit [Trigonometry Rat] [Decimals Rat] in
theorem perm_moves {fingers : List Nat} {ms : List (Manipulator Rat)} {touches : List (Nat × Point Rat)}
    (hms : ∀ m ∈ ms, m.action = .move ∧ m.id ∈ fingers) (hnodup : fingers.Nodup)
    (h : (touches.map (·.1)).Perm fingers) : ((ms.foldl PinchZoom.trackOne touches).map (·.1)).Perm fingers := by
  induction ms generalizing touches with
  | nil => exact h
  | cons m rest ih =>
    obtain ⟨hmove, hthere⟩ := hms m List.mem_cons_self
    have hfits : m.fits fingers = true := by
      rw [Manipulator.fits, hmove]
      exact decide_eq_true hthere
    have htracked := PinchZoom.perm_trackOne hfits hnodup h
    rw [Manipulator.track, hmove] at htracked
    exact ih (fun m hm => hms m (List.mem_cons_of_mem _ hm)) htracked

omit [Decimals Rat] in
theorem currentExtent_of_two {c : PinchZoom Rat} (h : 2 ≤ c.touches.length) :
    ∃ e, PinchExtent.ofPoints (c.touches.map (·.2)) = some e ∧ c.currentExtent = some e := by
  obtain ⟨touch, rest, htouches⟩ := List.exists_cons_of_length_pos (show 0 < c.touches.length by omega)
  have hsome : ∃ e, PinchExtent.ofPoints (c.touches.map (·.2)) = some e := by
    rw [htouches]
    exact ⟨_, rfl⟩
  obtain ⟨e, he⟩ := hsome
  refine ⟨e, he, ?_⟩
  rw [PinchZoom.currentExtent, if_neg (by omega)]
  exact he

theorem move (h : Telescopes s₀ id a d₀ q? s r e v) {args : TouchArgs Rat}
    (hnodup : (s₀.controller.touches.map (·.1)).Nodup) (htwo : 2 ≤ s₀.controller.touches.length)
    (hms : ∀ m ∈ args.manipulators, m.action = .move ∧ m.id ∈ s₀.controller.touches.map (·.1))
    (hid : id ∈ s₀.pane.axisIdsIn s₀.controller.config.direction args.isMaster)
    (hextent : ∀ e', PinchExtent.ofPoints ((args.manipulators.foldl PinchZoom.trackOne s.controller.touches).map (·.2)) =
      some e' → 0 < e'.measure s₀.controller.config a ∧ ∀ q ∈ q?, e'.center = q) :
    ∃ e', PinchExtent.ofPoints ((args.manipulators.foldl PinchZoom.trackOne s.controller.touches).map (·.2)) = some e' ∧
      (s.step (.move args)).controller.touches = args.manipulators.foldl PinchZoom.trackOne s.controller.touches ∧
      Telescopes s₀ id a d₀ q? (s.step (.move args)) r e' v := by
  have hfingers := perm_moves hms hnodup h.fingers
  have hlength : 2 ≤ (s.controller.track args).touches.length := by
    have heq := hfingers.length_eq
    rw [List.length_map, List.length_map] at heq
    change 2 ≤ (args.manipulators.foldl PinchZoom.trackOne s.controller.touches).length
    omega
  obtain ⟨e', he', hcurrent⟩ := currentExtent_of_two hlength
  obtain ⟨hpositive, hcenter⟩ := hextent e' he'
  have hreference : (s.controller.track args).reference = some r := h.reference
  refine ⟨e', he', ?_⟩
  rw [step, PinchZoom.touchMove]
  simp only [hreference, hcurrent]
  refine ⟨rfl, ?_⟩
  have hid' : id ∈ s.pane.axisIdsIn s.controller.config.direction args.isMaster := by
    rw [Pane.axisIdsIn, h.axisIds, h.axisIds, h.config]
    exact hid
  exact { h with
    fingers := hfingers
    current := hcurrent
    reference := rfl
    pending := .inr ⟨rfl, hid', hcenter⟩
    current_pos := hpositive }

theorem run {events : List PinchEvent} (h : Telescopes s₀ id a d₀ q? s r e v) (ha : a.IsPinchable)
    (hdistinct : (s₀.pane.axisIds .x ++ s₀.pane.axisIds .y).Nodup)
    (hnodup : (s₀.controller.touches.map (·.1)).Nodup) (htwo : 2 ≤ s₀.controller.touches.length)
    (hmoves : ∀ args ∈ events.filterMap PinchEvent.move?,
      (∀ m ∈ args.manipulators, m.action = .move ∧ m.id ∈ s₀.controller.touches.map (·.1)) ∧
        id ∈ s₀.pane.axisIdsIn s₀.controller.config.direction args.isMaster)
    (hextents : ∀ e' ∈ s.extents (events.filterMap PinchEvent.move?),
      0 < e'.measure s₀.controller.config a ∧ ∀ q ∈ q?, e'.center = q)
    (hcan : s.canFlushAll id events = true) :
    ∃ r' v', Telescopes s₀ id a d₀ q? (s.run events) r'
        ((s.extents (events.filterMap PinchEvent.move?)).getLast?.getD e) v' ∧
      (s.run events).canFlush id = true := by
  induction events generalizing s r e v with
  | nil => exact ⟨r, v, h, hcan⟩
  | cons event rest ih =>
    cases event with
    | tick now =>
      rw [canFlushAll, Bool.and_eq_true, Bool.or_eq_true, decide_eq_true_eq] at hcan
      obtain ⟨r', v', hticked⟩ := h.tick ha hdistinct hcan.1
      have htouches : (s.step (.tick now)).controller.touches = s.controller.touches := by
        rw [step, PinchZoom.tick]
        dsimp only
        split
        · exact PinchZoom.touches_flush ..
        · rfl
      have hrest := ih hticked hmoves (by rw [extents, htouches]; exact hextents) hcan.2
      rw [extents, htouches] at hrest
      exact hrest
    | move args =>
      have hcons : (PinchEvent.move args :: rest).filterMap PinchEvent.move? = args :: rest.filterMap PinchEvent.move? := rfl
      rw [hcons] at hmoves hextents ⊢
      obtain ⟨hms, hid⟩ := hmoves args List.mem_cons_self
      rw [extents, PinchExtent.afterEach] at hextents ⊢
      obtain ⟨e', he', htouches, hmoved⟩ := h.move hnodup htwo hms hid fun e' he' =>
        hextents e' (List.mem_append_left _ (by rw [he']; exact List.mem_singleton_self e'))
      rw [he', ← htouches] at hextents ⊢
      have hrest := ih hmoved (fun args hargs => hmoves args (List.mem_cons_of_mem _ hargs))
        (fun e'' he'' => hextents e'' (List.mem_append_right _ he'')) hcan
      rw [Option.toList_some, List.singleton_append, List.getLast?_cons, Option.getD_some]
      exact hrest

end Telescopes

variable {s : PinchOnPane} {c : PinchZoom Rat} {p : Pane Rat} {args : TouchArgs Rat} {id : String} {a : ChartAxis Rat}
  {moves : List (TouchArgs Rat)} {first last : PinchExtent Rat}

/-- A joining finger leaves nothing pending, and the extent of all fingers for a reference. -/
theorem telescopes_down (hdown : s = .down c args p) (h : s.Pinches id a moves)
    (hfirst : s.controller.currentExtent = some first) (q? : Option (Point Rat)) :
    Telescopes s id a (first.measure s.controller.config a) q? s first first a.visible := by
  have hpending : s.controller.pending = none := by
    rw [hdown]
    change (c.flush p).1.pending = none
    cases hpending : c.pending with
    | none =>
      rw [PinchZoom.flush_of_none hpending]
      exact hpending
    | some delta =>
      rw [PinchZoom.flush_of_some hpending]
      rfl
  have hreference : s.controller.reference = some first := by
    rw [← hfirst, hdown]
    rfl
  have hpositive : 0 < first.measure s.controller.config a := by
    refine h.apart first (List.mem_append_left _ ?_)
    rw [hfirst]
    exact List.mem_singleton_self first
  exact ⟨rfl, fun _ => rfl, .refl _, h.axis, h.pinchable.kind, hfirst, hreference, .inl ⟨hpending, rfl⟩, hpositive,
    hpositive, rfl, fun _ _ => rfl⟩

/-- What the axis shows once a finger has left. -/
theorem Pinches.released (h : s.Pinches id a moves) (hdown : s = .down c args p)
    (hfirst : s.controller.currentExtent = some first) (hlast : (s.extents moves).getLast? = some last)
    {events : List PinchEvent} (hmoves : events.filterMap PinchEvent.move? = moves)
    (hcan : s.canFlushAll id events = true) (q? : Option (Point Rat))
    (hcenter : ∀ q ∈ q?, ∀ e ∈ s.extents moves, e.center = q) (up : TouchArgs Rat) :
    ∃ v, ((s.run events).up up).pane.axis? id = some { a with visible := v } ∧
      v.span * last.measure s.controller.config a = a.visible.span * first.measure s.controller.config a ∧
      ∀ q ∈ q?, v.preciseBounds.1 + a.share q * v.span = a.visible.preciseBounds.1 + a.share q * a.visible.span := by
  have hstart := telescopes_down hdown h hfirst q?
  subst hmoves
  obtain ⟨r, v, hrun, hcanUp⟩ := hstart.run h.pinchable h.distinct h.fingers h.two
    (fun args hargs => ⟨h.moved args hargs, h.targeted args hargs⟩)
    (fun e he => ⟨h.apart e (List.mem_append_right _ he), fun q hq => hcenter q hq e he⟩) hcan
  rw [hlast, Option.getD_some] at hrun
  obtain ⟨v', hv'⟩ := hrun.flush h.pinchable h.distinct hcanUp
  exact ⟨v', hv'.axis, hv'.span, hv'.anchor⟩

/-- Between the last finger that joins and the first that leaves, a pinch makes of the span of an axis what it was times
the first measure of the fingers over the last, whatever ticks come between the moves. If the fingers keep their center,
the ticks make no difference to the bounds either. -/
theorem pinch_telescopes (hdown : s = .down c args p) (h : s.Pinches id a moves)
    (hfirst : s.controller.currentExtent = some first) (hlast : (s.extents moves).getLast? = some last) :
    (∀ events, events.filterMap PinchEvent.move? = moves → s.canFlushAll id events = true → ∀ up,
      ∃ b, ((s.run events).up up).pane.axis? id = some b ∧
        b.visibleRange.span =
          a.visibleRange.span * first.measure s.controller.config a / last.measure s.controller.config a) ∧
    ∀ q, (∀ e ∈ s.extents moves, e.center = q) → ∀ events events',
      events.filterMap PinchEvent.move? = moves → events'.filterMap PinchEvent.move? = moves →
      s.canFlushAll id events = true → s.canFlushAll id events' = true → ∀ up,
      ∃ b b', ((s.run events).up up).pane.axis? id = some b ∧ ((s.run events').up up).pane.axis? id = some b' ∧
        b'.visibleRange.preciseBounds = b.visibleRange.preciseBounds := by
  have hpositive : 0 < last.measure s.controller.config a :=
    h.apart last (List.mem_append_right _ (List.mem_of_getLast? hlast))
  have hdirect := h.pinchable.direct
  have hshows (v : Range Rat) : ChartAxis.visibleRange { a with visible := v } = v :=
    ChartAxis.visibleRange_direct (a := { a with visible := v }) hdirect
  refine ⟨fun events hmoves hcan up => ?_, fun q hcenter events events' hmoves hmoves' hcan hcan' up => ?_⟩
  · obtain ⟨v, haxis, hspan, -⟩ := h.released hdown hfirst hlast hmoves hcan none (fun _ hq => nomatch hq) up
    refine ⟨_, haxis, ?_⟩
    rw [hshows, ChartAxis.visibleRange_direct hdirect, eq_div_iff hpositive.ne']
    exact hspan
  · have hcentered (q' : Point Rat) (hq' : q' ∈ some q) : ∀ e ∈ s.extents moves, e.center = q' :=
      Option.mem_some_iff.1 hq' ▸ hcenter
    obtain ⟨v, haxis, hspan, hanchor⟩ := h.released hdown hfirst hlast hmoves hcan (some q) hcentered up
    obtain ⟨v', haxis', hspan', hanchor'⟩ := h.released hdown hfirst hlast hmoves' hcan' (some q) hcentered up
    have hsame : v'.span = v.span := mul_right_cancel₀ hpositive.ne' (hspan'.trans hspan.symm)
    have hlow : v'.preciseBounds.1 = v.preciseBounds.1 := by
      have hboth := (hanchor' q rfl).trans (hanchor q rfl).symm
      rw [hsame] at hboth
      exact add_right_cancel hboth
    refine ⟨_, _, haxis, haxis', ?_⟩
    rw [hshows, hshows]
    refine Prod.ext hlow ?_
    have hwidth : v'.preciseBounds.2 - v'.preciseBounds.1 = v.preciseBounds.2 - v.preciseBounds.1 := hsame
    rw [hlow] at hwidth
    exact sub_left_injective hwidth

end PinchOnPane

end

/-- Lengths that have a rational root; a pinch asks for nothing else. -/
local instance : Trigonometry Rat where
  length x y := Rat.sqrt (x * x + y * y)
  direction _ _ := 0
  cosine _ := 0
  sine _ := 0

/-- Two fingers spread from a diagonal of 50 over one of 60 to one of 72 about one center, with and without a flush at the
60. -/
theorem PinchOnPane.pinch_telescopes_two_moves :
    let p : Pane Rat := (Pane.new ⟨0, 0, 400, 300⟩ .cartesian).addAxis .x (.new "x" true (.double (.new 0 100)))
    let fingers (action : TouchAction) (time : Nat) (one two : Point Rat) : TouchArgs Rat :=
      ⟨[⟨1, one, action⟩, ⟨2, two, action⟩], true, time⟩
    let s := down (.new 0 .default) (fingers .down 0 ⟨100, 100⟩ ⟨130, 140⟩) p
    let move₁ := fingers .move 5000000 ⟨97, 96⟩ ⟨133, 144⟩
    let move₂ := fingers .move 35000000 ⟨93.4, 91.2⟩ ⟨136.6, 148.8⟩
    let flushed : List PinchEvent := [.move move₁, .tick 30000000, .move move₂]
    let buffered : List PinchEvent := [.move move₁, .move move₂]
    let leave := fingers .up 36000000 ⟨93.4, 91.2⟩ ⟨136.6, 148.8⟩
    ∃ a b b', s.Pinches "x" a [move₁, move₂] ∧ (s.canFlushAll "x" flushed = true ∧ s.canFlushAll "x" buffered = true) ∧
      a.visibleRange.span = 100 ∧ ((s.run flushed).up leave).pane.axis? "x" = some b ∧
      ((s.run buffered).up leave).pane.axis? "x" = some b' ∧ b.visibleRange.span = 100 * 50 / 72 ∧
      b'.visibleRange.preciseBounds = b.visibleRange.preciseBounds := by
  intro p fingers s move₁ move₂ flushed buffered leave
  let a : ChartAxis Rat := (p.axis? "x").get (by decide +kernel)
  have hpinches : s.Pinches "x" a [move₁, move₂] := by
    refine ⟨?fingers, ?two, ?distinct, rfl, ⟨?kind, ?direct, ?extent⟩, ?moved, ?targeted, ?apart⟩ <;> decide +kernel
  have hflushed : s.canFlushAll "x" flushed = true := by decide +kernel
  have hbuffered : s.canFlushAll "x" buffered = true := by decide +kernel
  have hmeasured : s.controller.currentExtent.map (·.measure s.controller.config a) = some 50 := by decide +kernel
  have hmeasured' : (s.extents [move₁, move₂]).getLast?.map (·.measure s.controller.config a) = some 72 := by
    decide +kernel
  have hshown : a.visibleRange.span = 100 := by decide +kernel
  obtain ⟨first, hfirst, hfifty⟩ := Option.map_eq_some_iff.1 hmeasured
  obtain ⟨last, hlast, hseventy⟩ := Option.map_eq_some_iff.1 hmeasured'
  have hcenter : ∀ e ∈ s.extents [move₁, move₂], e.center.x = 115 ∧ e.center.y = 120 := by decide +kernel
  obtain ⟨hspan, hsame⟩ := pinch_telescopes rfl hpinches hfirst hlast
  obtain ⟨b, b', hb, hb', hbounds⟩ :=
    hsame ⟨115, 120⟩ (fun e he => congrArg₂ Point.mk (hcenter e he).1 (hcenter e he).2) flushed buffered rfl rfl hflushed
      hbuffered leave
  obtain ⟨_, hagain, hspread⟩ := hspan flushed rfl hflushed leave
  rw [← Option.some_inj.1 (hb.symm.trans hagain), hshown, hfifty, hseventy] at hspread
  exact ⟨a, b, b', hpinches, ⟨hflushed, hbuffered⟩, hshown, hb, hb', hspread, hbounds⟩

end ChartGestures
