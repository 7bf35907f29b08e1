import ChartGestures.Number.ExactDecimal
import ChartGestures.Proofs.Axis.Direct
import ChartGestures.Proofs.Geometry.Viewports
import ChartGestures.Proofs.Gesture.BandDrags
import ChartGestures.Proofs.Pane.AxisFrames

/-!
# What a rubber band zooms into

A band that is not given up writes once to every axis of the families it zooms. On a Cartesian pane over exact numbers
only its two ends count: each axis comes to show what lies between the values under the press and under the point of the
viewport nearest to the release, which is a part of what it showed, whatever way the pointer took.
-/

namespace ChartGestures

/-! ### Writes of a zoom -/

section Writes

variable {α : Type} [Scalar α] [Decimals α]

namespace Pane

variable {p : Pane α} {family : AxisFamily} {id : String}

theorem axis?_zoomFamilyToExtents_of_not_mem (h : id ∉ p.axisIds family) (nanos : Nat) :
    (p.zoomFamilyToExtents family nanos).axis? id = p.axis? id := by
  rw [zoomFamilyToExtents_eq]
  refine axis?_writeAll_of_not_mem (keepNames_extents nanos _) ?_ { p with notifier := p.notifier.suspend }
  rw [List.map_map]
  exact (List.map_id (p.axisIds family)).symm ▸ h

end Pane

namespace RubberBand

/-- What a zoom writes to axes of one family. -/
def familyWrites (config : RubberBandConfig α) (s : BandSession α) (family : AxisFamily) (ids : List String) :
    AxisWrites α :=
  ids.map fun id => (id, fun a => a.animateTo (s.covered family a) config.animation)

variable {config : RubberBandConfig α} {s : BandSession α} {family : AxisFamily} {ids : List String} {p : Pane α}
  {id : String}

theorem zoomFamily_eq : zoomFamily config s family p = p.writeAll (familyWrites config s family (p.axisIds family)) := by
  rw [zoomFamily, Pane.writeAll, familyWrites, List.foldl_map]

theorem keepNames_familyWrites : (familyWrites config s family ids).KeepNames := by
  intro w hw a
  obtain ⟨id, -, rfl⟩ := List.mem_map.1 hw
  exact a.id_animateTo ..

theorem names_familyWrites : (familyWrites config s family ids).map (·.1) = ids := by
  rw [familyWrites, List.map_map]
  exact List.map_id ids

theorem axisIds_zoomFamily (other : AxisFamily) :
    (zoomFamily config s family p).axisIds other = p.axisIds other := by
  rw [zoomFamily_eq, Pane.axisIds_writeAll keepNames_familyWrites]

theorem axis?_zoomFamily_of_mem (hnodup : (p.axisIds family).Nodup) (hid : id ∈ p.axisIds family) :
    (zoomFamily config s family p).axis? id =
      (p.axis? id).map fun a => (a.animateTo (s.covered family a) config.animation).axis := by
  rw [zoomFamily_eq]
  refine Pane.axis?_writeAll_of_mem keepNames_familyWrites ?_ (List.mem_map.2 ⟨id, hid, rfl⟩) p
  rwa [names_familyWrites]

theorem axis?_zoomFamily_of_not_mem (hid : id ∉ p.axisIds family) :
    (zoomFamily config s family p).axis? id = p.axis? id := by
  rw [zoomFamily_eq]
  refine Pane.axis?_writeAll_of_not_mem keepNames_familyWrites ?_ p
  rwa [names_familyWrites]

/-- The families a band zooms into. -/
def Targets (config : RubberBandConfig α) (family : AxisFamily) : Prop := family = .x ∨ config.isXAxisOnly = false

/-- Where the names are distinct, every axis of a family that is zoomed into takes one write. -/
theorem axis?_zoom (hdistinct : (p.axisIds .x ++ p.axisIds .y).Nodup) (htarget : Targets config family)
    (hid : id ∈ p.axisIds family) :
    (zoom config s p).axis? id =
      (p.axis? id).map fun a => (a.animateTo (s.covered family a) config.animation).axis := by
  obtain ⟨hx, hy, hdisjoint⟩ := List.nodup_append.1 hdistinct
  have hseparate (hinX : id ∈ p.axisIds .x) : id ∉ p.axisIds .y := fun hinY => hdisjoint id hinX id hinY rfl
  let q : Pane α := { p with notifier := p.notifier.suspend }
  have hnames : (zoomFamily config s .x q).axisIds .y = p.axisIds .y := axisIds_zoomFamily .y
  have hzoomed (hinX : id ∈ p.axisIds .x) : (zoomFamily config s .x q).axis? id =
      (p.axis? id).map fun a => (a.animateTo (s.covered .x a) config.animation).axis :=
    axis?_zoomFamily_of_mem (p := q) hx hinX
  cases honly : config.isXAxisOnly with
  | false =>
    have hboth : (zoom config s p).axis? id = (zoomFamily config s .y (zoomFamily config s .x q)).axis? id := by
      simp only [zoom, honly, Bool.false_and, Bool.false_eq_true, if_false]
      rfl
    rw [hboth]
    cases family with
    | x =>
      rw [axis?_zoomFamily_of_not_mem (hnames ▸ hseparate hid)]
      exact hzoomed hid
    | y =>
      have hother : id ∉ q.axisIds .x := fun hinX => hseparate hinX hid
      rw [axis?_zoomFamily_of_mem (hnames ▸ hy) (hnames ▸ hid), axis?_zoomFamily_of_not_mem hother]
      rfl
  | true =>
    have hfamily : family = .x := htarget.resolve_right (by rw [honly]; decide)
    subst hfamily
    cases hextents : config.zoomExtentsY with
    | true =>
      have hthen : (zoom config s p).axis? id =
          ((zoomFamily config s .x q).zoomFamilyToExtents .y config.animation).axis? id := by
        simp only [zoom, honly, hextents, Bool.and_self, if_true]
        rfl
      rw [hthen, Pane.axis?_zoomFamilyToExtents_of_not_mem (hnames ▸ hseparate hid)]
      exact hzoomed hid
    | false =>
      have halone : (zoom config s p).axis? id = (zoomFamily config s .x q).axis? id := by
        simp only [zoom, honly, hextents, Bool.and_false, Bool.false_eq_true, if_true, if_false]
        rfl
      rw [halone]
      exact hzoomed hid

end RubberBand

end Writes

/-! ### Double axes -/

section Axes

variable [Decimals Rat] {a : ChartAxis Rat} {r s : Range Rat}

theorem Range.IsOrdered.kind (hr : r.IsOrdered) : r.kind = .double := by
  obtain ⟨lo, hi, -, rfl⟩ := hr
  rfl

theorem Range.IsOrdered.eq_of_preciseBounds (hr : r.IsOrdered) (hkind : s.kind = .double)
    (h : s.preciseBounds = r.preciseBounds) : s = r := by
  obtain ⟨lo, hi, -, rfl⟩ := hr
  cases s with
  | double v =>
    obtain ⟨min, max⟩ := v
    obtain ⟨rfl, rfl⟩ := Prod.mk.inj h
    rfl
  | _ v => cases hkind

/-- The part of an axis with a length between two of its pixels. -/
theorem Range.IsOrdered.zoom (hr : r.IsOrdered) {scale : PixelScale Rat} (hextent : 0 < scale.extent)
    (first last : Rat) : scale.zoom r first last = .between (scale.valueAt r first) (scale.valueAt r last) := by
  have hready : scale.isDegenerate = false := PixelScale.not_isDegenerate hextent
  rw [PixelScale.zoom, hready, if_neg Bool.false_ne_true, hr.like]

namespace ChartAxis

theorem animateTo_shows (hdirect : a.autoRange ≠ .always) (ha : a.visible.IsOrdered) (hr : r.IsOrdered) (nanos : Nat) :
    (a.animateTo r nanos).axis.visibleRange = r := by
  let begun : ChartAxis Rat := if nanos = 0 then a else { a with lastAnimation := some (r, nanos) }
  have hbegun : begun.autoRange = a.autoRange ∧ begun.visible = a.visible := by
    unfold begun
    split <;> exact ⟨rfl, rfl⟩
  have hbegins : begun.autoRange ≠ .always := hbegun.1 ▸ hdirect
  have hkind : begun.visible.kind = .double := hbegun.2 ▸ ha.kind
  obtain ⟨v, hv, hvkind, hbounds⟩ := setVisible_shows hbegins (.inl hkind) hr.eq_between.1
  have hwritten : (a.animateTo r nanos).axis = { begun with visible := v } := hv
  rw [hwritten, visibleRange_direct (a := { begun with visible := v }) hbegins]
  exact hr.eq_of_preciseBounds (hvkind.trans hkind) hbounds

/-- What is under a point along the axis lies in the range. -/
theorem valueAt_mem (hextent : 0 < a.pixelExtent) (hr : r.IsOrdered) {q : Point Rat}
    (hq : 0 ≤ a.pixelOffset q ∧ a.pixelOffset q ≤ a.pixelExtent) :
    r.preciseBounds.1 ≤ a.scale.valueAt r (a.pixelOffset q) ∧
      a.scale.valueAt r (a.pixelOffset q) ≤ r.preciseBounds.2 := by
  have hfraction : 0 ≤ a.pixelOffset q / a.pixelExtent ∧ a.pixelOffset q / a.pixelExtent ≤ 1 :=
    ⟨div_nonneg hq.1 hextent.le, (div_le_one₀ hextent).2 hq.2⟩
  have hshare : 0 ≤ a.share q ∧ a.share q ≤ 1 := by
    unfold share
    split
    · exact hfraction
    · exact ⟨sub_nonneg.2 hfraction.2, sub_le_self 1 hfraction.1⟩
  have hspan : 0 ≤ r.span := sub_nonneg.2 hr.eq_between.1
  have hwidth : r.preciseBounds.2 = r.preciseBounds.1 + r.span := (add_sub_cancel ..).symm
  rw [valueAt_pixelOffset hextent, hwidth]
  exact ⟨le_add_of_nonneg_right (mul_nonneg hshare.1 hspan),
    add_le_add_right (mul_le_of_le_one_left hspan hshare.2) _⟩

end ChartAxis

end Axes

/-! ### Cartesian panes -/

section Cartesian

variable [Decimals Rat] [Trigonometry Rat]

/-- A Cartesian pane of double axes along its default strips, which show what is written to them. -/
structure Pane.IsPlain (p : Pane Rat) : Prop where
  cartesian : p.system = .cartesian
  width : 0 < p.viewport.width
  height : 0 < p.viewport.height
  distinct : (p.axisIds .x ++ p.axisIds .y).Nodup
  ordered : ∀ family, ∀ a ∈ p.family family, a.visible.IsOrdered
  direct : ∀ family, ∀ a ∈ p.family family, a.autoRange ≠ .always
  onStrip : ∀ family, ∀ a ∈ p.family family, a.bounds = p.defaultBounds family a

namespace Pane.IsPlain

variable {p q : Pane Rat} {family : AxisFamily} {a : ChartAxis Rat}

omit [Trigonometry Rat] in
theorem sameChart (h : p.IsPlain) (hchart : p.SameChart q) : q.IsPlain := by
  rw [hchart]
  exact ⟨h.cartesian, h.width, h.height, h.distinct, h.ordered, h.direct, h.onStrip⟩

omit [Trigonometry Rat] in
theorem axis?_eq (h : p.IsPlain) (ha : a ∈ p.family family) : p.axis? a.id = some a := by
  have hdistinct : (p.axes.map (·.id)).Nodup := by
    rw [axes, List.map_append]
    exact h.distinct
  refine axis?_of_mem hdistinct (List.mem_append.2 ?_)
  cases family with
  | x => exact .inl ha
  | y => exact .inr ha

omit [Trigonometry Rat] in
/-- The strip of an axis runs along one side of the viewport, from end to end. -/
theorem extent_and_offset (h : p.IsPlain) (ha : a ∈ p.family family) {point : Point Rat}
    (hpoint : p.viewport.contains point = true) :
    0 < a.pixelExtent ∧ 0 ≤ a.pixelOffset point ∧ a.pixelOffset point ≤ a.pixelExtent := by
  have hstrip : a.bounds = if a.horizontal then ⟨p.viewport.x, p.viewport.bottom, p.viewport.width, Pane.xStrip⟩
      else ⟨p.viewport.right, p.viewport.y, Pane.yStrip, p.viewport.height⟩ := by
    simp only [h.onStrip family a ha, defaultBounds, h.cartesian]
  obtain ⟨⟨hleft, hright⟩, htop, hbottom⟩ := Rect.contains_iff.1 hpoint
  unfold ChartAxis.pixelExtent ChartAxis.pixelOffset
  cases hhorizontal : a.horizontal with
  | true =>
    rw [hhorizontal] at hstrip
    simp only [hstrip, if_true]
    exact ⟨h.width, sub_nonneg.2 hleft, sub_le_iff_le_add'.2 hright⟩
  | false =>
    rw [hhorizontal] at hstrip
    simp only [hstrip, Bool.false_eq_true, if_false]
    exact ⟨h.height, sub_nonneg.2 htop, sub_le_iff_le_add'.2 hbottom⟩

end Pane.IsPlain

namespace BandSession

variable {p : Pane Rat} {start point : Point Rat} {points : List (Point Rat)}

omit [Decimals Rat] in
theorem clippedCoordinate_cartesian {coordinates : Coordinates Rat} (h : coordinates.system = .cartesian)
    (point : Point Rat) : coordinates.clippedCoordinate point = coordinates.viewport.clampPoint point := by
  simp only [Coordinates.clippedCoordinate, Coordinates.transform, Coordinates.clip, h]

/-- The points in between do not matter. -/
theorem led_follow_cartesian (h : p.system = .cartesian) : (led p start points).follow point =
    ⟨p.coordinates, p.viewport.clampPoint start, p.viewport.clampPoint point⟩ := by
  have hclip (q : Point Rat) : p.coordinates.clippedCoordinate q = p.viewport.clampPoint q :=
    clippedCoordinate_cartesian h q
  have hfollow (previous next : Point Rat) : p.coordinates.follow previous next = next := by
    simp only [Coordinates.follow, Pane.coordinates, h]
  simp only [follow, coordinates_led, first_led, hfollow, hclip]

/-- Both ends of a band stay in the viewport. -/
theorem contains_led (hp : p.IsPlain) (start : Point Rat) (points : List (Point Rat)) :
    p.viewport.contains (led p start points).first = true ∧ p.viewport.contains (led p start points).last = true := by
  have hclamp (q : Point Rat) : p.viewport.contains (p.viewport.clampPoint q) = true :=
    Rect.contains_clampPoint hp.width.le hp.height.le q
  rcases points.eq_nil_or_concat with rfl | ⟨earlier, point, rfl⟩
  · change p.viewport.contains (p.coordinates.clippedCoordinate start) = true ∧
      p.viewport.contains (p.coordinates.clippedCoordinate start) = true
    rw [clippedCoordinate_cartesian hp.cartesian]
    exact ⟨hclamp start, hclamp start⟩
  · rw [List.concat_eq_append, led_concat, led_follow_cartesian hp.cartesian]
    exact ⟨hclamp start, hclamp point⟩

end BandSession

namespace RubberBand

variable {others : Pane Rat → Pane Rat → Prop} {c c' : RubberBand Rat} {p p' : Pane Rat} {press : MouseArgs Rat}
  {points : List (Point Rat)}

omit [Decimals Rat] in
/-- The overlay of a band with both ends in the viewport lies there. -/
theorem draws_in_viewport {s : BandSession Rat} {shape : OverlayShape Rat} {v : Rect Rat}
    (hsurface : s.coordinates = ⟨.cartesian, v⟩) (hheight : 0 ≤ v.height) (hfirst : v.contains s.first = true)
    (hlast : v.contains s.last = true) (h : c.Draws s shape) : ∃ r, shape = .rect r ∧ r.LiesIn v := by
  rcases h with rfl | ⟨point, hs, rfl⟩
  · have hband := Rect.liesIn_ofPoints hfirst hlast
    simp only [hsurface, Coordinates.overlayBetween]
    refine ⟨_, rfl, ?_⟩
    split
    · exact hband.stretched hheight
    · exact hband
  · have hpoint : v.contains (s.coordinates.clippedCoordinate point) = true := by
      rw [hs] at hfirst
      exact hfirst
    simp only [hsurface, Coordinates.pressOverlay]
    rw [hsurface] at hpoint
    exact ⟨_, rfl, Rect.liesIn_point hpoint⟩

omit [Trigonometry Rat] in
/-- On a plain pane a zoom into a band with both ends in the viewport shows what lies between the two. -/
theorem zoom_shows {config : RubberBandConfig Rat} {first last : Point Rat} {family : AxisFamily} {a : ChartAxis Rat}
    (hp : p.IsPlain) (hfirst : p.viewport.contains first = true) (hlast : p.viewport.contains last = true)
    (htarget : Targets config family) (ha : a ∈ p.family family) :
    let under (point : Point Rat) := a.scale.valueAt a.visibleRange (a.pixelOffset point)
    ∃ b, (zoom config ⟨p.coordinates, first, last⟩ p).axis? a.id = some b ∧
      b.visibleRange = .between (under first) (under last) ∧ a.visibleRange.Encloses b.visibleRange := by
  intro under
  have hdirect := hp.direct family a ha
  have hordered : a.visibleRange.IsOrdered := by
    rw [ChartAxis.visibleRange_direct hdirect]
    exact hp.ordered family a ha
  obtain ⟨hextent, hpressed⟩ := hp.extent_and_offset ha hfirst
  obtain ⟨-, hreleased⟩ := hp.extent_and_offset ha hlast
  have hcovered : BandSession.covered ⟨p.coordinates, first, last⟩ family a = .between (under first) (under last) := by
    simp only [BandSession.covered, Pane.coordinates, hp.cartesian]
    exact hordered.zoom hextent _ _
  have hid : a.id ∈ p.axisIds family := by
    rw [Pane.axisIds_eq]
    exact List.mem_map_of_mem ha
  have hshows := ChartAxis.animateTo_shows hdirect (hp.ordered family a ha)
    (Range.isOrdered_between (under first) (under last)) config.animation
  refine ⟨_, ?_, hshows, ?_⟩
  · rw [axis?_zoom hp.distinct htarget hid, hp.axis?_eq ha, Option.map_some, hcovered]
  · rw [hshows]
    exact Range.encloses_between (ChartAxis.valueAt_mem hextent hordered hpressed)
      (ChartAxis.valueAt_mem hextent hordered hreleased)

theorem Dragged.isPlain (hp : p.IsPlain) (hothers : ∀ q r, others q r → q.IsPlain → r.IsPlain)
    (hdrag : Dragged others c p press points c' p') : p'.IsPlain :=
  hdrag.preserves (fun _ _ hchart h => h.sameChart hchart) hothers hp

/-- On a plain Cartesian pane a band is a rectangle in the viewport as long as it is drawn. A release that does not give
it up leaves every axis of the families it zooms with what lies between the values under the press and under the point
of the viewport nearest to the release, a part of what the axis showed at the release. Neither this nor whether the band
is given up depends on the points in between, and others may have written to the axes meanwhile. -/
theorem Dragged.zooms_between_ends (hp : p.IsPlain)
    (hothers : ∀ q r, others q r →
      r.viewport = q.viewport ∧ r.heldBy c.id = q.heldBy c.id ∧ (q.IsPlain → r.IsPlain))
    (hdrag : Dragged others c p press points c' p') :
    (∃ r : Rect Rat, p'.overlay? c.id = some (.rect r) ∧ r.LiesIn p.viewport) ∧
    ∀ up : MouseArgs Rat,
      let nearest := p.viewport.clampPoint up.point
      ((DragEnd.released up).GivesUp c.config (.led p press.point points) ↔
        (press.point - nearest).length < c.config.minDragSensitivity) ∧
      (¬ (DragEnd.released up).GivesUp c.config (.led p press.point points) →
        ∀ family, Targets c.config family → ∀ a ∈ p'.family family,
          let under (point : Point Rat) := a.scale.valueAt a.visibleRange (a.pixelOffset point)
          ∃ b, ((DragEnd.released up).close (.rubberBand c') p').2.axis? a.id = some b ∧
            b.visibleRange = .between (under press.point) (under nearest) ∧ a.visibleRange.Encloses b.visibleRange) := by
  have hsurface : p.coordinates = ⟨.cartesian, p.viewport⟩ := by rw [Pane.coordinates, hp.cartesian]
  constructor
  · obtain ⟨shape, hdraws, hheld⟩ := hdrag.holds_and_draws fun q r hacted => (hothers q r hacted).2.1
    obtain ⟨hfirst, hlast⟩ := BandSession.contains_led hp press.point points
    obtain ⟨r, rfl, hlies⟩ :=
      draws_in_viewport (by rw [BandSession.coordinates_led, hsurface]) hp.height.le hfirst hlast hdraws
    refine ⟨r, ?_, hlies⟩
    rw [Pane.overlay?_eq_heldBy, hheld]
    rfl
  · intro up nearest
    have hends : (BandSession.led p press.point points).follow up.point = ⟨p.coordinates, press.point, nearest⟩ := by
      rw [BandSession.led_follow_cartesian hp.cartesian, Rect.clampPoint_of_contains hdrag.press_mem]
    constructor
    · have hfirst : (BandSession.led p press.point points).first = press.point := congrArg BandSession.first hends
      rw [DragEnd.GivesUp, hends, hfirst, BandSession.coordinates_led, hsurface]
      rfl
    · intro hkept family htarget a ha under
      -- The pane that is written to: the one at the release, without the overlay and free of the pointer.
      let freed := (p'.removeOverlay c.id).release c.id
      have hfreed : p'.SameChart freed := p'.sameChart_freed c.id
      have hplain : freed.IsPlain :=
        (hdrag.isPlain hp fun q r hacted => (hothers q r hacted).2.2).sameChart hfreed
      have hviewport : freed.viewport = p.viewport :=
        (hfreed.view Pane.viewport fun _ _ _ => rfl).trans
          (hdrag.keeps Pane.viewport (fun _ _ _ => rfl) fun q r hacted => (hothers q r hacted).1)
      have hfamily : freed.family family = p'.family family :=
        hfreed.view (·.family family) fun _ _ _ => by cases family <;> rfl
      have hcoordinates : freed.coordinates = p.coordinates := by
        rw [Pane.coordinates, hplain.cartesian, hviewport, hsurface]
      have hstart : freed.viewport.contains press.point = true := hviewport ▸ hdrag.press_mem
      have hnearest : freed.viewport.contains nearest = true := by
        rw [hviewport]
        exact Rect.contains_clampPoint hp.width.le hp.height.le up.point
      rw [hdrag.close_of_not_givesUp hkept, BandSession.led_concat, hends, ← hcoordinates]
      exact zoom_shows hplain hstart hnearest htarget (hfamily ▸ ha)

end RubberBand

end Cartesian

/-- Over a pane with a flipped vertical axis, led out at the left and let go beyond the right edge. -/
theorem RubberBand.Dragged.zooms_between_ends_outside :
    let _ : Trigonometry Rat := .alongAxes
    let empty : Pane Rat := .new ⟨0, 0, 400, 300⟩ .cartesian
    let x : ChartAxis Rat := .new "x" true (.double (.new 0 100))
    let y : ChartAxis Rat := { ChartAxis.new "y" false (.double (.new 0 30)) with flip := true }
    let onX := { x with bounds := empty.defaultBounds .x x }
    let onY := { y with bounds := empty.defaultBounds .y y }
    let p : Pane Rat := { empty with xAxes := [onX], yAxes := [onY] }
    let pressed := (RubberBand.new 0 .default).mouseDown (.new ⟨100, 75⟩ .onlyLeft 0) p
    let moved := pressed.controller.mouseMove (.new ⟨-50, 900⟩ .onlyLeft 5) pressed.pane
    let closed := (DragEnd.released (.new ⟨450, 225⟩ .onlyLeft 9)).close (.rubberBand moved.controller) moved.pane
    p.IsPlain ∧ (∃ r : Rect Rat, moved.pane.overlay? 0 = some (.rect r) ∧ r.LiesIn p.viewport) ∧
      (closed.2.axis? "x").map (·.visibleRange) = some (.between 25 100) ∧
      (closed.2.axis? "y").map (·.visibleRange) = some (.between 7.5 22.5) := by
  intro _ empty x y onX onY p pressed moved closed
  have hfamily {P : AxisFamily → ChartAxis Rat → Prop} (hx : P .x onX) (hy : P .y onY) :
      ∀ family, ∀ a ∈ p.family family, P family a := by
    intro family a ha
    cases family with
    | x => rwa [List.mem_singleton.1 ha]
    | y => rwa [List.mem_singleton.1 ha]
  have hplain : p.IsPlain := {
    cartesian := rfl
    width := by decide +kernel
    height := by decide +kernel
    distinct := by decide
    ordered := hfamily (P := fun _ a => a.visible.IsOrdered) (Range.isOrdered_between 0 100) (Range.isOrdered_between 0 30)
    direct := hfamily (P := fun _ a => a.autoRange ≠ .always) (by decide) (by decide)
    onStrip := hfamily (P := fun family a => a.bounds = p.defaultBounds family a) rfl rfl }
  have hdrag : Dragged (fun _ _ => False) (.new 0 .default) p (.new ⟨100, 75⟩ .onlyLeft 0) [⟨-50, 900⟩]
      moved.controller moved.pane :=
    .moved (.new ⟨-50, 900⟩ .onlyLeft 5) (.pressed rfl (by decide +kernel))
  obtain ⟨hoverlay, hzooms⟩ := hdrag.zooms_between_ends hplain fun _ _ hnobody => hnobody.elim
  have hkept : ¬ (DragEnd.released (.new ⟨450, 225⟩ .onlyLeft 9)).GivesUp .default
      (.led p ⟨100, 75⟩ [⟨-50, 900⟩]) := by
    decide +kernel
  have hended := (hzooms (.new ⟨450, 225⟩ .onlyLeft 9)).2 hkept
  have hx : moved.pane.family .x = [onX] := hdrag.keeps Pane.xAxes (fun _ _ _ => rfl) fun _ _ hnobody => hnobody.elim
  have hy : moved.pane.family .y = [onY] := hdrag.keeps Pane.yAxes (fun _ _ _ => rfl) fun _ _ hnobody => hnobody.elim
  obtain ⟨b, hb, hshows, -⟩ := hended .x (.inl rfl) onX (hx ▸ List.mem_singleton_self onX)
  obtain ⟨b', hb', hshows', -⟩ := hended .y (.inr rfl) onY (hy ▸ List.mem_singleton_self onY)
  refine ⟨hplain, hoverlay, ?_, ?_⟩
  · refine (congrArg (Option.map _) hb).trans (congrArg some (hshows.trans ?_))
    exact congrArg₂ Range.between (by decide +kernel) (by decide +kernel)
  · refine (congrArg (Option.map _) hb').trans (congrArg some (hshows'.trans ?_))
    exact congrArg₂ Range.between (by decide +kernel) (by decide +kernel)

end ChartGestures
