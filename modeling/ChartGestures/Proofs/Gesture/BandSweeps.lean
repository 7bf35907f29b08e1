import ChartGestures.Number.ExactDecimal
import ChartGestures.Proofs.Gesture.BandZooms

/-!
# Sweeps of a polar rubber band

The moving end of a polar band is unwrapped: each new direction is taken next to where the band stands, so that the band
may sweep over any number of turns. The sector that is drawn and the part of the axes that is zoomed into follow that
sweep. Whether a release gives the band up is decided by the shortest way between its two ends instead, so that a band
is also given up whose sweep comes close to whole turns.
-/

namespace ChartGestures

/-- Where a band stands that began at an angle and was led through directions. -/
def unwrapped (start : Rat) (directions : List Rat) : Rat :=
  directions.foldl (fun angle direction => angle + angleDelta angle direction) start

section Polar

variable [Decimals Rat] [Trigonometry Rat]

namespace BandSession

variable {s : BandSession Rat} {p : Pane Rat}

omit [Decimals Rat] in
theorem last_follow_polar (h : s.coordinates.system = .polar) (point : Point Rat) :
    (s.follow point).last =
      ⟨s.last.x + angleDelta s.last.x (s.coordinates.clippedCoordinate point).x,
        (s.coordinates.clippedCoordinate point).y⟩ := by
  simp only [follow, Coordinates.follow, h]

omit [Decimals Rat] in
theorem last_along_polar (h : s.coordinates.system = .polar) (points : List (Point Rat)) :
    (s.along points).last.x = unwrapped s.last.x (points.map fun q => (s.coordinates.clippedCoordinate q).x) := by
  induction points generalizing s with
  | nil => rfl
  | cons point rest ih =>
    have hrest := ih (s := s.follow point) h
    rw [last_follow_polar h] at hrest
    exact hrest

theorem last_led_polar (h : p.system = .polar) (start : Point Rat) (points : List (Point Rat)) :
    (led p start points).last.x = unwrapped (p.coordinates.clippedCoordinate start).x
      (points.map fun q => (p.coordinates.clippedCoordinate q).x) :=
  last_along_polar (s := .begin p.coordinates start) h points

end BandSession

omit [Decimals Rat] in
/-- A release gives a polar band up that has swept less than the sensitivity away from a number of whole turns. -/
theorem DragEnd.givesUp_polar_iff {config : RubberBandConfig Rat} {s : BandSession Rat}
    (h : s.coordinates.system = .polar) (up : MouseArgs Rat) :
    (released up).GivesUp config s ↔
      ∃ turns : Int, |(s.follow up.point).last.x - s.first.x - 360 * turns| < config.minDragSensitivity := by
  simp only [GivesUp, Coordinates.distance, h, Scalar.abs_eq]
  exact abs_angleDelta_lt_iff

namespace RubberBand

variable {others : Pane Rat → Pane Rat → Prop} {c c' : RubberBand Rat} {p p' : Pane Rat} {press : MouseArgs Rat}
  {points : List (Point Rat)} {s : BandSession Rat}

omit [Decimals Rat] in
/-- The overlay of a polar band is the sector between its two ends. -/
theorem draws_sector {shape : OverlayShape Rat} (hpolar : s.coordinates.system = .polar) (h : c.Draws s shape) :
    ∃ sector, shape = .annulus sector ∧ sector.startAngle = s.first.x ∧ sector.endAngle = s.last.x := by
  rcases h with rfl | ⟨point, hs, rfl⟩
  · simp only [Coordinates.overlayBetween, hpolar]
    split <;> exact ⟨_, rfl, rfl, rfl⟩
  · have hends : s.first.x = (s.coordinates.clippedCoordinate point).x ∧
        s.last.x = (s.coordinates.clippedCoordinate point).x := by
      rw [hs]
      exact ⟨rfl, rfl⟩
    simp only [Coordinates.pressOverlay, hpolar]
    exact ⟨_, rfl, hends.1.symm, hends.2.symm⟩

omit [Trigonometry Rat] in
/-- A zoom of an angle axis shows what lies between the two ends, a whole turn being all that it showed. -/
theorem zoom_shows_angles (config : RubberBandConfig Rat) {a : ChartAxis Rat} (hpolar : s.coordinates.system = .polar)
    (hdistinct : (p.axisIds .x ++ p.axisIds .y).Nodup) (ha : a ∈ p.xAxes) (hordered : a.visible.IsOrdered)
    (hdirect : a.autoRange ≠ .always) :
    let turn : PixelScale Rat := ⟨360, true⟩
    ∃ b, (zoom config s p).axis? a.id = some b ∧
      b.visibleRange = .between (turn.valueAt a.visibleRange s.first.x) (turn.valueAt a.visibleRange s.last.x) := by
  intro turn
  have hshown : a.visibleRange.IsOrdered := by
    rw [ChartAxis.visibleRange_direct hdirect]
    exact hordered
  have hcovered : s.covered .x a =
      .between (turn.valueAt a.visibleRange s.first.x) (turn.valueAt a.visibleRange s.last.x) := by
    simp only [BandSession.covered, Coordinates.extent, hpolar]
    exact hshown.zoom (by norm_num) _ _
  have hfound : p.axis? a.id = some a :=
    Pane.axis?_of_mem (by rw [Pane.axes, List.map_append]; exact hdistinct) (List.mem_append_left _ ha)
  refine ⟨_, ?_, ChartAxis.animateTo_shows hdirect hordered (Range.isOrdered_between _ _) config.animation⟩
  rw [axis?_zoom hdistinct (.inl rfl) (List.mem_map_of_mem ha), hfound, Option.map_some, hcovered]

/-- A polar band stands where its directions lead from the press, each taken next to the one before. The sector that is
drawn ends there, and a release zooms into just that sector unless it has swept less than the sensitivity away from a
number of whole turns. What it has swept decides by itself as long as it leaves the sensitivity to a whole turn. -/
theorem Dragged.zooms_off_whole_turns (hpolar : p.system = .polar)
    (hothers : ∀ q r, others q r → r.heldBy c.id = q.heldBy c.id)
    (hdrag : Dragged others c p press points c' p') (up : MouseArgs Rat) :
    let angle (point : Point Rat) := (p.coordinates.clippedCoordinate point).x
    let start := angle press.point
    let finish := unwrapped start ((points ++ [up.point]).map angle)
    let turn : PixelScale Rat := ⟨360, true⟩
    let sensitivity := c.config.minDragSensitivity
    let zooms := ∀ turns : Int, sensitivity ≤ |finish - start - 360 * turns|
    let freed := (p'.removeOverlay c.id).release c.id
    let closed := ((DragEnd.released up).close (.rubberBand c') p').2
    (∃ sector, p'.overlay? c.id = some (.annulus sector) ∧ sector.startAngle = start ∧
      sector.endAngle = unwrapped start (points.map angle)) ∧
    (zooms → closed = zoom c.config (.led p press.point (points ++ [up.point])) freed ∧
      ((p'.axisIds .x ++ p'.axisIds .y).Nodup → ∀ a ∈ p'.xAxes, a.visible.IsOrdered → a.autoRange ≠ .always →
        ∃ b, closed.axis? a.id = some b ∧
          b.visibleRange = .between (turn.valueAt a.visibleRange start) (turn.valueAt a.visibleRange finish))) ∧
    (¬ zooms → closed = freed ∧ closed.xAxes = p'.xAxes ∧ closed.yAxes = p'.yAxes) ∧
    (|finish - start| ≤ 360 - sensitivity → (zooms ↔ sensitivity ≤ |finish - start|)) := by
  intro angle start finish turn sensitivity zooms freed closed
  have hlast (points : List (Point Rat)) :
      (BandSession.led p press.point points).last.x = unwrapped start (points.map angle) :=
    BandSession.last_led_polar hpolar press.point points
  have hsurface (points : List (Point Rat)) : (BandSession.led p press.point points).coordinates.system = .polar := by
    rw [BandSession.coordinates_led]
    exact hpolar
  have hfirst (points : List (Point Rat)) : (BandSession.led p press.point points).first.x = start := by
    rw [BandSession.first_led]
  have hgives : (DragEnd.released up).GivesUp c.config (.led p press.point points) ↔ ¬ zooms := by
    rw [DragEnd.givesUp_polar_iff (hsurface points), ← BandSession.led_concat, hlast, hfirst]
    simp only [zooms, not_forall, not_le]
    rfl
  have hfreed : p'.SameChart freed := p'.sameChart_freed c.id
  have hxAxes : freed.xAxes = p'.xAxes := hfreed.view Pane.xAxes fun _ _ _ => rfl
  have hyAxes : freed.yAxes = p'.yAxes := hfreed.view Pane.yAxes fun _ _ _ => rfl
  refine ⟨?_, fun hzooms => ?_, fun hnot => ?_, fun hrest => ⟨fun hzooms => ?_, fun hfar => ?_⟩⟩
  · obtain ⟨shape, hdraws, hheld⟩ := hdrag.holds_and_draws hothers
    obtain ⟨sector, rfl, hstarts, hends⟩ := draws_sector (hsurface points) hdraws
    refine ⟨sector, ?_, hstarts.trans (hfirst points), hends.trans (hlast points)⟩
    rw [Pane.overlay?_eq_heldBy, hheld]
    rfl
  · have hclosed : closed = zoom c.config (.led p press.point (points ++ [up.point])) freed :=
      hdrag.close_of_not_givesUp (mt hgives.1 (not_not_intro hzooms))
    refine ⟨hclosed, fun hdistinct a ha hordered hdirect => ?_⟩
    have hids : (freed.axisIds .x ++ freed.axisIds .y).Nodup := by
      simpa only [Pane.axisIds_eq, Pane.family, hxAxes, hyAxes] using hdistinct
    have hshows := zoom_shows_angles c.config (hsurface (points ++ [up.point])) hids (hxAxes ▸ ha) hordered hdirect
    rwa [hfirst, hlast, ← hclosed] at hshows
  · have hclosed : closed = freed := congrArg Prod.snd (hdrag.close_of_givesUp (hgives.2 hnot))
    rw [hclosed]
    exact ⟨rfl, hxAxes, hyAxes⟩
  · have hnone := hzooms 0
    rwa [Int.cast_zero, mul_zero, sub_zero] at hnone
  · exact le_abs_sub_turns hfar (by linarith)

end RubberBand

end Polar

namespace RubberBand

/-- Three quarters of a turn from straight down, over zero degrees. -/
theorem Dragged.zooms_off_whole_turns_three_quarters :
    let _ : Trigonometry Rat := .alongAxes
    let x : ChartAxis Rat := .new "angle" true (.double (.new 0 360))
    let p : Pane Rat := { Pane.new ⟨0, 0, 400, 400⟩ .polar with xAxes := [x] }
    let pressed := (RubberBand.new 0 .default).mouseDown (.new ⟨200, 300⟩ .onlyLeft 0) p
    let left := pressed.controller.mouseMove (.new ⟨100, 200⟩ .onlyLeft 1) pressed.pane
    let above := left.controller.mouseMove (.new ⟨200, 100⟩ .onlyLeft 2) left.pane
    let closed := (DragEnd.released (.new ⟨300, 200⟩ .onlyLeft 3)).close (.rubberBand above.controller) above.pane
    (∃ sector, above.pane.overlay? 0 = some (.annulus sector) ∧ sector.startAngle = 90 ∧ sector.endAngle = 270) ∧
      (closed.2.axis? "angle").map (·.visibleRange) = some (.between 90 360) := by
  intro _ x p pressed left above closed
  have hdrag : Dragged (fun _ _ => False) (.new 0 .default) p (.new ⟨200, 300⟩ .onlyLeft 0) [⟨100, 200⟩, ⟨200, 100⟩]
      above.controller above.pane :=
    .moved (.new ⟨200, 100⟩ .onlyLeft 2) (.moved (.new ⟨100, 200⟩ .onlyLeft 1) (.pressed rfl (by decide +kernel)))
  obtain ⟨⟨sector, hsector, hstart, hend⟩, hzooms, -, hiff⟩ :=
    hdrag.zooms_off_whole_turns rfl (fun _ _ hnobody => hnobody.elim) (.new ⟨300, 200⟩ .onlyLeft 3)
  have hx : above.pane.xAxes = [x] := hdrag.keeps Pane.xAxes (fun _ _ _ => rfl) fun _ _ hnobody => hnobody.elim
  have hfar := (hiff (by decide +kernel)).2 (by decide +kernel)
  obtain ⟨b, hb, hshows⟩ :=
    (hzooms hfar).2 (by decide +kernel) x (hx ▸ List.mem_singleton_self x) (Range.isOrdered_between 0 360) (by decide)
  refine ⟨⟨sector, hsector, hstart.trans (by decide +kernel), hend.trans (by decide +kernel)⟩, ?_⟩
  refine (congrArg (Option.map _) hb).trans (congrArg some (hshows.trans ?_))
  exact congrArg₂ Range.between (by decide +kernel) (by decide +kernel)

/-- Once around and a little further out: the band stands a whole turn from its press, far beyond the sensitivity, and
would be zoomed into from there, but it is given up. -/
theorem whole_turn_given_up :
    let _ : Trigonometry Rat := .alongAxes
    let x : ChartAxis Rat := .new "angle" true (.double (.new 0 360))
    let y : ChartAxis Rat := .new "radius" true (.double (.new 0 100))
    let p : Pane Rat := { Pane.new ⟨0, 0, 400, 400⟩ .polar with xAxes := [x], yAxes := [y] }
    let c : RubberBand Rat := .new 0 .default
    let pressed := c.mouseDown (.new ⟨200, 300⟩ .onlyLeft 0) p
    let left := pressed.controller.mouseMove (.new ⟨100, 200⟩ .onlyLeft 1) pressed.pane
    let above := left.controller.mouseMove (.new ⟨200, 100⟩ .onlyLeft 2) left.pane
    let right := above.controller.mouseMove (.new ⟨300, 200⟩ .onlyLeft 3) above.pane
    let closed := (DragEnd.released (.new ⟨200, 350⟩ .onlyLeft 4)).close (.rubberBand right.controller) right.pane
    let band : BandSession Rat := .led p ⟨200, 300⟩ [⟨100, 200⟩, ⟨200, 100⟩, ⟨300, 200⟩, ⟨200, 350⟩]
    let shown (p : Pane Rat) := p.axes.map (·.visibleRange.preciseBounds)
    c.config.minDragSensitivity ≤ |band.last.x - band.first.x| ∧ shown (zoom c.config band p) = [(90, 450), (50, 75)] ∧
      shown closed.2 = [(0, 360), (0, 100)] := by
  refine ⟨?_, ?_, ?_⟩ <;> decide +kernel

end RubberBand

end ChartGestures
