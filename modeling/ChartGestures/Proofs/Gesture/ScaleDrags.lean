import ChartGestures.Number.ExactDecimal
import ChartGestures.Proofs.Gesture.AnchoredZooms
import ChartGestures.Proofs.Gesture.CategoryDrags
import ChartGestures.Proofs.Gesture.Polling
import ChartGestures.Proofs.Gesture.StickyPans

/-!
# Scale drags and the other bound

A drag that scales takes one bound of the axis along with the pointer, the one of the half that was pressed. Over exact
numbers each move multiplies the distance of the two bounds by a factor of pixels alone, its stretch. As long as no
stretch turns that distance over, the other bound stays as it was at the press. A bound that is pulled past the other
changes places with it, since a range puts its bounds in order, and then the other bound is no longer there.
-/

namespace ChartGestures

open Scalar

/-! ### Pulling one bound -/

namespace Range

variable [Decimals Rat] {v w : Interval (Domain.double (α := Rat))} {half : DragHalf} {distance : Rat}

/-- The bound that a half leaves alone. -/
def otherBound (r : Range Rat) : DragHalf → Rat
  | .near => r.preciseBounds.2
  | .far => r.preciseBounds.1

/-- The bound of one half as far away from the other one as `distance`, on its own side if that is not negative. -/
def pulled (v : Interval (Domain.double (α := Rat))) (half : DragHalf) (distance : Rat) : Range Rat :=
  match half with
  | .near => between (v.max - distance) v.max
  | .far => between v.min (v.min + distance)

theorem double_of_kind {r : Range Rat} (h : r.kind = .double) : r = .double ⟨r.preciseBounds.1, r.preciseBounds.2⟩ := by
  cases r with
  | double v => rfl
  | _ v => cases h

theorem isOrdered_pulled (v : Interval (Domain.double (α := Rat))) (half : DragHalf) (distance : Rat) :
    (pulled v half distance).IsOrdered := by
  cases half <;> exact isOrdered_between ..

theorem exists_eq_pulled (v : Interval (Domain.double (α := Rat))) (half : DragHalf) (distance : Rat) :
    ∃ w, double w = pulled v half distance := by
  obtain ⟨lo, hi, -, h⟩ := isOrdered_pulled v half distance
  exact ⟨⟨lo, hi⟩, h.symm⟩

/-- Pulled on its own side, a bound leaves the other one. -/
theorem pulled_of_nonneg (h : 0 ≤ distance) : pulled v half distance =
    match half with
    | .near => .double ⟨v.max - distance, v.max⟩
    | .far => .double ⟨v.min, v.min + distance⟩ := by
  cases half with
  | near => exact between_of_le (sub_le_self _ h)
  | far => exact between_of_le (le_add_of_nonneg_right h)

/-- Pulled past the other one, a bound changes places with it. -/
theorem pulled_of_neg (h : distance < 0) : pulled v half distance =
    match half with
    | .near => .double ⟨v.max, v.max - distance⟩
    | .far => .double ⟨v.min + distance, v.min⟩ := by
  cases half with
  | near => exact between_of_lt (lt_sub_iff_add_lt.2 (add_lt_iff_neg_left.2 h))
  | far => exact between_of_lt (add_lt_iff_neg_left.2 h)

theorem otherBound_pulled_iff :
    (pulled v half distance).otherBound half = (double v).otherBound half ↔ 0 ≤ distance := by
  constructor
  · intro h
    by_contra hpast
    have hneg : distance < 0 := not_le.1 hpast
    rw [pulled_of_neg hneg] at h
    cases half with
    | near =>
      have hmax : v.max - distance = v.max := h
      linarith
    | far =>
      have hmin : v.min + distance = v.min := h
      linarith
  · intro h
    rw [pulled_of_nonneg h]
    cases half <;> rfl

/-- Only where the other bound is matters to what a pull leads to. -/
theorem pulled_congr (h : (double w).otherBound half = (double v).otherBound half) (distance : Rat) :
    pulled w half distance = pulled v half distance := by
  cases half with
  | near =>
    have hmax : w.max = v.max := h
    rw [pulled, pulled, hmax]
  | far =>
    have hmin : w.min = v.min := h
    rw [pulled, pulled, hmin]

theorem span_pulled (h : 0 ≤ distance) : (pulled v half distance).span = distance := by
  rw [pulled_of_nonneg h]
  cases half with
  | near => exact sub_sub_cancel _ _
  | far => exact add_sub_cancel_left _ _

/-- The two bounds are as far apart as they are. -/
theorem pulled_span (h : v.min ≤ v.max) (half : DragHalf) : pulled v half (v.max - v.min) = double v := by
  rw [pulled_of_nonneg (sub_nonneg.2 h)]
  cases half with
  | near => exact congrArg (fun x => double ⟨x, v.max⟩) (sub_sub_cancel _ _)
  | far => exact congrArg (fun x => double ⟨v.min, x⟩) (add_sub_cancel _ _)

end Range

namespace ChartAxis

variable [Decimals Rat] {a : ChartAxis Rat} {v : Interval (Domain.double (α := Rat))} {half : DragHalf}
  {start : Point Rat} {points : List (Point Rat)}

/-- What the distance of the bounds is multiplied by when the pointer takes the bound of a half along its way. -/
def stretch (a : ChartAxis Rat) (half : DragHalf) (way : Point Rat) : Rat :=
  let outward := match half with
    | .near => a.isIncreasing
    | .far => !a.isIncreasing
  if outward then 1 + a.pixelComponent way / a.pixelExtent else 1 - a.pixelComponent way / a.pixelExtent

/-- What the distance has been multiplied by after the points of a drag from `start`, if it was never negative before
the last. A category axis goes straight from the start to the last point, any other one from point to point. -/
def reach (a : ChartAxis Rat) (half : DragHalf) (start : Point Rat) (points : List (Point Rat)) : Rat :=
  if a.category then a.stretch half (points.getLastD start - start)
  else (List.zipWith (fun p q => a.stretch half (q - p)) (start :: points) points).prod

/-- At no point the bound is past the other one. -/
def StaysBehind (a : ChartAxis Rat) (half : DragHalf) (start : Point Rat) (points : List (Point Rat)) : Prop :=
  ∀ k, 0 ≤ a.reach half start (points.take k)

theorem scrollHalf_eq_pulled (hextent : 0 < a.pixelExtent) (v : Interval (Domain.double (α := Rat))) (half : DragHalf)
    (way : Point Rat) : a.scale.scrollHalf (.double v) (a.pixelComponent way) half =
      .pulled v half ((v.max - v.min) * a.stretch half way) := by
  have hready : a.scale.isDegenerate = false := PixelScale.not_isDegenerate hextent
  have hlike (x y : Rat) : (Range.double v).like x y = .between x y := Range.ofCanonical_exact x y
  have hoffset : a.scale.valueOffset (.double v) (a.pixelComponent way) =
      if a.isIncreasing then -a.pixelComponent way * ((v.max - v.min) / a.pixelExtent)
      else a.pixelComponent way * ((v.max - v.min) / a.pixelExtent) := rfl
  cases half with
  | near =>
    have hmin : v.min + a.scale.valueOffset (.double v) (a.pixelComponent way) =
        v.max - (v.max - v.min) * a.stretch .near way := by
      rw [hoffset, stretch]
      cases a.isIncreasing <;> simp only [Bool.false_eq_true, if_true, if_false] <;> ring
    rw [PixelScale.scrollHalf, PixelScale.scrollMin, hready, if_neg Bool.false_ne_true, hlike, Range.pulled, ← hmin]
    rfl
  | far =>
    have hmax : v.max + a.scale.valueOffset (.double v) (a.pixelComponent way) =
        v.min + (v.max - v.min) * a.stretch .far way := by
      rw [hoffset, stretch]
      cases a.isIncreasing <;> simp only [Bool.not_true, Bool.not_false, Bool.false_eq_true, if_true, if_false] <;> ring
    rw [PixelScale.scrollHalf, PixelScale.scrollMax, hready, if_neg Bool.false_ne_true, hlike, Range.pulled, ← hmax]
    rfl

/-- An axis of numbers shows the numbers written to it. -/
theorem setVisible_ordered (hdirect : a.autoRange ≠ .always) (hkind : a.visible.kind = .double) {r : Range Rat}
    (hr : r.IsOrdered) : (a.setVisible r).axis = { a with visible := r } := by
  obtain ⟨lo, hi, hle, rfl⟩ := hr
  obtain ⟨w, hw, hwkind, hbounds⟩ := setVisible_shows (r := .double ⟨lo, hi⟩) hdirect (.inl hkind) hle
  rw [hw, Range.double_of_kind (hwkind.trans hkind), hbounds]
  rfl

theorem stretch_self (a : ChartAxis Rat) (half : DragHalf) (p : Point Rat) : a.stretch half (p - p) = 1 := by
  unfold stretch
  rw [pixelComponent_sub, sub_self, zero_div, add_zero, sub_zero, ite_self]

theorem reach_nil : a.reach half start [] = 1 := by
  unfold reach
  split
  · exact a.stretch_self half start
  · rfl

omit [Decimals Rat] in
theorem zipWith_concat {β γ : Type} (f : β → β → γ) (start : β) (xs : List β) (last : β) :
    List.zipWith f (start :: (xs ++ [last])) (xs ++ [last]) =
      List.zipWith f (start :: xs) xs ++ [f (xs.getLastD start) last] := by
  induction xs generalizing start with
  | nil => rfl
  | cons x xs ih =>
    rw [List.getLastD_cons, List.cons_append, List.zipWith_cons_cons, List.zipWith_cons_cons, ih x, List.cons_append]

theorem reach_concat (points : List (Point Rat)) (last : Point Rat) : a.reach half start (points ++ [last]) =
    if a.category then a.stretch half (last - start)
    else a.reach half start points * a.stretch half (last - points.getLastD start) := by
  unfold reach
  split
  · rw [List.getLastD_concat]
  · rw [zipWith_concat, List.prod_append, List.prod_singleton]

omit [Decimals Rat] in
/-- What holds of all that a list starts with, and of the list with one more. -/
theorem forall_take_concat {β : Type} {P : List β → Prop} {xs : List β} {last : β} :
    (∀ k, P ((xs ++ [last]).take k)) ↔ (∀ k, P (xs.take k)) ∧ P (xs ++ [last]) := by
  constructor
  · intro h
    refine ⟨fun k => ?_, ?_⟩
    · have hk := h (min k xs.length)
      rw [List.take_append_of_le_length (min_le_right _ _)] at hk
      rcases le_total k xs.length with hle | hle
      · rwa [min_eq_left hle] at hk
      · rw [List.take_of_length_le hle]
        rwa [min_eq_right hle, List.take_length] at hk
    · have hall := h (xs ++ [last]).length
      rwa [List.take_length] at hall
  · rintro ⟨hxs, hlast⟩ k
    rcases Nat.lt_or_ge xs.length k with hlt | hle
    · rw [List.take_of_length_le (by simpa using hlt)]
      exact hlast
    · rw [List.take_append_of_le_length hle]
      exact hxs k

theorem staysBehind_nil : a.StaysBehind half start [] := by
  intro k
  rw [List.take_nil, reach_nil]
  exact zero_le_one

theorem staysBehind_concat {last : Point Rat} :
    a.StaysBehind half start (points ++ [last]) ↔
      a.StaysBehind half start points ∧ 0 ≤ a.reach half start (points ++ [last]) :=
  forall_take_concat (P := fun points => 0 ≤ a.reach half start points)

theorem StaysBehind.reach_nonneg (h : a.StaysBehind half start points) : 0 ≤ a.reach half start points := by
  have hall := h points.length
  rwa [List.take_length] at hall

/-- The near half is the lower half of what the axis shows. -/
theorem halfAt_eq_near_iff (hextent : 0 < a.pixelExtent) (hv : v.min < v.max) (p : Point Rat) :
    a.halfAt p = .near ↔ a.scale.valueAt (.double v) (a.pixelOffset p) ≤ (v.min + v.max) / 2 := by
  have hhalf : a.halfAt p = .ofFraction (a.share p) := by
    rw [halfAt, if_neg (not_le.2 hextent), share]
  have hvalue : a.scale.valueAt (.double v) (a.pixelOffset p) = v.min + a.share p * (v.max - v.min) :=
    valueAt_pixelOffset hextent (.double v) p
  have hmiddle : (0.5 : Rat) = 1 / 2 := by norm_num
  rw [hhalf, hvalue, DragHalf.ofFraction, hmiddle]
  have hspan : 0 < v.max - v.min := sub_pos.2 hv
  split
  · next hfar =>
    refine iff_of_false DragHalf.noConfusion (not_le.2 ?_)
    nlinarith
  · next hnear =>
    refine iff_of_true rfl ?_
    nlinarith

end ChartAxis

/-! ### The drag -/

/-- A watch that has just been asked has seen nothing. -/
theorem Notifier.takeExternal_again {α : Type} [Scalar α] [Decimals α] (n : Notifier α) (owner : OwnerId) :
    ((n.takeExternal owner).2.takeExternal owner).1 = false := by
  have hlookup : (n.takeExternal owner).2.observers.lookup (.watch owner) =
      (n.observers.lookup (.watch owner)).map _ := lookup_updateObserver n (.watch owner) _
  rw [takeExternal, hlookup]
  cases n.observers.lookup (.watch owner) with
  | none => rfl
  | some o => cases o <;> rfl

namespace AxisDrag

/-- The controller and the pane after a press and then moves. -/
def dragged {α : Type} [Scalar α] [Decimals α] (c : AxisDrag α) (p : Pane α) (press : MouseArgs α)
    (moves : List (MouseArgs α)) : Reaction α (AxisDrag α) :=
  moves.foldl (fun r args => r.controller.mouseMove args r.pane) (c.mouseDown press p)

section

variable [Decimals Rat] {c : AxisDrag Rat} {p : Pane Rat} {a : ChartAxis Rat}
  {v₀ v : Interval (Domain.double (α := Rat))} {half : DragHalf} {start last : Point Rat} {press : MouseArgs Rat}

/-- The drag scales the axis `a`, which showed `v₀` at the press and shows `v` now, and nobody else has been seen to
change it. -/
structure Scales (r : Reaction Rat (AxisDrag Rat)) (a : ChartAxis Rat) (half : DragHalf) (start last : Point Rat)
    (v₀ v : Interval (Domain.double (α := Rat))) : Prop where
  mode : r.controller.config.dragMode = .scale
  clip : r.controller.config.clipMode = .none
  session : r.controller.session = some ⟨a.id, half, start, last, .double v₀⟩
  axis : r.pane.axis? a.id = some { a with visible := .double v }
  quiet : (r.pane.takeExternal r.controller.id).1 = false

/-- A move leaves the watch with nothing seen, be it subscribed or not. -/
theorem quiet_mouseMove (h : c.isDragging = true) (args : MouseArgs Rat) :
    ((c.mouseMove args p).pane.takeExternal (c.mouseMove args p).controller.id).1 = false := by
  obtain ⟨s, hs⟩ := Option.isSome_iff_exists.1 h
  let t := rebase s (p.takeExternal c.id).1 p
  have hbegun := Notifier.ownsWrites_begin p.notifier c.id
  have hwritten := Pane.ownsWrites_suspended_writeAll
    (p := { p with notifier := (p.notifier.takeExternal c.id).2.beginOwnWrites c.id }) hbegun
    [(t.axisId, drag c.config t args.point)]
  have hquiet := hwritten.quiet
  rw [mouseMove, hs]
  exact hquiet

/-- What a scale makes of an axis that shows `v`. -/
def scaled (a : ChartAxis Rat) (half : DragHalf) (start last point : Point Rat)
    (v₀ v : Interval (Domain.double (α := Rat))) : Range Rat :=
  if a.category then .pulled v₀ half ((v₀.max - v₀.min) * a.stretch half (point - start))
  else .pulled v half ((v.max - v.min) * a.stretch half (point - last))

theorem drag_scale {config : AxisDragConfig Rat} (hmode : config.dragMode = .scale) (hclip : config.clipMode = .none)
    (hdirect : a.autoRange ≠ .always) (hextent : 0 < a.pixelExtent) (hvisible : a.visible = .double v)
    (point : Point Rat) :
    (drag config ⟨a.id, half, start, last, .double v₀⟩ point a).axis =
      { a with visible := scaled a half start last point v₀ v } := by
  have hwrites (base : Interval (Domain.double (α := Rat))) (way : Point Rat)
      (rescroll : DragHalf → Option (Range Rat)) :
      (a.setVisible ((a.scale.scrollHalf (.double base) (a.pixelComponent way) half).clipScaled a.data .none half
        rescroll)).axis = { a with visible := .pulled base half ((base.max - base.min) * a.stretch half way) } := by
    rw [Range.clipScaled, if_pos (.inl rfl), ChartAxis.scrollHalf_eq_pulled hextent]
    exact ChartAxis.setVisible_ordered hdirect (hvisible ▸ rfl) (Range.isOrdered_pulled ..)
  rw [drag, scaled, hmode, hclip]
  by_cases hcategory : a.category = true
  · rw [if_pos hcategory, if_pos hcategory]
    dsimp only
    rw [if_neg hdirect]
    exact hwrites v₀ (point - start) _
  · rw [if_neg hcategory, if_neg hcategory, ChartAxis.visibleRange_direct hdirect, hvisible]
    dsimp only
    rw [if_neg hdirect]
    exact hwrites v (point - last) _

theorem Scales.move {r : Reaction Rat (AxisDrag Rat)} (h : Scales r a half start last v₀ v)
    (hdirect : a.autoRange ≠ .always) (hextent : 0 < a.pixelExtent) (args : MouseArgs Rat) :
    ∃ w, .double w = scaled a half start last args.point v₀ v ∧
      Scales (r.controller.mouseMove args r.pane) a half start args.point v₀ w := by
  obtain ⟨w, hw⟩ : ∃ w, .double w = scaled a half start last args.point v₀ v := by
    unfold scaled
    split <;> exact Range.exists_eq_pulled ..
  have hrebase : rebase ⟨a.id, half, start, last, .double v₀⟩ (r.pane.takeExternal r.controller.id).1 r.pane =
      ⟨a.id, half, start, last, .double v₀⟩ := by
    rw [h.quiet, rebase_of_axis h.axis, if_neg Bool.false_ne_true]
  have hcontroller := controller_mouseMove h.session h.axis args
  rw [hrebase] at hcontroller
  refine ⟨w, hw, ?_, ?_, ?_, ?_, ?_⟩
  · rw [hcontroller]
    exact h.mode
  · rw [hcontroller]
    exact h.clip
  · rw [hcontroller]
  · rw [axis?_mouseMove h.session, hrebase, h.axis, Option.map_some, hw]
    exact congrArg some (drag_scale (a := { a with visible := .double v }) h.mode h.clip hdirect hextent rfl args.point)
  · exact quiet_mouseMove (Option.isSome_iff_exists.2 ⟨_, h.session⟩) args

/-- A move on from where the bounds are as far apart as the points so far have made them. -/
theorem Scales.next {r : Reaction Rat (AxisDrag Rat)} {points : List (Point Rat)}
    (h : Scales r a half start (points.getLastD start) v₀ v)
    (hv : .double v = Range.pulled v₀ half ((v₀.max - v₀.min) * a.reach half start points))
    (hdistance : 0 ≤ (v₀.max - v₀.min) * a.reach half start points) (hdirect : a.autoRange ≠ .always)
    (hextent : 0 < a.pixelExtent) (args : MouseArgs Rat) :
    ∃ w, .double w = Range.pulled v₀ half ((v₀.max - v₀.min) * a.reach half start (points ++ [args.point])) ∧
      Scales (r.controller.mouseMove args r.pane) a half start args.point v₀ w := by
  obtain ⟨w, hw, hmoved⟩ := h.move hdirect hextent args
  refine ⟨w, ?_, hmoved⟩
  have hspan : v.max - v.min = (v₀.max - v₀.min) * a.reach half start points := by
    have hpulled : (Range.pulled v₀ half _).span = _ := Range.span_pulled hdistance
    rw [← hv] at hpulled
    exact hpulled
  have hother : (Range.double v).otherBound half = (Range.double v₀).otherBound half := by
    rw [hv]
    exact Range.otherBound_pulled_iff.2 hdistance
  rw [hw, scaled, ChartAxis.reach_concat]
  split
  · rfl
  · rw [Range.pulled_congr hother, hspan, mul_assoc]

/-- A drag as long as the bound stays behind the other one. -/
theorem Scales.run (h : Scales (c.mouseDown press p) a half start start v₀ v₀) (hspan : v₀.min < v₀.max)
    (hdirect : a.autoRange ≠ .always) (hextent : 0 < a.pixelExtent) {moves : List (MouseArgs Rat)}
    (hbehind : a.StaysBehind half start (moves.map (·.point))) :
    ∃ v, .double v = Range.pulled v₀ half ((v₀.max - v₀.min) * a.reach half start (moves.map (·.point))) ∧
      Scales (c.dragged p press moves) a half start ((moves.map (·.point)).getLastD start) v₀ v := by
  induction moves using List.reverseRecOn with
  | nil =>
    refine ⟨v₀, ?_, h⟩
    rw [List.map_nil, ChartAxis.reach_nil, mul_one, Range.pulled_span hspan.le]
  | append_singleton moves last ih =>
    rw [List.map_append, List.map_singleton, ChartAxis.staysBehind_concat] at hbehind
    obtain ⟨v, hv, hrun⟩ := ih hbehind.1
    have hdistance := mul_nonneg (sub_nonneg.2 hspan.le) hbehind.1.reach_nonneg
    obtain ⟨w, hw, hmoved⟩ := hrun.next hv hdistance hdirect hextent last
    refine ⟨w, ?_, ?_⟩
    · rw [List.map_append]
      exact hw
    · rw [List.map_append, List.map_singleton, List.getLastD_concat, dragged, List.foldl_append]
      exact hmoved

/-- What the axis of the name shows after a press and moves. -/
def shownAfter (c : AxisDrag Rat) (p : Pane Rat) (press : MouseArgs Rat) (axisId : String)
    (moves : List (MouseArgs Rat)) : Option (Range Rat) :=
  ((c.dragged p press moves).pane.axis? axisId).map (·.visibleRange)

theorem Scales.shown {moves : List (MouseArgs Rat)} (h : Scales (c.dragged p press moves) a half start last v₀ v)
    (hdirect : a.autoRange ≠ .always) : c.shownAfter p press a.id moves = some (.double v) := by
  rw [shownAfter, h.axis, Option.map_some]
  exact congrArg some (ChartAxis.visibleRange_direct (a := { a with visible := .double v }) hdirect)

/-- One more move takes the bound along from behind the other one, or past it. -/
theorem Scales.shown_next (h : Scales (c.mouseDown press p) a half start start v₀ v₀) (hspan : v₀.min < v₀.max)
    (hdirect : a.autoRange ≠ .always) (hextent : 0 < a.pixelExtent) {moves : List (MouseArgs Rat)}
    (hbehind : a.StaysBehind half start (moves.map (·.point))) (last : MouseArgs Rat) :
    c.shownAfter p press a.id (moves ++ [last]) =
      some (.pulled v₀ half ((v₀.max - v₀.min) * a.reach half start (moves.map (·.point) ++ [last.point]))) := by
  obtain ⟨v, hv, hrun⟩ := h.run hspan hdirect hextent hbehind
  have hdistance := mul_nonneg (sub_nonneg.2 hspan.le) hbehind.reach_nonneg
  obtain ⟨w, hw, hmoved⟩ := hrun.next hv hdistance hdirect hextent last
  have hafter : Scales (c.dragged p press (moves ++ [last])) a half start last.point v₀ w := by
    rw [dragged, List.foldl_append]
    exact hmoved
  rw [hafter.shown hdirect, hw]

/-- The last move decides whether the other bound is where it was at the press, if it was so before. -/
theorem Scales.otherBound_iff (h : Scales (c.mouseDown press p) a half start start v₀ v₀) (hspan : v₀.min < v₀.max)
    (hdirect : a.autoRange ≠ .always) (hextent : 0 < a.pixelExtent) {moves : List (MouseArgs Rat)}
    (hbehind : a.StaysBehind half start (moves.map (·.point))) (last : MouseArgs Rat) :
    (c.shownAfter p press a.id (moves ++ [last])).map (·.otherBound half) = some ((Range.double v₀).otherBound half) ↔
      0 ≤ a.reach half start (moves.map (·.point) ++ [last.point]) := by
  rw [h.shown_next hspan hdirect hextent hbehind last, Option.map_some, Option.some_inj, Range.otherBound_pulled_iff,
    mul_nonneg_iff_of_pos_left (sub_pos.2 hspan)]

theorem Scales.keeps_iff (h : Scales (c.mouseDown press p) a half start start v₀ v₀) (hspan : v₀.min < v₀.max)
    (hdirect : a.autoRange ≠ .always) (hextent : 0 < a.pixelExtent) (moves : List (MouseArgs Rat)) :
    (∀ k, (c.shownAfter p press a.id (moves.take k)).map (·.otherBound half) =
        some ((Range.double v₀).otherBound half)) ↔ a.StaysBehind half start (moves.map (·.point)) := by
  induction moves using List.reverseRecOn with
  | nil =>
    refine iff_of_true (fun k => ?_) ChartAxis.staysBehind_nil
    have hstart : Scales (c.dragged p press []) a half start start v₀ v₀ := h
    rw [List.take_nil, hstart.shown hdirect, Option.map_some]
  | append_singleton moves last ih =>
    rw [ChartAxis.forall_take_concat (P := fun moves => (c.shownAfter p press a.id moves).map (·.otherBound half) =
      some ((Range.double v₀).otherBound half)), ih, List.map_append, List.map_singleton, ChartAxis.staysBehind_concat]
    exact and_congr_right fun hbehind => h.otherBound_iff hspan hdirect hextent hbehind last

/-- A press that starts a drag of an axis of numbers. -/
theorem scales_mouseDown (hmode : c.config.dragMode = .scale) (hclip : c.config.clipMode = .none)
    (haxis : (p.draggedAxis? c.family c.config.axisId).bind p.axis? = some a) (hidle : c.isDragging = false)
    (hstarts : (c.mouseDown press p).controller.isDragging = true) (hdirect : a.autoRange ≠ .always)
    (hvisible : a.visible = .double v) :
    Scales (c.mouseDown press p) a (a.halfAt press.point) press.point press.point v v := by
  obtain ⟨q, hq, hdown⟩ := mouseDown_starts haxis hidle hstarts
  obtain ⟨-, rfl⟩ := Pane.capture_eq_some hq
  obtain ⟨id, -, hfound⟩ := Option.bind_eq_some_iff.1 haxis
  have hid : a.id = id := Pane.id_of_find? hfound
  rw [hdown]
  refine ⟨hmode, hclip, ?_, ?_, ?_⟩
  · rw [ChartAxis.visibleRange_direct hdirect, hvisible]
  · rw [← hvisible]
    change p.axis? a.id = some a
    rw [hid]
    exact hfound
  · exact Notifier.takeExternal_again p.notifier c.id

/-- A scale drag that clips nothing takes down the near half for a press at or below the middle of what the axis shows.
The other bound is where it was at the press for as long as the bound of that half stays behind it, and then the axis
shows the two as far apart as the moves make them. A move that pulls the bound past the other one makes the two change
places. -/
theorem scale_moves_one_bound (hmode : c.config.dragMode = .scale) (hclip : c.config.clipMode = .none)
    (haxis : (p.draggedAxis? c.family c.config.axisId).bind p.axis? = some a) (hidle : c.isDragging = false)
    (hstarts : (c.mouseDown press p).controller.isDragging = true) (hdirect : a.autoRange ≠ .always)
    (hvisible : a.visible = .double v) (hspan : v.min < v.max) (hextent : 0 < a.pixelExtent) :
    ∃ s, (c.mouseDown press p).controller.session = some s ∧
      (s.half = .near ↔ a.scale.valueAt a.visible (a.pixelOffset press.point) ≤ (v.min + v.max) / 2) ∧
      ∀ moves : List (MouseArgs Rat),
        ((∀ k, (c.shownAfter p press a.id (moves.take k)).map (·.otherBound s.half) =
          some (a.visible.otherBound s.half)) ↔ a.StaysBehind s.half press.point (moves.map (·.point))) ∧
        (a.StaysBehind s.half press.point (moves.map (·.point)) →
          let distance := (v.max - v.min) * a.reach s.half press.point (moves.map (·.point))
          c.shownAfter p press a.id moves = some (match s.half with
            | .near => .double ⟨v.max - distance, v.max⟩
            | .far => .double ⟨v.min, v.min + distance⟩)) ∧
        ∀ last : MouseArgs Rat, a.StaysBehind s.half press.point (moves.map (·.point)) →
          a.reach s.half press.point (moves.map (·.point) ++ [last.point]) < 0 →
          let distance := (v.max - v.min) * a.reach s.half press.point (moves.map (·.point) ++ [last.point])
          c.shownAfter p press a.id (moves ++ [last]) = some (match s.half with
            | .near => .double ⟨v.max, v.max - distance⟩
            | .far => .double ⟨v.min + distance, v.min⟩) := by
  have h := scales_mouseDown hmode hclip haxis hidle hstarts hdirect hvisible
  refine ⟨_, h.session, ?_, fun moves => ⟨?_, fun hbehind => ?_, fun last hbehind hpast => ?_⟩⟩
  · rw [hvisible]
    exact ChartAxis.halfAt_eq_near_iff hextent hspan press.point
  · rw [hvisible]
    exact h.keeps_iff hspan hdirect hextent moves
  · obtain ⟨w, hw, hrun⟩ := h.run hspan hdirect hextent hbehind
    have hdistance := mul_nonneg (sub_nonneg.2 hspan.le) hbehind.reach_nonneg
    rw [hrun.shown hdirect, hw, Range.pulled_of_nonneg hdistance]
  · rw [h.shown_next hspan hdirect hextent hbehind last,
      Range.pulled_of_neg (mul_neg_of_pos_of_neg (sub_pos.2 hspan) hpast)]

end

/-- The upper bound of a y axis is pulled down and then up, and the lower one stays. Pulled past it, the upper bound
becomes the lower one. -/
theorem scale_moves_one_bound_upper :
    let y : ChartAxis Rat := { ChartAxis.new "y" false (.double (.new 0 100)) with bounds := ⟨400, 0, 48, 300⟩ }
    let p : Pane Rat := { Pane.new ⟨0, 0, 400, 300⟩ .cartesian with yAxes := [y] }
    let c : AxisDrag Rat := .new 0 .y .default
    let held (x y : Rat) : MouseArgs Rat := .new ⟨x, y⟩ .onlyLeft 0
    let moves := [held 410 30, held 415 120]
    (∀ k, (c.shownAfter p (held 410 60) "y" (moves.take k)).map (·.otherBound .far) = some 0) ∧
      (c.shownAfter p (held 410 60) "y" moves).map (·.preciseBounds) = some (0, 117) ∧
      (c.shownAfter p (held 410 60) "y" (moves ++ [held 415 (-200)])).map (·.preciseBounds) = some (-7.8, 0) := by
  intro y p c held moves
  have hstarts : (c.mouseDown (held 410 60) p).controller.isDragging = true := by decide +kernel
  have hextent : 0 < y.pixelExtent := by decide +kernel
  obtain ⟨s, hs, hhalf, hmoves⟩ := scale_moves_one_bound (c := c) (p := p) (a := y) (v := ⟨0, 100⟩) rfl rfl rfl rfl
    hstarts (by decide) rfl (by decide) hextent
  have hfar : s.half = .far := by
    have hupper : ¬ y.scale.valueAt y.visible (y.pixelOffset (held 410 60).point) ≤ (0 + 100) / 2 := by decide +kernel
    cases hcase : s.half with
    | near => exact absurd (hhalf.1 hcase) hupper
    | far => rfl
  rw [hfar] at hmoves
  have hfirst : y.StaysBehind .far (held 410 60).point ([] ++ [(held 410 30).point]) :=
    ChartAxis.staysBehind_concat.2 ⟨ChartAxis.staysBehind_nil, by decide +kernel⟩
  have hbehind : y.StaysBehind .far (held 410 60).point ([(held 410 30).point] ++ [(held 415 120).point]) :=
    ChartAxis.staysBehind_concat.2 ⟨hfirst, by decide +kernel⟩
  obtain ⟨hkeeps, hshown, hpulled⟩ := hmoves moves
  have hbounds : y.reach .far (held 410 60).point (moves.map (·.point)) = 1.17 := by decide +kernel
  have hpast : y.reach .far (held 410 60).point (moves.map (·.point) ++ [(held 415 (-200)).point]) = -0.078 := by
    decide +kernel
  have hlast := hpulled (held 415 (-200)) hbehind (by rw [hpast]; norm_num)
  refine ⟨hkeeps.2 hbehind, (congrArg (Option.map (·.preciseBounds)) (hshown hbehind)).trans ?_,
    (congrArg (Option.map (·.preciseBounds)) hlast).trans ?_⟩
  · rw [hbounds]
    decide +kernel
  · rw [hpast]
    decide +kernel

/-- The lower bound pulled past the upper one becomes the upper one. -/
theorem scale_pulls_past :
    let x : ChartAxis Rat := { ChartAxis.new "x" true (.double (.new 0 100)) with bounds := ⟨0, 300, 400, 24⟩ }
    let p : Pane Rat := { Pane.new ⟨0, 0, 400, 300⟩ .cartesian with xAxes := [x] }
    let c : AxisDrag Rat := .new 0 .x .default
    let held (x : Rat) : MouseArgs Rat := .new ⟨x, 310⟩ .onlyLeft 0
    c.config.dragMode = .scale ∧ c.config.clipMode = .none ∧ x.autoRange ≠ .always ∧ 0 < x.pixelExtent ∧
      (c.mouseDown (held 100) p).controller.session.map (·.half) = some .near ∧
      (c.shownAfter p (held 100) "x" []).map (·.preciseBounds) = some (0, 100) ∧
      (c.shownAfter p (held 100) "x" [held (-400)]).map (·.preciseBounds) = some (100, 125) ∧
      (c.shownAfter p (held 100) "x" [held (-400)]).map (·.otherBound .near) ≠ some (x.visible.otherBound .near) := by
  intro x p c held
  refine ⟨rfl, rfl, ?_, ?_, ?_, ?_, ?_, ?_⟩ <;> decide +kernel

end AxisDrag

end ChartGestures
