import ChartGestures.Number.ExactDecimal
import ChartGestures.Proofs.Axis.Direct
import ChartGestures.Proofs.Gesture.Pans

/-!
# The two channels of a pan

A pan moves an axis on by every step, but sets a category axis from the range it had at the start by the motion since.
Over exact numbers it makes no difference: two axes of one family that are alike in all but this stay alike through
presses, moves, releases, lost captures and ticks. What ties them together is `Tracks`: the category axis shows its
start scrolled by the whole motion so far. A write from outside breaks that tie, but then the watch of the controller
has seen a change, and before its next write to the axes a pan starts anew and coasting ends.
-/

namespace ChartGestures

open Scalar

/-! ### Twin axes -/

section Twins

variable [Decimals Rat]

/-- A category axis and one that is none, on the same pixels and showing the same range. -/
structure Twins (a b : ChartAxis Rat) : Prop where
  category : a.category = true
  value : b.category = false
  horizontal : b.horizontal = a.horizontal
  scale : b.scale = a.scale
  direct : a.autoRange ≠ .always
  direct' : b.autoRange ≠ .always
  kind : a.visible.kind.KeepsFractions
  kind' : b.visible.kind = a.visible.kind
  inOrder : a.visible.InOrder
  bounds : b.visible.preciseBounds = a.visible.preciseBounds

namespace ChartAxis

variable {a : ChartAxis Rat} {r : Range Rat}

theorem panFrom_shows (hdirect : a.autoRange ≠ .always) (hkind : a.visible.kind.KeepsFractions)
    (hr : r.kind.KeepsFractions) (horder : r.InOrder) (pixels : Rat) :
    ∃ v, (a.panFrom r pixels .none).axis = { a with visible := v } ∧ v.kind = a.visible.kind ∧
      v.preciseBounds = (a.scale.scroll r pixels).preciseBounds := by
  have hfree : (a.scale.scroll r pixels).clipPanned a.data .none = a.scale.scroll r pixels := by
    rw [Range.clipPanned, if_pos (.inl rfl)]
  rw [panFrom, hfree, applyRange, if_neg hdirect]
  exact setVisible_shows hdirect hkind (PixelScale.inOrder_scroll hr horder pixels)

/-- The axis shows `start` scrolled by `offset`. -/
structure Follows (a : ChartAxis Rat) (start : Range Rat) (offset : Point Rat) : Prop where
  kind : start.kind.KeepsFractions
  inOrder : start.InOrder
  bounds : a.visible.preciseBounds = (a.scale.scroll start (a.pixelComponent offset)).preciseBounds

theorem follows_self (hkind : a.visible.kind.KeepsFractions) (hr : a.visible.InOrder) {offset : Point Rat}
    (hoffset : a.pixelComponent offset = 0) : a.Follows a.visible offset := by
  refine ⟨hkind, hr, ?_⟩
  rw [hoffset, PixelScale.preciseBounds_scroll_zero hkind hr]

theorem pixelComponent_add (a : ChartAxis Rat) (p q : Point Rat) :
    a.pixelComponent (p + q) = a.pixelComponent p + a.pixelComponent q := by
  unfold pixelComponent
  split <;> rfl

theorem pixelComponent_sub (a : ChartAxis Rat) (p q : Point Rat) :
    a.pixelComponent (p - q) = a.pixelComponent p - a.pixelComponent q := by
  unfold pixelComponent
  split <;> rfl

end ChartAxis

namespace Twins

variable {a b : ChartAxis Rat} (h : Twins a b)

include h

theorem withVisible {v w : Range Rat} (hv : v.kind = a.visible.kind) (hw : w.kind = b.visible.kind)
    (horder : v.InOrder) (hbounds : w.preciseBounds = v.preciseBounds) :
    Twins { a with visible := v } { b with visible := w } where
  category := h.category
  value := h.value
  horizontal := h.horizontal
  scale := h.scale
  direct := h.direct
  direct' := h.direct'
  kind := hv ▸ h.kind
  kind' := hw.trans (h.kind'.trans hv.symm)
  inOrder := horder
  bounds := hbounds

theorem inOrder' : b.visible.InOrder := by
  rw [Range.InOrder, h.bounds]
  exact h.inOrder

/-- One channel sets the category axis to the start scrolled by `total`, the other scrolls its twin on by `delta`. -/
theorem panAxis {starts : StartRanges Rat} {start : Range Rat} {offset delta total : Point Rat}
    (hstart : starts.lookup a.id = some start) (hfollows : a.Follows start offset)
    (htotal : a.pixelComponent total = a.pixelComponent offset + a.pixelComponent delta) :
    let a' := (PanTarget.panAxis starts delta total a.id .none a).axis
    Twins a' (PanTarget.panAxis starts delta total b.id .none b).axis ∧ a'.Follows start total := by
  obtain ⟨v, hv, hkind, hbounds⟩ :=
    ChartAxis.panFrom_shows h.direct h.kind hfollows.kind hfollows.inOrder (a.pixelComponent total)
  have hcategory :
      PanTarget.panAxis starts delta total a.id .none a = a.panFrom start (a.pixelComponent total) .none := by
    rw [PanTarget.panAxis, hstart, Option.filter_some, h.category]
    rfl
  have horder : v.InOrder := by
    rw [Range.InOrder, hbounds]
    exact PixelScale.inOrder_scroll hfollows.kind hfollows.inOrder _
  -- the twin is scrolled on from where it is, or not at all
  have hvalue : ∃ w, (PanTarget.panAxis starts delta total b.id .none b).axis = { b with visible := w } ∧
      w.kind = b.visible.kind ∧ w.preciseBounds = (a.scale.scroll b.visible (a.pixelComponent delta)).preciseBounds := by
    have hkind' : b.visible.kind.KeepsFractions := h.kind' ▸ h.kind
    have hcomponent : b.pixelComponent delta = a.pixelComponent delta := by
      rw [ChartAxis.pixelComponent, ChartAxis.pixelComponent, h.horizontal]
    have hnone : (starts.lookup b.id).filter (fun _ => b.category) = none := by
      rw [h.value]
      simp
    simp only [PanTarget.panAxis, hnone, hcomponent]
    split
    · rw [ChartAxis.scroll, ChartAxis.visibleRange_direct h.direct']
      have hshows := ChartAxis.panFrom_shows h.direct' hkind' hkind' h.inOrder' (a.pixelComponent delta)
      rw [h.scale] at hshows
      exact hshows
    · next hzero =>
      have hdelta : a.pixelComponent delta = 0 := by simpa using hzero
      refine ⟨b.visible, rfl, rfl, ?_⟩
      rw [hdelta, PixelScale.preciseBounds_scroll_zero hkind' h.inOrder']
  obtain ⟨w, hw, hkind', hbounds'⟩ := hvalue
  have hagree : w.preciseBounds = v.preciseBounds := by
    rw [hbounds', hbounds, htotal]
    exact PixelScale.preciseBounds_scroll_scroll hfollows.kind hfollows.inOrder (h.kind' ▸ h.kind)
      (h.bounds.trans hfollows.bounds) _
  dsimp only
  rw [hcategory, hv, hw]
  exact ⟨h.withVisible hkind hkind' horder hagree, hfollows.kind, hfollows.inOrder, hbounds⟩

end Twins

/-! ### Twins on a pane -/

variable {family : AxisFamily} {a b : ChartAxis Rat} {p q : Pane Rat}

/-- The twins are axes of one family of the pane, and all axes of the pane have their own names. -/
structure HasTwins (family : AxisFamily) (p : Pane Rat) (a b : ChartAxis Rat) : Prop where
  distinct : (p.axisIds .x ++ p.axisIds .y).Nodup
  found : p.axis? a.id = some a
  found' : p.axis? b.id = some b
  member : a.id ∈ p.axisIds family
  member' : b.id ∈ p.axisIds family
  twins : Twins a b

/-- A pane whose axes keep their names has the axes that the twins have become. -/
theorem HasTwins.of_ids {a' b' : ChartAxis Rat} (h : HasTwins family p a b)
    (hids : ∀ other, q.axisIds other = p.axisIds other) (hname : a'.id = a.id) (hname' : b'.id = b.id)
    (hfound : q.axis? a.id = some a') (hfound' : q.axis? b.id = some b') (htwins : Twins a' b') :
    HasTwins family q a' b' where
  distinct := by
    rw [hids, hids]
    exact h.distinct
  found := hname ▸ hfound
  found' := hname' ▸ hfound'
  member := by
    rw [hids, hname]
    exact h.member
  member' := by
    rw [hids, hname']
    exact h.member'
  twins := htwins

theorem HasTwins.of_axes (h : HasTwins family p a b) (hx : q.xAxes = p.xAxes) (hy : q.yAxes = p.yAxes) :
    HasTwins family q a b := by
  have hids (other : AxisFamily) : q.axisIds other = p.axisIds other := by
    cases other with
    | x => rw [Pane.axisIds, Pane.axisIds, hx]
    | y => rw [Pane.axisIds, Pane.axisIds, hy]
  have haxis (id : String) : q.axis? id = p.axis? id := by rw [Pane.axis?_eq, Pane.axis?_eq, hx, hy]
  exact h.of_ids hids rfl rfl ((haxis a.id).trans h.found) ((haxis b.id).trans h.found') h.twins

theorem HasTwins.release (h : HasTwins family p a b) (owner : OwnerId) : HasTwins family (p.release owner) a b := by
  rw [Pane.release_eq]
  exact h.of_axes rfl rfl

/-- A pan that moves the category axis knows where it started, and has moved it by `offset` since. -/
def Tracks (family : AxisFamily) (t : PanTarget) (starts : StartRanges Rat) (offset : Point Rat) (a : ChartAxis Rat) :
    Prop :=
  t.covers family = true → ∃ start, starts.lookup a.id = some start ∧ a.Follows start offset

/-- The starts that a pan takes down now. -/
theorem HasTwins.tracks_now (h : HasTwins family p a b) (t : PanTarget) (point : Point Rat) :
    Tracks family t (t.categoryStarts p) (point - point) a := by
  intro hcovers
  have hname : a.id ∈ (t.axes p).map (·.1) := List.mem_map.2 ⟨_, PanTarget.mem_axes hcovers h.member, rfl⟩
  refine ⟨a.visible, ?_, ChartAxis.follows_self h.twins.kind h.twins.inOrder ?_⟩
  · rw [PanTarget.lookup_categoryStarts, if_pos hname, h.found, Option.bind_some, h.twins.category, if_pos rfl,
      ChartAxis.visibleRange_direct h.twins.direct]
  · rw [ChartAxis.pixelComponent_sub, sub_self]

/-- A pan keeps the twins alike and goes on tracking them. -/
theorem HasTwins.pan {t : PanTarget} {starts : StartRanges Rat} {offset delta total : Point Rat}
    (h : HasTwins family p a b) (hclip : t.clip family = .none) (htracks : Tracks family t starts offset a)
    (htotal : a.pixelComponent total = a.pixelComponent offset + a.pixelComponent delta) :
    ∃ a' b', a'.id = a.id ∧ b'.id = b.id ∧ HasTwins family (t.pan delta total starts p) a' b' ∧
      Tracks family t starts total a' := by
  have hids := (t.keepsLayout_pan delta total starts p).axisIds
  cases hcovers : t.covers family with
  | false =>
    refine ⟨a, b, rfl, rfl, h.of_ids hids rfl rfl ?_ ?_ h.twins, fun hc => ?_⟩
    · rw [PanTarget.axis?_pan_of_not_covers delta total h.distinct hcovers h.member, h.found]
    · rw [PanTarget.axis?_pan_of_not_covers delta total h.distinct hcovers h.member', h.found']
    · rw [hcovers] at hc
      cases hc
  | true =>
    obtain ⟨start, hstart, hfollows⟩ := htracks hcovers
    obtain ⟨htwins, hfollows'⟩ := h.twins.panAxis hstart hfollows htotal
    have hname := PanTarget.id_panAxis delta total starts a.id .none a
    have hname' := PanTarget.id_panAxis delta total starts b.id .none b
    refine ⟨_, _, hname, hname', h.of_ids hids hname hname' ?_ ?_ htwins, fun _ => ⟨start, ?_, hfollows'⟩⟩
    · rw [PanTarget.axis?_pan_of_covers delta total h.distinct hcovers h.member, hclip, h.found, Option.map_some]
    · rw [PanTarget.axis?_pan_of_covers delta total h.distinct hcovers h.member', hclip, h.found', Option.map_some]
    · rw [hname]
      exact hstart

/-! ### Coasting -/

namespace Inertia

/-- A coasting pan clips nothing and tracks the category axis. -/
def Coasts (family : AxisFamily) (i : Inertia Rat) (a : ChartAxis Rat) : Prop :=
  ∀ t, i.target = some t → t.clip family = .none ∧ Tracks family t i.categoryStarts i.categoryOffset a

theorem coasts_of_no_target {i : Inertia Rat} (h : i.target = none) : i.Coasts family a := by
  intro t ht
  rw [h] at ht
  cases ht

theorem twins_step {i : Inertia Rat} (h : HasTwins family p a b) (hi : i.Coasts family a) :
    ∃ a' b', a'.id = a.id ∧ b'.id = b.id ∧ HasTwins family (i.step p).2 a' b' ∧ (i.step p).1.Coasts family a' := by
  unfold step
  dsimp only
  generalize (⟨decay i.velocity.x i.config.friction, decay i.velocity.y i.config.friction⟩ : Point Rat) = velocity
  cases htarget : i.target with
  | none =>
    refine ⟨a, b, rfl, rfl, h, coasts_of_no_target ?_⟩
    split
    · rfl
    · rfl
  | some t =>
    obtain ⟨hclip, htracks⟩ := hi t htarget
    obtain ⟨a', b', ha, hb, htwins, htracks'⟩ := h.pan hclip htracks (a.pixelComponent_add i.categoryOffset velocity)
    refine ⟨a', b', ha, hb, htwins, ?_⟩
    split
    · exact coasts_of_no_target rfl
    · intro t' ht'
      cases ht'
      exact ⟨hclip, htracks'⟩

theorem twins_steps (count : Nat) {i : Inertia Rat} (h : HasTwins family p a b) (hi : i.Coasts family a) :
    ∃ a' b', a'.id = a.id ∧ b'.id = b.id ∧ HasTwins family (steps count i p).2 a' b' ∧
      (steps count i p).1.Coasts family a' := by
  induction count generalizing i p a b with
  | zero => exact ⟨a, b, rfl, rfl, h, hi⟩
  | succ count ih =>
    obtain ⟨a', b', ha, hb, h', hi'⟩ := twins_step h hi
    unfold steps
    dsimp only
    split
    · exact ⟨a', b', ha, hb, h', hi'⟩
    · obtain ⟨a'', b'', ha', hb', h'', hi''⟩ := ih h' hi'
      exact ⟨a'', b'', ha'.trans ha, hb'.trans hb, h'', hi''⟩

end Inertia

/-! ### The controller -/

namespace ZoomPan

/-- The twins are alike, and unless a change from outside is known, a drag or a coasting pan tracks the category axis. -/
structure Balanced (family : AxisFamily) (c : ZoomPan Rat) (p : Pane Rat) (a b : ChartAxis Rat) : Prop where
  clipX : c.config.clipModeX = .none
  clipY : c.config.clipModeY = .none
  extents : c.config.zoomExtentsY = false
  twins : HasTwins family p a b
  idle : c.session.isSome = true → c.inertia.isActive = false ∧ c.inertia.target = none
  known : ∃ external, c.Watches p external ∧
    (∀ s, c.session = some s → s.target.clip family = .none ∧
      (external = false → Tracks family s.target s.categoryStarts (s.lastPoint - s.startPoint) a)) ∧
    (external = false → c.inertia.Coasts family a)

variable {c : ZoomPan Rat}

theorem Balanced.mouseDown (h : c.Balanced family p a b) (args : MouseArgs Rat) :
    (c.mouseDown args p).controller.Balanced family (c.mouseDown args p).pane a b := by
  unfold ZoomPan.mouseDown
  split
  · exact h
  cases hcapture : p.capture c.id with
  | none => exact h
  | some q =>
    obtain ⟨-, rfl⟩ := Pane.capture_eq_some hcapture
    obtain ⟨external, hwatch, -, -⟩ := h.known
    have htaken := (Pane.shows_takeExternal hwatch).2
    have htwins : HasTwins family ({ p with capturedBy := some c.id } : Pane Rat) a b := h.twins.of_axes rfl rfl
    refine ⟨h.clipX, h.clipY, h.extents, htwins.of_axes rfl rfl, fun _ => ⟨rfl, rfl⟩, false, htaken, ?_, ?_⟩
    · intro s hs
      cases hs
      refine ⟨?_, fun _ => ?_⟩
      · cases family with
        | x => exact h.clipX
        | y => exact h.clipY
      · exact (htwins.of_axes rfl rfl).tracks_now _ args.point
    · exact fun _ => Inertia.coasts_of_no_target rfl

/-- After a change from outside the drag tracks from where the axes are now. -/
theorem tracks_rebase {s : PanSession Rat} {external : Bool} (h : HasTwins family p a b)
    (htracks : external = false → Tracks family s.target s.categoryStarts (s.lastPoint - s.startPoint) a) :
    Tracks family s.target (rebase s external p).categoryStarts (s.lastPoint - (rebase s external p).startPoint) a := by
  cases external with
  | false => exact htracks rfl
  | true => exact h.tracks_now s.target s.lastPoint

theorem Balanced.mouseMove (h : c.Balanced family p a b) (args : MouseArgs Rat) :
    ∃ a' b', a'.id = a.id ∧ b'.id = b.id ∧
      (c.mouseMove args p).controller.Balanced family (c.mouseMove args p).pane a' b' := by
  cases hsession : c.session with
  | none =>
    refine ⟨a, b, rfl, rfl, ?_⟩
    rw [ZoomPan.mouseMove, hsession]
    exact h
  | some s =>
    obtain ⟨external, hwatch, hsessions, -⟩ := h.known
    obtain ⟨hclip, htracks⟩ := hsessions s hsession
    obtain ⟨hexternal, htaken⟩ := watches_takeExternal hwatch
    rw [mouseMove_of_session hsession hexternal]
    have htwins : HasTwins family (p.takeExternal c.id).2 a b := h.twins.of_axes rfl rfl
    generalize (p.takeExternal c.id).2 = q at htwins htaken ⊢
    have hsince := tracks_rebase htwins htracks
    have htarget := target_rebase s external q
    have hlast := lastPoint_rebase s external q
    generalize rebase s external q = s' at hsince htarget hlast ⊢
    have htotal : a.pixelComponent (args.point - s'.startPoint) =
        a.pixelComponent (s.lastPoint - s'.startPoint) + a.pixelComponent (args.point - s.lastPoint) := by
      rw [ChartAxis.pixelComponent_sub, ChartAxis.pixelComponent_sub, ChartAxis.pixelComponent_sub]
      ring
    have hbegun : HasTwins family { q with notifier := q.notifier.beginOwnWrites c.id } a b := htwins.of_axes rfl rfl
    obtain ⟨a', b', ha, hb, htwins', htracks'⟩ := hbegun.pan hclip hsince htotal
    have hpan : c.panTo s' args q = q.asOwnWrites c.id
        (s.target.pan (args.point - s.lastPoint) (args.point - s'.startPoint) s'.categoryStarts) := by
      simp only [panTo, h.extents, htarget, hlast, Bool.false_and, Bool.false_eq_true, if_false]
    have hwatch' := watches_panTo htaken s' args
    have hdragging : c.session.isSome = true := by rw [hsession, Option.isSome_some]
    refine ⟨a', b', ha, hb, h.clipX, h.clipY, h.extents, ?_, fun _ => h.idle hdragging, false, hwatch', ?_,
      fun _ => Inertia.coasts_of_no_target (h.idle hdragging).2⟩
    · rw [hpan]
      exact htwins'.of_axes rfl rfl
    intro t ht
    cases ht
    change s'.target.clip family = .none ∧
      (false = false → Tracks family s'.target s'.categoryStarts (args.point - s'.startPoint) a')
    rw [htarget]
    exact ⟨hclip, fun _ => htracks'⟩

theorem Balanced.endDrag (h : c.Balanced family p a b) : (c.endDrag p).1.Balanced family (c.endDrag p).2 a b := by
  cases hsession : c.session with
  | none =>
    rw [ZoomPan.endDrag, hsession]
    exact h
  | some s =>
    obtain ⟨external, hwatch, -, hcoasts⟩ := h.known
    rw [endDrag_of_session hsession]
    refine ⟨h.clipX, h.clipY, h.extents, h.twins.release c.id, fun hs => ?_, external, watches_release hwatch c.id,
      fun t ht => ?_, hcoasts⟩
    · cases hs
    · cases ht

/-- Coasting goes on from where the drag left the category axis. -/
theorem coasts_released {s : PanSession Rat} (hcoasts : c.inertia.Coasts family a) (hclip : s.target.clip family = .none)
    (htracks : Tracks family s.target s.categoryStarts (s.lastPoint - s.startPoint) a) (args : MouseArgs Rat) :
    (c.released s args).Coasts family a := by
  unfold released Inertia.start
  dsimp only
  split
  · exact hcoasts
  split
  · exact Inertia.coasts_of_no_target rfl
  · intro t ht
    cases ht
    exact ⟨hclip, htracks⟩

theorem Balanced.mouseUp (h : c.Balanced family p a b) (args : MouseArgs Rat) :
    (c.mouseUp args p).controller.Balanced family (c.mouseUp args p).pane a b := by
  cases hsession : c.session with
  | none =>
    rw [ZoomPan.mouseUp, hsession]
    exact h
  | some s =>
    obtain ⟨external, hwatch, hsessions, hcoasts⟩ := h.known
    obtain ⟨hclip, htracks⟩ := hsessions s hsession
    rw [mouseUp_of_session hsession]
    refine ⟨h.clipX, h.clipY, h.extents, h.twins.release c.id, fun hs => ?_, external, watches_release hwatch c.id,
      fun t ht => ?_, fun hquiet => coasts_released (hcoasts hquiet) hclip (htracks hquiet) args⟩
    · cases hs
    · cases ht

theorem Balanced.tick (h : c.Balanced family p a b) (now : Nat) :
    ∃ a' b', a'.id = a.id ∧ b'.id = b.id ∧ (c.tick now p).1.Balanced family (c.tick now p).2 a' b' := by
  cases hactive : c.inertia.isActive with
  | false =>
    rw [tick_of_idle hactive]
    exact ⟨a, b, rfl, rfl, h⟩
  | true =>
    have hnone : c.session = none := by
      cases hsession : c.session with
      | none => rfl
      | some s =>
        have hidle := (h.idle (by rw [hsession, Option.isSome_some])).1
        rw [hactive] at hidle
        cases hidle
    have hidle {s : PanSession Rat} (hs : c.session = some s) : False := by
      rw [hnone] at hs
      cases hs
    obtain ⟨external, hwatch, -, hcoasts⟩ := h.known
    obtain ⟨hexternal, htaken⟩ := watches_takeExternal hwatch
    have hwatch' := watches_tick hactive hwatch now
    have htwins : HasTwins family (p.takeExternal c.id).2 a b := h.twins.of_axes rfl rfl
    cases external with
    | true =>
      rw [tick_of_external hactive hexternal] at hwatch' ⊢
      exact ⟨a, b, rfl, rfl, h.clipX, h.clipY, h.extents, htwins, fun _ => ⟨rfl, rfl⟩, false, hwatch',
        fun s hs => (hidle hs).elim, fun _ => Inertia.coasts_of_no_target rfl⟩
    | false =>
      have hbegun : HasTwins family
          { (p.takeExternal c.id).2 with notifier := (p.takeExternal c.id).2.notifier.beginOwnWrites c.id } a b :=
        htwins.of_axes rfl rfl
      have hpolled : Inertia.Coasts family { c.inertia with timer := (c.inertia.timer.poll now).2 } a := hcoasts rfl
      obtain ⟨a', b', ha, hb, htwins', hcoasts'⟩ := Inertia.twins_steps (c.inertia.timer.poll now).1 hbegun hpolled
      rw [tick_of_quiet hactive hexternal] at hwatch' ⊢
      refine ⟨a', b', ha, hb, h.clipX, h.clipY, h.extents, htwins'.of_axes rfl rfl, fun hs => ?_, false, hwatch',
        fun s hs => (hidle hs).elim, fun _ => hcoasts'⟩
      obtain ⟨s, hs⟩ := Option.isSome_iff_exists.1 hs
      exact (hidle hs).elim

/-- A controller at rest that comes to the pane. -/
theorem balanced_attached {id : OwnerId} {config : ZoomPanConfig Rat} (hfresh : p.IsFreshFor id)
    (hclipX : config.clipModeX = .none) (hclipY : config.clipModeY = .none) (hextents : config.zoomExtentsY = false)
    (htwins : HasTwins family p a b) :
    let start := (ofInertia id config (.atRest config.inertia)).attached p
    start.1.Balanced family start.2 a b := by
  refine ⟨hclipX, hclipY, hextents, htwins.of_axes rfl rfl, fun _ => ⟨rfl, rfl⟩, false, ?_, fun s hs => ?_, fun _ => ?_⟩
  · exact watches_attached hfresh rfl
  · cases hs
  · exact Inertia.coasts_of_no_target rfl

end ZoomPan

end Twins

/-! ### Writes from outside -/

namespace Pane

variable {α : Type} [Scalar α] [Decimals α]

def showWrites (r : Range α) (ids : List String) : AxisWrites α := ids.map fun id => (id, (·.setVisible r))

/-- Somebody writes a range to the axes of the given names, in one batch or one by one. -/
def showOn (p : Pane α) (batched : Bool) (r : Range α) (ids : List String) : Pane α :=
  if batched then p.suspended (writeAll (showWrites r ids)) else p.writeAll (showWrites r ids)

theorem keepNames_showWrites (r : Range α) (ids : List String) : (showWrites r ids).KeepNames := by
  intro w hw a
  obtain ⟨id, -, rfl⟩ := List.mem_map.1 hw
  exact a.id_setVisible r

theorem shows_showOn {p : Pane α} {owner : OwnerId} {external : Bool}
    (h : p.notifier.Shows owner 0 false ⟨0, external⟩) (batched : Bool) (r : Range α) (ids : List String) :
    (p.showOn batched r ids).notifier.Shows owner 0 false ⟨0, external || changedBy (showWrites r ids) p⟩ := by
  rw [← ChangeWatch.after_free]
  cases batched with
  | false => exact shows_writeAll h _
  | true => exact shows_suspended_writeAll h _

theorem showOn_eq (p : Pane α) (batched : Bool) (r : Range α) (ids : List String) :
    ∃ n, p.showOn batched r ids = { p.writeAll (showWrites r ids) with notifier := n } := by
  cases batched with
  | false => exact ⟨_, rfl⟩
  | true => exact suspended_writeAll _ p

end Pane

section Writes

variable [Decimals Rat] {family : AxisFamily} {a b : ChartAxis Rat} {p q : Pane Rat}

theorem HasTwins.of_eq {n : Notifier Rat} (h : HasTwins family p a b) (hq : q = { p with notifier := n }) :
    HasTwins family q a b :=
  h.of_axes (by rw [hq]) (by rw [hq])

/-- An axis shows the range written to it, and one that was not written to what it showed before. -/
theorem axis?_showWrites {r : Range Rat} (hr : r.InOrder) (ids : List String) (hfound : p.axis? a.id = some a)
    (hdirect : a.autoRange ≠ .always) (hkind : a.visible.kind.KeepsFractions) :
    ∃ v, (p.writeAll (Pane.showWrites r ids)).axis? a.id = some { a with visible := v } ∧ v.kind = a.visible.kind ∧
      (a.id ∈ ids → v.preciseBounds = r.preciseBounds) ∧ (a.id ∉ ids → v = a.visible) := by
  induction ids generalizing p a with
  | nil => exact ⟨a.visible, hfound, rfl, fun h => absurd h List.not_mem_nil, fun _ => rfl⟩
  | cons name rest ih =>
    have hstep : (p.writeAxis name (·.setVisible r)).axis? a.id = if a.id = name then _ else _ :=
      Pane.axis?_writeAxis (·.id_setVisible r) a.id
    obtain ⟨v, hv, hvkind, hvbounds⟩ := ChartAxis.setVisible_shows hdirect hkind hr
    by_cases hname : a.id = name
    · have hfound' : (p.writeAxis name (·.setVisible r)).axis? a.id = some { a with visible := v } := by
        rw [hstep, if_pos hname, ← hname, hfound, Option.map_some, hv]
      obtain ⟨w, hw, hwkind, hin, hout⟩ := ih (a := { a with visible := v }) hfound' hdirect (hvkind ▸ hkind)
      refine ⟨w, hw, hwkind.trans hvkind, fun _ => ?_, fun h => absurd (hname ▸ List.mem_cons_self) h⟩
      by_cases hagain : a.id ∈ rest
      · exact hin hagain
      · rw [hout hagain]
        exact hvbounds
    · have hfound' : (p.writeAxis name (·.setVisible r)).axis? a.id = some a := by
        rw [hstep, if_neg hname, hfound]
      obtain ⟨w, hw, hwkind, hin, hout⟩ := ih hfound' hdirect hkind
      refine ⟨w, hw, hwkind, fun h => hin ?_, fun h => hout fun hmem => h (List.mem_cons_of_mem name hmem)⟩
      exact (List.mem_cons.1 h).resolve_left hname

theorem HasTwins.showWrites {r : Range Rat} {ids : List String} (h : HasTwins family p a b) (hr : r.InOrder)
    (hids : a.id ∈ ids ↔ b.id ∈ ids) :
    ∃ a' b', a'.id = a.id ∧ b'.id = b.id ∧ HasTwins family (p.writeAll (Pane.showWrites r ids)) a' b' := by
  have htwins := h.twins
  have hkind' : b.visible.kind.KeepsFractions := htwins.kind' ▸ htwins.kind
  obtain ⟨v, hv, hvkind, hvin, hvout⟩ := axis?_showWrites hr ids h.found htwins.direct htwins.kind
  obtain ⟨w, hw, hwkind, hwin, hwout⟩ := axis?_showWrites hr ids h.found' htwins.direct' hkind'
  have hshown : v.InOrder ∧ w.preciseBounds = v.preciseBounds := by
    by_cases hmem : a.id ∈ ids
    · rw [Range.InOrder, hvin hmem, hwin (hids.1 hmem)]
      exact ⟨hr, rfl⟩
    · rw [hvout hmem, hwout fun hb => hmem (hids.2 hb)]
      exact ⟨htwins.inOrder, htwins.bounds⟩
  have hfamily (other : AxisFamily) := Pane.axisIds_writeAll (Pane.keepNames_showWrites r ids) p other
  have htwins' := htwins.withVisible hvkind hwkind hshown.1 hshown.2
  exact ⟨{ a with visible := v }, { b with visible := w }, rfl, rfl, h.of_ids hfamily rfl rfl hv hw htwins'⟩

namespace ZoomPan

theorem Balanced.showOn {c : ZoomPan Rat} {r : Range Rat} {ids : List String} (h : c.Balanced family p a b)
    (batched : Bool) (hr : r.InOrder) (hids : a.id ∈ ids ↔ b.id ∈ ids) :
    ∃ a' b', a'.id = a.id ∧ b'.id = b.id ∧ c.Balanced family (p.showOn batched r ids) a' b' := by
  obtain ⟨external, hwatch, hsessions, hcoasts⟩ := h.known
  have hwatch' : c.Watches (p.showOn batched r ids) (external || Pane.changedBy (Pane.showWrites r ids) p) :=
    Pane.shows_showOn hwatch batched r ids
  obtain ⟨n, hn⟩ := p.showOn_eq batched r ids
  cases hchanged : Pane.changedBy (Pane.showWrites r ids) p with
  | true =>
    rw [hchanged, Bool.or_true] at hwatch'
    obtain ⟨a', b', ha, hb, htwins⟩ := h.twins.showWrites hr hids
    refine ⟨a', b', ha, hb, h.clipX, h.clipY, h.extents, htwins.of_eq hn, h.idle, true, hwatch', fun s hs => ?_,
      fun hquiet => nomatch hquiet⟩
    exact ⟨(hsessions s hs).1, fun hquiet => nomatch hquiet⟩
  | false =>
    rw [hchanged, Bool.or_false] at hwatch'
    have hquiet : ∀ w ∈ Pane.showWrites r ids, ∀ a, (w.2 a).changed = false → (w.2 a).axis = a := by
      intro w hw a hunchanged
      obtain ⟨id, -, rfl⟩ := List.mem_map.1 hw
      exact ChartAxis.setVisible_unchanged hunchanged
    have hkeep := Pane.keepNames_showWrites r ids
    have hfamily (other : AxisFamily) := Pane.axisIds_writeAll hkeep p other
    have haxis (id : String) := Pane.axis?_writeAll_of_unchanged hkeep hquiet hchanged id
    have htwins : HasTwins family (p.writeAll (Pane.showWrites r ids)) a b :=
      h.twins.of_ids hfamily rfl rfl ((haxis a.id).trans h.twins.found) ((haxis b.id).trans h.twins.found') h.twins.twins
    exact ⟨a, b, rfl, rfl, h.clipX, h.clipY, h.extents, htwins.of_eq hn, h.idle, external, hwatch', hsessions, hcoasts⟩

end ZoomPan

end Writes

/-! ### Runs -/

/-- What happens to a pane with one panning controller. -/
inductive PanEvent (α : Type) [Scalar α] [Decimals α] where
  | down (args : MouseArgs α)
  | move (args : MouseArgs α)
  | up (args : MouseArgs α)
  | lostCapture
  | tick (now : Nat)
  /-- Somebody else writes a range to the axes of the given names. -/
  | write (batched : Bool) (r : Range α) (ids : List String)

namespace PanEvent

/-- Both of two axes are written to, or none, and the range has its bounds in order. -/
def OnBoth [Decimals Rat] (id other : String) : PanEvent Rat → Prop
  | write _ r ids => r.InOrder ∧ (id ∈ ids ↔ other ∈ ids)
  | _ => True

instance [Decimals Rat] (id other : String) : (e : PanEvent Rat) → Decidable (e.OnBoth id other)
  | write _ r ids => inferInstanceAs (Decidable (r.InOrder ∧ (id ∈ ids ↔ other ∈ ids)))
  | down _ | move _ | up _ | lostCapture | tick _ => inferInstanceAs (Decidable True)

end PanEvent

namespace ZoomPan

section Runs

variable {α : Type} [Scalar α] [Decimals α]

def apply (s : ZoomPan α × Pane α) : PanEvent α → ZoomPan α × Pane α
  | .down args => ((s.1.mouseDown args s.2).controller, (s.1.mouseDown args s.2).pane)
  | .move args => ((s.1.mouseMove args s.2).controller, (s.1.mouseMove args s.2).pane)
  | .up args => ((s.1.mouseUp args s.2).controller, (s.1.mouseUp args s.2).pane)
  | .lostCapture => s.1.endDrag s.2
  | .tick now => s.1.tick now s.2
  | .write batched r ids => (s.1, s.2.showOn batched r ids)

def run (events : List (PanEvent α)) (s : ZoomPan α × Pane α) : ZoomPan α × Pane α := events.foldl apply s

end Runs

section

variable [Decimals Rat] {family : AxisFamily} {a b : ChartAxis Rat} {p : Pane Rat}

theorem Balanced.apply {s : ZoomPan Rat × Pane Rat} (h : s.1.Balanced family s.2 a b) {e : PanEvent Rat}
    (he : e.OnBoth a.id b.id) :
    ∃ a' b', a'.id = a.id ∧ b'.id = b.id ∧ (apply s e).1.Balanced family (apply s e).2 a' b' := by
  cases e with
  | down args => exact ⟨a, b, rfl, rfl, h.mouseDown args⟩
  | move args => exact h.mouseMove args
  | up args => exact ⟨a, b, rfl, rfl, h.mouseUp args⟩
  | lostCapture => exact ⟨a, b, rfl, rfl, h.endDrag⟩
  | tick now => exact h.tick now
  | write batched r ids => exact h.showOn batched he.1 he.2

theorem Balanced.run {s : ZoomPan Rat × Pane Rat} (h : s.1.Balanced family s.2 a b) {events : List (PanEvent Rat)}
    (hevents : ∀ e ∈ events, e.OnBoth a.id b.id) :
    ∃ a' b', a'.id = a.id ∧ b'.id = b.id ∧ (run events s).1.Balanced family (run events s).2 a' b' := by
  induction events generalizing s a b with
  | nil => exact ⟨a, b, rfl, rfl, h⟩
  | cons e rest ih =>
    obtain ⟨a', b', ha, hb, h'⟩ := h.apply (hevents e List.mem_cons_self)
    have hrest : ∀ e ∈ rest, e.OnBoth a'.id b'.id := by
      rw [ha, hb]
      exact fun e he => hevents e (List.mem_cons_of_mem _ he)
    obtain ⟨a'', b'', ha', hb', h''⟩ := ih h' hrest
    exact ⟨a'', b'', ha'.trans ha, hb'.trans hb, h''⟩

/-- However a pan runs, and whatever is written to both twins meanwhile, after every event they show the same bounds. -/
theorem pan_channels_agree {id : OwnerId} {config : ZoomPanConfig Rat} (hfresh : p.IsFreshFor id)
    (hclipX : config.clipModeX = .none) (hclipY : config.clipModeY = .none) (hextents : config.zoomExtentsY = false)
    (htwins : HasTwins family p a b) {events : List (PanEvent Rat)} (hevents : ∀ e ∈ events, e.OnBoth a.id b.id)
    (k : Nat) :
    let s := run (events.take k) ((ofInertia id config (.atRest config.inertia)).attached p)
    ∃ a' b', s.2.axis? a.id = some a' ∧ s.2.axis? b.id = some b' ∧
      b'.visibleRange.preciseBounds = a'.visibleRange.preciseBounds := by
  have hstart := balanced_attached hfresh hclipX hclipY hextents htwins
  have hprefix : ∀ e ∈ events.take k, e.OnBoth a.id b.id := fun e he => hevents e (List.mem_of_mem_take he)
  obtain ⟨a', b', ha, hb, h⟩ := hstart.run hprefix
  refine ⟨a', b', ?_, ?_, ?_⟩
  · rw [← ha]
    exact h.twins.found
  · rw [← hb]
    exact h.twins.found'
  · rw [ChartAxis.visibleRange_direct h.twins.twins.direct, ChartAxis.visibleRange_direct h.twins.twins.direct']
    exact h.twins.twins.bounds

end

/-- Weeks as categories and as plain numbers, dragged, written to, dragged on and coasting for two ticks. -/
theorem pan_channels_agree_weeks :
    let a : ChartAxis Rat :=
      { ChartAxis.new "weeks" true (.index (.new 0 10)) with category := true, bounds := ⟨0, 100, 100, 24⟩ }
    let b : ChartAxis Rat := { ChartAxis.new "numbers" true (.index (.new 0 10)) with bounds := ⟨0, 100, 100, 24⟩ }
    let p : Pane Rat := { Pane.new ⟨0, 0, 100, 100⟩ .cartesian with xAxes := [a, b] }
    let config : ZoomPanConfig Rat := { ZoomPanConfig.default with clipModeX := .none }
    let events : List (PanEvent Rat) :=
      [.down (.new ⟨50, 50⟩ .onlyLeft 0), .move (.new ⟨45, 50⟩ .onlyLeft 16000000),
        .write false (.index (.ofPrecise (1 / 2) 5)) ["numbers", "weeks"],
        .move (.new ⟨35, 50⟩ .onlyLeft 32000000), .up (.new ⟨35, 50⟩ .none 32000000), .tick 64000000]
    let start := (ofInertia 0 config (.atRest config.inertia)).attached p
    (∀ k, ∃ a' b', (run (events.take k) start).2.axis? "weeks" = some a' ∧
      (run (events.take k) start).2.axis? "numbers" = some b' ∧
      b'.visibleRange.preciseBounds = a'.visibleRange.preciseBounds) ∧
    ((run events start).2.axis? "weeks").map (·.visibleRange.preciseBounds) = some (659 / 400, 2459 / 400) := by
  intro a b p config events start
  have hfresh : p.IsFreshFor 0 := ⟨rfl, rfl, rfl⟩
  have htwins : HasTwins .x p a b := by
    refine ⟨by decide, rfl, rfl, by decide, by decide, ?_⟩
    exact ⟨rfl, rfl, rfl, rfl, by decide, by decide, by decide +kernel, by decide +kernel, by decide +kernel,
      by decide +kernel⟩
  have hevents : ∀ e ∈ events, e.OnBoth a.id b.id := by decide +kernel
  refine ⟨pan_channels_agree hfresh rfl rfl rfl htwins hevents, ?_⟩
  decide +kernel

/-- A bound written past the shadow of the other one leaves the shadows crossed. A move by no pixel along the axes then
puts those of the category axis in order, as every scroll does, and does not scroll its twin. -/
theorem pan_channels_part_on_crossed_shadows :
    let crossed : Range Rat := .index ((IndexRange.ofPrecise (5 / 2) 10).setMax 2)
    let a : ChartAxis Rat := { ChartAxis.new "weeks" true crossed with category := true, bounds := ⟨0, 100, 100, 24⟩ }
    let b : ChartAxis Rat := { ChartAxis.new "numbers" true crossed with bounds := ⟨0, 100, 100, 24⟩ }
    let p : Pane Rat := { Pane.new ⟨0, 0, 100, 100⟩ .cartesian with xAxes := [a, b] }
    let config : ZoomPanConfig Rat := { ZoomPanConfig.default with clipModeX := .none }
    let events : List (PanEvent Rat) := [.down (.new ⟨50, 50⟩ .onlyLeft 0), .move (.new ⟨50, 45⟩ .onlyLeft 16000000)]
    let last := (run events ((ofInertia 0 config (.atRest config.inertia)).attached p)).2
    let shown (id : String) := (last.axis? id).map (·.visibleRange.preciseBounds)
    crossed.preciseBounds = (5 / 2, 2) ∧ shown "weeks" = some (2, 5 / 2) ∧ shown "numbers" = some (5 / 2, 2) := by
  decide +kernel

end ZoomPan

end ChartGestures
