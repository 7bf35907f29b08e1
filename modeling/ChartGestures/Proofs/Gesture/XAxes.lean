import ChartGestures.Proofs.Gesture.Pans

/-!
# Gestures and the x axes

What becomes of the x axes under a pan, a coasting pan or a turn of the wheel depends on the x axes alone, as long as no
y axis has the name of one of them. So two panes with the same plotting area and the same x axes have the same x axes
afterwards, whatever their y axes do, if the pans are alike in their direction, their clipping and the starts of the x
axes.
-/

namespace ChartGestures

variable {α : Type} [Scalar α] [Decimals α]

/-- An event as it is given to a pane. -/
abbrev MouseArgs.given {α : Type} (args : MouseArgs α) (isMaster : Bool) : MouseArgs α := { args with isMaster }

/-! ### The x axes alone -/

/-- No y axis has the name of an x axis. -/
def Pane.IsSeparate (p : Pane α) : Prop := ∀ id ∈ p.axisIds .y, id ∉ p.axisIds .x

instance (p : Pane α) : Decidable p.IsSeparate := inferInstanceAs (Decidable (∀ id ∈ _, id ∉ _))

theorem Pane.IsSeparate.of_layout {p q : Pane α} (h : p.IsSeparate) (hlayout : p.KeepsLayout q) : q.IsSeparate := by
  rw [IsSeparate, hlayout.axisIds, hlayout.axisIds]
  exact h

/-- What matters of a pan to the x axes. -/
def PanTarget.xPart (t : PanTarget) : XyDirection × ClipMode := (t.direction, t.clipX)

/-- The same starts for the axes of the given names. -/
def SameStarts (ids : List String) (starts starts' : StartRanges α) : Prop :=
  ∀ id ∈ ids, starts'.lookup id = starts.lookup id

/-- The same plotting area and the same x axes, which no y axis passes for. -/
structure SameX (p p' : Pane α) : Prop where
  viewport : p'.viewport = p.viewport
  xAxes : p'.xAxes = p.xAxes
  separate : p.IsSeparate
  separate' : p'.IsSeparate

namespace SameX

variable {p p' q q' : Pane α}

theorem axisIds (h : SameX p p') : p'.axisIds .x = p.axisIds .x := by
  rw [Pane.axisIds, Pane.axisIds, h.xAxes]

theorem step (h : SameX p p') (hlayout : p.KeepsLayout q) (hlayout' : p'.KeepsLayout q') (hx : q'.xAxes = q.xAxes) :
    SameX q q' where
  viewport := hlayout'.viewport.trans (h.viewport.trans hlayout.viewport.symm)
  xAxes := hx
  separate := h.separate.of_layout hlayout
  separate' := h.separate'.of_layout hlayout'

end SameX

namespace PanTarget

variable {t t' : PanTarget} {delta total : Point α} {starts starts' : StartRanges α} {p p' : Pane α}

theorem keepNames_xWrites (t : PanTarget) (delta total : Point α) (starts : StartRanges α) (ids : List String) :
    (t.xWrites delta total starts ids).KeepNames := by
  intro w hw a
  rw [xWrites] at hw
  split at hw
  · obtain ⟨id, -, rfl⟩ := List.mem_map.1 hw
    exact id_panAxis delta total starts id t.clipX a
  · cases hw

theorem xAxes_pan (h : p.IsSeparate) : (t.pan delta total starts p).xAxes =
    Pane.writeAllIn (t.xWrites delta total starts (p.axisIds .x)) p.xAxes := by
  rw [pan_eq, writes]
  have hy (w) (hw : w ∈ t.yWrites delta total starts (p.axisIds .y)) : w.1 ∉ p.axisIds .x :=
    h w.1 (t.mem_yWrites delta total starts hw)
  exact Pane.xAxes_suspended_writeAll (keepNames_xWrites _ _ _ _ _) hy

theorem xWrites_congr {ids : List String} (ht : t'.xPart = t.xPart) (hstarts : SameStarts ids starts starts') :
    t'.xWrites delta total starts' ids = t.xWrites delta total starts ids := by
  obtain ⟨hdirection, hclip⟩ := Prod.mk.inj ht
  rw [xWrites, xWrites, hdirection, hclip]
  split
  · refine List.map_congr_left fun id hid => ?_
    have hpan : panAxis starts' delta total id t.clipX = panAxis starts delta total id t.clipX := by
      funext a
      rw [panAxis, panAxis, hstarts id hid]
    rw [hpan]
  · rfl

theorem sameX_pan (delta total : Point α) (h : SameX p p') (ht : t'.xPart = t.xPart)
    (hstarts : SameStarts (p.axisIds .x) starts starts') :
    SameX (t.pan delta total starts p) (t'.pan delta total starts' p') := by
  refine h.step (keepsLayout_pan ..) (keepsLayout_pan ..) ?_
  rw [xAxes_pan h.separate, xAxes_pan h.separate', h.axisIds, h.xAxes, xWrites_congr ht hstarts]

/-- A pan of y axes only. -/
theorem xAxes_pan_of_not_includesX (delta total : Point α) (starts : StartRanges α) (h : p.IsSeparate)
    (ht : t.direction.includesX = false) :
    (t.pan delta total starts p).xAxes = p.xAxes := by
  rw [xAxes_pan h, xWrites, ht]
  rfl

/-- Pans of x axes that start at the same moment start from the same ranges. -/
theorem sameStarts_now (h : SameX p p') (ht : t'.xPart = t.xPart) :
    SameStarts (p.axisIds .x) (t.categoryStarts p) (t'.categoryStarts p') := by
  have hfound {r : Pane α} {id : String} (hid : id ∈ r.axisIds .x) : r.axis? id = r.xAxes.find? (·.id == id) := by
    obtain ⟨a, ha, -⟩ := Pane.exists_find?_of_mem hid
    rw [Pane.axis?_eq, ha]
    rfl
  have hnames (u : PanTarget) {r : Pane α} (hr : r.IsSeparate) {id : String} (hid : id ∈ r.axisIds .x) :
      id ∈ (u.axes r).map (·.1) ↔ u.direction.includesX = true := by
    have hy : id ∉ r.axisIds .y := fun hmem => hr id hmem hid
    rw [names_axes, List.mem_append, covers, covers]
    split
    · next hx => exact ⟨fun _ => hx, fun _ => .inl hid⟩
    · next hx =>
      refine ⟨fun hmem => ?_, fun hinc => absurd hinc hx⟩
      rcases hmem with hmem | hmem
      · cases hmem
      · split at hmem
        · exact absurd hmem hy
        · cases hmem
  intro id hid
  have hid' : id ∈ p'.axisIds .x := h.axisIds ▸ hid
  obtain ⟨hdirection, -⟩ := Prod.mk.inj ht
  rw [lookup_categoryStarts, lookup_categoryStarts, hfound hid, hfound hid', h.xAxes]
  refine if_congr ?_ rfl rfl
  rw [hnames t h.separate hid, hnames t' h.separate' hid', hdirection]

end PanTarget

theorem Pane.xAxes_zoomFamilyToExtents_y {p : Pane α} (h : p.IsSeparate) (nanos : Nat) :
    (p.zoomFamilyToExtents .y nanos).xAxes = p.xAxes := by
  rw [zoomFamilyToExtents_eq]
  have hnone : AxisWrites.KeepNames ([] : AxisWrites α) := fun w hw => nomatch hw
  refine (xAxes_suspended_writeAll hnone fun w hw => ?_).trans rfl
  obtain ⟨id, hid, rfl⟩ := List.mem_map.1 hw
  exact h id hid

/-- Showing all data on the y axes or not is nothing to the x axes. -/
theorem SameX.extents {q q' : Pane α} (h : SameX q q') (b b' : Bool) :
    SameX (if b then q.zoomFamilyToExtents .y 0 else q) (if b' then q'.zoomFamilyToExtents .y 0 else q') := by
  have hone {r : Pane α} (hr : r.IsSeparate) (b : Bool) :
      (if b then r.zoomFamilyToExtents .y 0 else r).xAxes = r.xAxes ∧
        r.KeepsLayout (if b then r.zoomFamilyToExtents .y 0 else r) := by
    cases b with
    | false => exact ⟨rfl, .refl r⟩
    | true => exact ⟨Pane.xAxes_zoomFamilyToExtents_y hr 0, r.keepsLayout_zoomFamilyToExtents .y 0⟩
  obtain ⟨hx, hlayout⟩ := hone h.separate b
  obtain ⟨hx', hlayout'⟩ := hone h.separate' b'
  exact h.step hlayout hlayout' (hx'.trans (h.xAxes.trans hx.symm))

theorem SameX.notifier {q q' : Pane α} (h : SameX q q') (n n' : Notifier α) :
    SameX { q with notifier := n } { q' with notifier := n' } :=
  h.step (.notifier q n) (.notifier q' n') h.xAxes

/-! ### Coasting -/

namespace Inertia

/-- Alike in all that matters to the x axes of the given names. -/
structure Alike (ids : List String) (i i' : Inertia α) : Prop where
  config : i'.config = i.config
  timer : i'.timer = i.timer
  velocity : i'.velocity = i.velocity
  categoryOffset : i'.categoryOffset = i.categoryOffset
  targets : i'.target.map PanTarget.xPart = i.target.map PanTarget.xPart
  starts : SameStarts ids i.categoryStarts i'.categoryStarts

variable {i i' : Inertia α} {ids : List String} {p p' : Pane α}

theorem Alike.isActive (h : Alike ids i i') : i'.isActive = i.isActive := by
  rw [Inertia.isActive, Inertia.isActive, h.timer]

theorem Alike.reset (h : Alike ids i i') : Alike ids i.reset i'.reset :=
  ⟨h.config, congrArg IntervalTimer.stop h.timer, rfl, rfl, rfl, fun _ _ => rfl⟩

theorem Alike.start (h : Alike ids i i') {t t' : PanTarget} {starts starts' : StartRanges α} (ht : t'.xPart = t.xPart)
    (hstarts : SameStarts ids starts starts') (now : Nat) (velocity offset : Point α) :
    Alike ids (i.start now velocity offset starts t) (i'.start now velocity offset starts' t') := by
  unfold Inertia.start
  rw [h.config]
  dsimp only
  split
  · exact h.reset
  · exact ⟨rfl, congrArg (·.start now) h.timer, rfl, rfl, congrArg some ht, hstarts⟩

theorem Alike.step (h : Alike (p.axisIds .x) i i') (hp : SameX p p') :
    Alike (p.axisIds .x) (i.step p).1 (i'.step p').1 ∧ SameX (i.step p).2 (i'.step p').2 := by
  unfold Inertia.step
  rw [h.velocity, h.config, h.categoryOffset]
  dsimp only
  generalize (⟨decay i.velocity.x i.config.friction, decay i.velocity.y i.config.friction⟩ : Point α) = velocity
  have hmoved : Alike (p.axisIds .x) { i with velocity, categoryOffset := i.categoryOffset + velocity }
      { i' with config := i.config, velocity, categoryOffset := i.categoryOffset + velocity } :=
    ⟨rfl, h.timer, rfl, rfl, h.targets, h.starts⟩
  constructor
  · split
    · exact hmoved.reset
    · exact hmoved
  · have htargets := h.targets
    cases ht : i.target with
    | none =>
      rw [ht, Option.map_none, Option.map_eq_none_iff] at htargets
      rw [htargets]
      exact hp
    | some t =>
      rw [ht, Option.map_some, Option.map_eq_some_iff] at htargets
      obtain ⟨t', ht', hpart⟩ := htargets
      rw [ht']
      exact PanTarget.sameX_pan _ _ hp hpart h.starts

theorem Alike.steps (count : Nat) (h : Alike (p.axisIds .x) i i') (hp : SameX p p') :
    Alike (p.axisIds .x) (steps count i p).1 (steps count i' p').1 ∧
      SameX (Inertia.steps count i p).2 (Inertia.steps count i' p').2 := by
  induction count generalizing i i' p p' with
  | zero => exact ⟨h, hp⟩
  | succ count ih =>
    obtain ⟨h', hp'⟩ := h.step hp
    have hids := (i.keepsLayout_step p).axisIds .x
    unfold Inertia.steps
    dsimp only
    rw [h'.velocity]
    split
    · exact ⟨h', hp'⟩
    · rw [← hids] at h' ⊢
      exact ih h' hp'

end Inertia

/-! ### The wheel -/

namespace WheelZoom

variable {w w' : WheelZoom α} {p p' : Pane α}

/-- The writes of the wheel to one family. -/
def familyWrites (w : WheelZoom α) (args : MouseArgs α) (p : Pane α) : AxisFamily → AxisWrites α
  | .x => if w.config.direction.includesX then w.writes args (p.axisIds .x) else []
  | .y => if w.config.direction.includesY then w.writes args (p.axisIds .y) else []

/-- Whether the wheel publishes a change of an axis of a family. -/
def publishes (w : WheelZoom α) (args : MouseArgs α) (p : Pane α) : AxisFamily → Bool
  | .x => !(args.wheelDelta == 0) && Pane.changedIn (w.familyWrites args p .x) p.xAxes
  | .y => !(args.wheelDelta == 0) && Pane.changedIn (w.familyWrites args p .y) p.yAxes

/-- The wheel writes to all axes of a family or to none. -/
theorem familyWrites_cases (w : WheelZoom α) (args : MouseArgs α) (p : Pane α) (family : AxisFamily) :
    w.familyWrites args p family = w.writes args (p.axisIds family) ∨ w.familyWrites args p family = [] := by
  cases family with
  | x => exact ite_eq_or_eq ..
  | y => exact ite_eq_or_eq ..

theorem familyWrites_keep (w : WheelZoom α) (args : MouseArgs α) (p : Pane α) (family : AxisFamily) :
    (w.familyWrites args p family).KeepNames := by
  rcases w.familyWrites_cases args p family with h | h
  · rw [h]
    exact w.keepNames_writes args _
  · rw [h]
    exact fun v hv => nomatch hv

theorem mem_familyWrites {args : MouseArgs α} {family : AxisFamily} {v : String × (ChartAxis α → AxisWrite α)}
    (hv : v ∈ w.familyWrites args p family) : v.1 ∈ p.axisIds family := by
  rcases w.familyWrites_cases args p family with h | h
  · rw [h] at hv
    obtain ⟨id, hid, rfl⟩ := List.mem_map.1 hv
    exact hid
  · rw [h] at hv
    cases hv

/-- The y axes are written to on the pane of the event only. -/
theorem writes_axisIdsIn (w : WheelZoom α) (args : MouseArgs α) (p : Pane α) :
    w.writes args (p.axisIdsIn w.config.direction args.isMaster) =
      w.familyWrites args p .x ++ if args.isMaster then w.familyWrites args p .y else [] := by
  rw [writes, Pane.axisIdsIn, List.map_append, familyWrites, familyWrites]
  congr 1
  · split <;> rfl
  · cases args.isMaster with
    | false => rfl
    | true =>
      rw [Bool.true_and, if_pos rfl]
      split <;> rfl

theorem mem_masterWrites {args : MouseArgs α} {v : String × (ChartAxis α → AxisWrite α)}
    (hv : v ∈ if args.isMaster then w.familyWrites args p .y else []) : v.1 ∈ p.axisIds .y := by
  split at hv
  · exact mem_familyWrites hv
  · cases hv

theorem keepsLayout_wheel (w : WheelZoom α) (args : MouseArgs α) (p : Pane α) : p.KeepsLayout (w.wheel args p).pane := by
  rw [pane_wheel]
  split
  · exact .refl p
  · exact .suspended_writeAll (w.keepNames_writes args _) p

theorem xAxes_wheel (hp : p.IsSeparate) (args : MouseArgs α) :
    (w.wheel args p).pane.xAxes =
      if args.wheelDelta == 0 then p.xAxes else Pane.writeAllIn (w.familyWrites args p .x) p.xAxes := by
  rw [pane_wheel]
  split
  · rfl
  · rw [writes_axisIdsIn]
    exact Pane.xAxes_suspended_writeAll (w.familyWrites_keep args p .x) fun v hv => hp v.1 (mem_masterWrites hv)

theorem familyWrites_congr (hconfig : w'.config = w.config) (hp : SameX p p') (args : MouseArgs α) (m m' : Bool) :
    w'.familyWrites (args.given m') p' .x = w.familyWrites (args.given m) p .x := by
  rw [familyWrites, familyWrites, writes, writes, hconfig, hp.axisIds]

theorem publishes_congr (hconfig : w'.config = w.config) (hp : SameX p p') (args : MouseArgs α) (m m' : Bool) :
    w'.publishes (args.given m') p' .x = w.publishes (args.given m) p .x := by
  rw [publishes, publishes, familyWrites_congr hconfig hp args m m', hp.xAxes]

theorem sameX_wheel (hconfig : w'.config = w.config) (hp : SameX p p') (args : MouseArgs α) (m m' : Bool) :
    SameX (w.wheel (args.given m) p).pane (w'.wheel (args.given m') p').pane := by
  refine hp.step (keepsLayout_wheel ..) (keepsLayout_wheel ..) ?_
  rw [xAxes_wheel hp.separate, xAxes_wheel hp.separate', familyWrites_congr hconfig hp args m m', hp.xAxes]

/-- The watch of a controller sees the changes of the wheel. -/
theorem watches_wheel {c : ZoomPan α} {external : Bool} (h : c.Watches p external) (hp : p.IsSeparate)
    (args : MouseArgs α) : c.Watches (w.wheel args p).pane
      (external || (w.publishes args p .x || args.isMaster && w.publishes args p .y)) := by
  rw [pane_wheel]
  cases hdelta : args.wheelDelta == 0 with
  | true =>
    have hquiet : (w.publishes args p .x || args.isMaster && w.publishes args p .y) = false := by
      simp [publishes, hdelta]
    rw [hquiet, Bool.or_false, if_pos rfl]
    exact h
  | false =>
    have hafter := Pane.shows_suspended_writeAll h (w.writes args (p.axisIdsIn w.config.direction args.isMaster))
    have hkeep : AxisWrites.KeepNames (if args.isMaster then w.familyWrites args p .y else []) := by
      split
      · exact w.familyWrites_keep args p .y
      · exact fun v hv => nomatch hv
    have hchanged : Pane.changedBy (w.writes args (p.axisIdsIn w.config.direction args.isMaster)) p =
        (w.publishes args p .x || args.isMaster && w.publishes args p .y) := by
      rw [writes_axisIdsIn, Pane.changedBy_append (w.familyWrites_keep args p .x) hkeep
        (fun v hv => mem_familyWrites hv) fun v hv => hp v.1 (mem_masterWrites hv)]
      rw [publishes, publishes, hdelta]
      cases args.isMaster <;> rfl
    rw [ChangeWatch.after_free, hchanged] at hafter
    exact hafter

end WheelZoom

/-! ### Pans of y axes only -/

/-- The plotting area, the x axes and the names of all axes stay. -/
structure Pane.KeepsX (p q : Pane α) : Prop where
  viewport : q.viewport = p.viewport
  xAxes : q.xAxes = p.xAxes
  yNames : q.axisIds .y = p.axisIds .y

namespace Pane.KeepsX

variable {p q r : Pane α}

theorem refl (p : Pane α) : p.KeepsX p := ⟨rfl, rfl, rfl⟩

theorem trans (h : p.KeepsX q) (h' : q.KeepsX r) : p.KeepsX r :=
  ⟨h'.viewport.trans h.viewport, h'.xAxes.trans h.xAxes, h'.yNames.trans h.yNames⟩

theorem of_layout (h : p.KeepsLayout q) (hx : q.xAxes = p.xAxes) : p.KeepsX q := ⟨h.viewport, hx, h.axisIds .y⟩

theorem separate (h : p.KeepsX q) (hp : p.IsSeparate) : q.IsSeparate := by
  rw [IsSeparate, h.yNames, axisIds, h.xAxes]
  exact hp

end Pane.KeepsX

theorem SameX.keepsX {p p' q q' : Pane α} (h : SameX p p') (hq : p.KeepsX q) (hq' : p'.KeepsX q') : SameX q q' where
  viewport := hq'.viewport.trans (h.viewport.trans hq.viewport.symm)
  xAxes := hq'.xAxes.trans (h.xAxes.trans hq.xAxes.symm)
  separate := hq.separate h.separate
  separate' := hq'.separate h.separate'

namespace Inertia

/-- No x axis coasts. -/
def IsStill (i : Inertia α) : Prop := ∀ t, i.target = some t → t.direction.includesX = false

theorem isStill_reset (i : Inertia α) : i.reset.IsStill := fun _ ht => nomatch ht

theorem IsStill.step {i : Inertia α} {p : Pane α} (h : i.IsStill) (hp : p.IsSeparate) :
    (i.step p).1.IsStill ∧ p.KeepsX (i.step p).2 := by
  refine ⟨?_, .of_layout (i.keepsLayout_step p) ?_⟩
  · unfold Inertia.step
    dsimp only
    split
    · exact isStill_reset _
    · exact h
  · unfold Inertia.step
    cases ht : i.target with
    | none => rfl
    | some t => exact PanTarget.xAxes_pan_of_not_includesX _ _ _ hp (h t ht)

theorem IsStill.steps (count : Nat) {i : Inertia α} {p : Pane α} (h : i.IsStill) (hp : p.IsSeparate) :
    (steps count i p).1.IsStill ∧ p.KeepsX (Inertia.steps count i p).2 := by
  induction count generalizing i p with
  | zero => exact ⟨h, .refl p⟩
  | succ count ih =>
    obtain ⟨h', hkeeps⟩ := h.step hp
    unfold Inertia.steps
    dsimp only
    split
    · exact ⟨h', hkeeps⟩
    · obtain ⟨h'', hkeeps'⟩ := ih h' (hkeeps.separate hp)
      exact ⟨h'', hkeeps.trans hkeeps'⟩

end Inertia

end ChartGestures
