import ChartGestures.Gesture.WheelZoom
import ChartGestures.Gesture.ZoomPan
import ChartGestures.Proofs.Pane.Writes

/-!
# Pans as writes

What a pan, a turn of the wheel and a zoom to the extents write, and what the watch of the panning controller sees of
them. A pan writes to the x axes first. All writes of the controller itself are own writes, so after a move or a tick its
watch has seen nothing.
-/

namespace ChartGestures

open Notifier (Shows)

variable {α : Type} [Scalar α] [Decimals α]

/-! ### Lists of writes -/

namespace ChartAxis

theorem id_scroll (a : ChartAxis α) (pixels : α) (mode : ClipMode) : (a.scroll pixels mode).axis.id = a.id :=
  id_applyRange ..

end ChartAxis

namespace PanTarget

/-- The axes of one family under a pan. -/
def familyWrites (starts : StartRanges α) (delta total : Point α) (mode : ClipMode) (ids : List String) :
    AxisWrites α :=
  ids.map fun id => (id, panAxis starts delta total id mode)

def xWrites (t : PanTarget) (delta total : Point α) (starts : StartRanges α) (ids : List String) : AxisWrites α :=
  if t.direction.includesX then familyWrites starts delta total t.clipX ids else []

def yWrites (t : PanTarget) (delta total : Point α) (starts : StartRanges α) (ids : List String) : AxisWrites α :=
  if t.panY && t.direction.includesY then familyWrites starts delta total t.clipY ids else []

def writes (t : PanTarget) (delta total : Point α) (starts : StartRanges α) (p : Pane α) : AxisWrites α :=
  t.xWrites delta total starts (p.axisIds .x) ++ t.yWrites delta total starts (p.axisIds .y)

variable (t : PanTarget) (delta total : Point α) (starts : StartRanges α) (p : Pane α)

theorem writes_eq_map : t.writes delta total starts p =
    (t.axes p).map fun axis => (axis.1, panAxis starts delta total axis.1 axis.2) := by
  rw [writes, xWrites, yWrites, axes, List.map_append]
  congr 1
  · split
    · rw [familyWrites, List.map_map]
      rfl
    · rfl
  · split
    · rw [familyWrites, List.map_map]
      rfl
    · rfl

theorem pan_eq : t.pan delta total starts p = p.suspended (Pane.writeAll (t.writes delta total starts p)) := by
  rw [writes_eq_map, pan, Pane.suspended, Pane.suspended, Pane.writeAll, List.foldl_map]
  rfl

theorem id_panAxis (id : String) (mode : ClipMode) (a : ChartAxis α) :
    (panAxis starts delta total id mode a).axis.id = a.id := by
  unfold panAxis
  split
  · exact ChartAxis.id_applyRange ..
  · dsimp only
    split
    · exact ChartAxis.id_scroll ..
    · rfl

theorem keepNames_writes : (t.writes delta total starts p).KeepNames := by
  intro w hw a
  rw [writes_eq_map] at hw
  obtain ⟨axis, -, rfl⟩ := List.mem_map.1 hw
  exact id_panAxis delta total starts axis.1 axis.2 a

theorem mem_yWrites {w : String × (ChartAxis α → AxisWrite α)} {ids : List String}
    (hw : w ∈ t.yWrites delta total starts ids) : w.1 ∈ ids := by
  rw [yWrites] at hw
  split at hw
  · obtain ⟨id, hid, rfl⟩ := List.mem_map.1 hw
    exact hid
  · cases hw

/-! ### The axes of one family -/

/-- Whether a pan moves the axes of a family. -/
def covers (t : PanTarget) : AxisFamily → Bool
  | .x => t.direction.includesX
  | .y => t.panY && t.direction.includesY

def clip (t : PanTarget) : AxisFamily → ClipMode
  | .x => t.clipX
  | .y => t.clipY

variable {t starts p} {family : AxisFamily} {id : String}

theorem mem_axes (hcovers : t.covers family = true) (hid : id ∈ p.axisIds family) : (id, t.clip family) ∈ t.axes p := by
  rw [axes, List.mem_append]
  cases family with
  | x =>
    left
    rw [if_pos (show t.direction.includesX = true from hcovers)]
    exact List.mem_map_of_mem hid
  | y =>
    right
    rw [if_pos (show (t.panY && t.direction.includesY) = true from hcovers)]
    exact List.mem_map_of_mem hid

theorem map_fst_withMode (ids : List String) (mode : ClipMode) : (ids.map (·, mode)).map (·.1) = ids := by
  rw [List.map_map]
  exact List.map_id ids

theorem names_axes (t : PanTarget) (p : Pane α) : (t.axes p).map (·.1) =
    (if t.covers .x then p.axisIds .x else []) ++ if t.covers .y then p.axisIds .y else [] := by
  rw [axes, List.map_append]
  congr 1
  · change (if t.covers .x = true then _ else _ : List (String × ClipMode)).map _ = _
    split
    · exact map_fst_withMode ..
    · rfl
  · change (if t.covers .y = true then _ else _ : List (String × ClipMode)).map _ = _
    split
    · exact map_fst_withMode ..
    · rfl

theorem not_mem_names (hnodup : (p.axisIds .x ++ p.axisIds .y).Nodup) (hcovers : t.covers family = false)
    (hid : id ∈ p.axisIds family) : id ∉ (t.axes p).map (·.1) := by
  have hdisjoint := (List.nodup_append.1 hnodup).2.2
  rw [names_axes, List.mem_append, not_or]
  cases family with
  | x =>
    rw [hcovers]
    refine ⟨List.not_mem_nil, ?_⟩
    split
    · exact fun hy => hdisjoint id hid id hy rfl
    · exact List.not_mem_nil
  | y =>
    rw [hcovers]
    refine ⟨?_, List.not_mem_nil⟩
    split
    · exact fun hx => hdisjoint id hx id hid rfl
    · exact List.not_mem_nil

theorem nodup_names (hnodup : (p.axisIds .x ++ p.axisIds .y).Nodup) : ((t.axes p).map (·.1)).Nodup := by
  rw [names_axes]
  refine hnodup.sublist (List.Sublist.append ?_ ?_)
  · split
    · exact List.Sublist.refl _
    · exact List.nil_sublist _
  · split
    · exact List.Sublist.refl _
    · exact List.nil_sublist _

theorem names_writes (t : PanTarget) (delta total : Point α) (starts : StartRanges α) (p : Pane α) :
    (t.writes delta total starts p).map (·.1) = (t.axes p).map (·.1) := by
  rw [writes_eq_map, List.map_map]
  rfl

theorem axis?_pan_of_covers (hnodup : (p.axisIds .x ++ p.axisIds .y).Nodup) (hcovers : t.covers family = true)
    (hid : id ∈ p.axisIds family) :
    (t.pan delta total starts p).axis? id =
      (p.axis? id).map fun a => (panAxis starts delta total id (t.clip family) a).axis := by
  rw [pan_eq]
  refine Pane.axis?_writeAll_of_mem (keepNames_writes _ _ _ _ _) ?_ ?_ { p with notifier := p.notifier.suspend }
  · rw [names_writes]
    exact nodup_names hnodup
  · rw [writes_eq_map]
    exact List.mem_map.2 ⟨_, mem_axes hcovers hid, rfl⟩

theorem axis?_pan_of_not_covers (hnodup : (p.axisIds .x ++ p.axisIds .y).Nodup) (hcovers : t.covers family = false)
    (hid : id ∈ p.axisIds family) : (t.pan delta total starts p).axis? id = p.axis? id := by
  rw [pan_eq]
  refine Pane.axis?_writeAll_of_not_mem (keepNames_writes _ _ _ _ _) ?_ { p with notifier := p.notifier.suspend }
  rw [names_writes]
  exact not_mem_names hnodup hcovers hid

theorem lookup_filterMap {β : Type} (entries : List (String × ClipMode)) (f : String → Option β) (id : String) :
    (entries.filterMap fun entry => (f entry.1).map (entry.1, ·)).lookup id =
      if id ∈ entries.map (·.1) then f id else none := by
  induction entries with
  | nil => rfl
  | cons entry rest ih =>
    rw [List.filterMap_cons, List.map_cons]
    by_cases hname : id = entry.1
    · rw [if_pos (hname ▸ List.mem_cons_self)]
      rw [← hname]
      cases hfound : f id with
      | none =>
        change (rest.filterMap _).lookup id = none
        rw [ih, hfound, ite_self]
      | some b => exact List.lookup_cons_self
    · have hmem : id ∈ entry.1 :: rest.map (·.1) ↔ id ∈ rest.map (·.1) := by simp [hname]
      rw [if_congr hmem rfl rfl, ← ih]
      cases f entry.1 with
      | none => rfl
      | some b => simp [List.lookup_cons, beq_eq_false_iff_ne.2 hname]

theorem keepsLayout_pan (t : PanTarget) (delta total : Point α) (starts : StartRanges α) (p : Pane α) :
    p.KeepsLayout (t.pan delta total starts p) := by
  rw [pan_eq]
  exact .suspended_writeAll (keepNames_writes _ _ _ _ _) p

/-- The start of an axis is what it shows, if it is a category axis that the pan moves. -/
theorem lookup_categoryStarts (t : PanTarget) (p : Pane α) (id : String) :
    (t.categoryStarts p).lookup id =
      if id ∈ (t.axes p).map (·.1) then
        (p.axis? id).bind fun a => if a.category then some a.visibleRange else none
      else none := by
  let shown (id : String) : Option (Range α) :=
    (p.axis? id).bind fun a => if a.category then some a.visibleRange else none
  have hstarts : t.categoryStarts p = (t.axes p).filterMap fun axis => (shown axis.1).map (axis.1, ·) := by
    refine List.filterMap_congr fun axis _ => ?_
    dsimp only [shown]
    cases p.axis? axis.1 with
    | none => rfl
    | some a =>
      rw [Option.bind_some, Option.bind_some]
      split <;> rfl
  rw [hstarts]
  exact lookup_filterMap (t.axes p) shown id

end PanTarget

theorem Pane.zoomFamilyToExtents_eq (p : Pane α) (family : AxisFamily) (nanos : Nat) :
    p.zoomFamilyToExtents family nanos =
      p.suspended (Pane.writeAll ((p.axisIds family).map fun id => (id, (·.zoomToExtents nanos)))) := by
  rw [zoomFamilyToExtents, suspended, suspended, writeAll, List.foldl_map]
  rfl

theorem Pane.keepNames_extents (nanos : Nat) (ids : List String) :
    AxisWrites.KeepNames (ids.map fun id => (id, fun a : ChartAxis α => a.zoomToExtents nanos)) := by
  intro w hw a
  obtain ⟨id, -, rfl⟩ := List.mem_map.1 hw
  exact a.id_zoomToExtents nanos

namespace WheelZoom

/-- What the wheel writes to axes of the given names. -/
def writes (c : WheelZoom α) (args : MouseArgs α) (ids : List String) : AxisWrites α :=
  ids.map fun id => (id, turn c.config (notches c.config args.wheelDelta) args.point)

theorem id_turn (config : WheelZoomConfig α) (notches : α) (anchor : Point α) (a : ChartAxis α) :
    (turn config notches anchor a).axis.id = a.id := by
  unfold turn
  split
  · rfl
  · split
    · exact a.id_zoomAt ..
    · exact a.id_scroll ..

/-- A turn that does nothing to an axis is a zoom that does nothing. -/
theorem turn_of_zoom {config : WheelZoomConfig α} (haction : config.action = .zoom) (notches : α) (anchor : Point α)
    (a : ChartAxis α) : turn config notches anchor a = a.zoomAt anchor (scaleFor config notches) := by
  have haffects : affects config notches anchor a = (a.zoomFractionsAt anchor (scaleFor config notches)).isSome := by
    rw [affects, haction]
  rw [turn, haffects, haction]
  cases hfractions : a.zoomFractionsAt anchor (scaleFor config notches) with
  | none => rw [ChartAxis.zoomAt, hfractions]; rfl
  | some _ => rfl

theorem keepNames_writes (c : WheelZoom α) (args : MouseArgs α) (ids : List String) : (c.writes args ids).KeepNames := by
  intro w hw a
  obtain ⟨id, -, rfl⟩ := List.mem_map.1 hw
  exact id_turn ..

theorem pane_wheel (c : WheelZoom α) (args : MouseArgs α) (p : Pane α) :
    (c.wheel args p).pane =
      if args.wheelDelta == 0 then p
      else p.suspended (Pane.writeAll (c.writes args (p.axisIdsIn c.config.direction args.isMaster))) := by
  rw [wheel]
  split
  · rfl
  · rw [Pane.suspended, Pane.writeAll, writes, List.foldl_map]
    rfl

end WheelZoom

/-! ### What the watch of the controller sees -/

namespace Pane

variable {p : Pane α} {owner : OwnerId} {own : Nat} {external : Bool}

/-- A release leaves all but the holder of the pointer as it was. -/
theorem release_eq (p : Pane α) (owner : OwnerId) :
    p.release owner = { p with capturedBy := (p.release owner).capturedBy } := by
  unfold release
  split <;> rfl

theorem shows_asOwnWrites {f : Pane α → Pane α} (h : p.notifier.Shows owner 0 false ⟨own, external⟩)
    (hf : ∀ q : Pane α, q.notifier.Shows owner 0 false ⟨own + 1, external⟩ →
      (f q).notifier.Shows owner 0 false ⟨own + 1, external⟩) :
    (p.asOwnWrites owner f).notifier.Shows owner 0 false ⟨own, external⟩ :=
  (hf _ (h.updateWatch _)).updateWatch _

theorem shows_takeExternal (h : p.notifier.Shows owner 0 false ⟨own, external⟩) :
    (p.takeExternal owner).1 = external ∧ (p.takeExternal owner).2.notifier.Shows owner 0 false ⟨own, false⟩ :=
  h.takeExternal

theorem shows_zoomFamilyToExtents (h : p.notifier.Shows owner 0 false ⟨own + 1, external⟩) (family : AxisFamily)
    (nanos : Nat) : (p.zoomFamilyToExtents family nanos).notifier.Shows owner 0 false ⟨own + 1, external⟩ := by
  rw [zoomFamilyToExtents_eq]
  exact shows_suspended_own h own.succ_pos _

/-- No suspension is open, no change waits, and `owner` has no watch yet. -/
structure IsFreshFor (p : Pane α) (owner : OwnerId) : Prop where
  depth : p.notifier.depth = 0
  pending : p.notifier.pending = []
  unwatched : p.notifier.isLive (.watch owner) = false

theorem shows_startWatch (h : p.IsFreshFor owner) :
    (p.startWatch owner none).2.notifier.Shows owner 0 false ⟨0, false⟩ :=
  Notifier.shows_subscribeWatch h.depth (List.isEmpty_iff.2 h.pending) h.unwatched

end Pane

variable {owner : OwnerId} {own : Nat} {external : Bool} {p : Pane α}

theorem Pane.keepsLayout_zoomFamilyToExtents (p : Pane α) (family : AxisFamily) (nanos : Nat) :
    p.KeepsLayout (p.zoomFamilyToExtents family nanos) := by
  rw [zoomFamilyToExtents_eq]
  exact .suspended_writeAll (keepNames_extents nanos _) p

theorem PanTarget.shows_pan (t : PanTarget) (delta total : Point α) (starts : StartRanges α)
    (h : p.notifier.Shows owner 0 false ⟨own + 1, external⟩) :
    (t.pan delta total starts p).notifier.Shows owner 0 false ⟨own + 1, external⟩ := by
  rw [pan_eq]
  exact Pane.shows_suspended_own h own.succ_pos _

namespace Inertia

theorem shows_step (i : Inertia α) (h : p.notifier.Shows owner 0 false ⟨own + 1, external⟩) :
    (i.step p).2.notifier.Shows owner 0 false ⟨own + 1, external⟩ := by
  unfold step
  cases i.target with
  | none => exact h
  | some target => exact target.shows_pan _ _ _ h

theorem keepsLayout_step (i : Inertia α) (p : Pane α) : p.KeepsLayout (i.step p).2 := by
  unfold step
  cases i.target with
  | none => exact .refl p
  | some target => exact target.keepsLayout_pan ..

theorem keepsLayout_steps (count : Nat) (i : Inertia α) (p : Pane α) : p.KeepsLayout (steps count i p).2 := by
  induction count generalizing i p with
  | zero => exact .refl p
  | succ count ih =>
    unfold steps
    dsimp only
    split
    · exact i.keepsLayout_step p
    · exact (i.keepsLayout_step p).trans (ih ..)

theorem shows_steps (count : Nat) (i : Inertia α) (h : p.notifier.Shows owner 0 false ⟨own + 1, external⟩) :
    (steps count i p).2.notifier.Shows owner 0 false ⟨own + 1, external⟩ := by
  induction count generalizing i p with
  | zero => exact h
  | succ count ih =>
    unfold steps
    dsimp only
    split
    · exact i.shows_step h
    · exact ih _ (i.shows_step h)

end Inertia

namespace ZoomPan

variable {c : ZoomPan α}

/-- Nothing waits for the watch of the controller, and it has seen changes or not. -/
def Watches (c : ZoomPan α) (p : Pane α) (external : Bool) : Prop := p.notifier.Shows c.id 0 false ⟨0, external⟩

theorem watches_attached (h : p.IsFreshFor c.id) (hheld : c.subscription = none) :
    (c.attached p).1.Watches (c.attached p).2 false := by
  rw [attached, hheld]
  exact Pane.shows_startWatch h

@[simp] theorem target_rebase (s : PanSession α) (external : Bool) (p : Pane α) :
    (rebase s external p).target = s.target := by
  unfold rebase
  split <;> rfl

@[simp] theorem lastPoint_rebase (s : PanSession α) (external : Bool) (p : Pane α) :
    (rebase s external p).lastPoint = s.lastPoint := by
  unfold rebase
  split <;> rfl

/-- The drag after a move. -/
def moved (config : ZoomPanConfig α) (s : PanSession α) (args : MouseArgs α) : PanSession α :=
  { s with velocity := velocityAt config s args, lastPoint := args.point, lastTime := args.time }

/-- What a move writes. -/
def panTo (c : ZoomPan α) (s : PanSession α) (args : MouseArgs α) (p : Pane α) : Pane α :=
  p.asOwnWrites c.id fun p =>
    let p := s.target.pan (args.point - s.lastPoint) (args.point - s.startPoint) s.categoryStarts p
    if c.config.zoomExtentsY && s.target.panY then p.zoomFamilyToExtents .y 0 else p

theorem mouseMove_of_session {s : PanSession α} (hsession : c.session = some s)
    (hexternal : (p.takeExternal c.id).1 = external) (args : MouseArgs α) :
    c.mouseMove args p =
      ⟨{ c with session := some (moved c.config (rebase s external (p.takeExternal c.id).2) args) },
        c.panTo (rebase s external (p.takeExternal c.id).2) args (p.takeExternal c.id).2, true⟩ := by
  rw [mouseMove, hsession, ← hexternal]
  rfl

theorem keepsLayout_panTo (c : ZoomPan α) (s : PanSession α) (args : MouseArgs α) (p : Pane α) :
    p.KeepsLayout (c.panTo s args p) := by
  refine .asOwnWrites (fun q => ?_) c.id p
  dsimp only
  split
  · exact (s.target.keepsLayout_pan ..).trans (Pane.keepsLayout_zoomFamilyToExtents ..)
  · exact s.target.keepsLayout_pan ..

theorem watches_panTo (h : c.Watches p external) (s : PanSession α) (args : MouseArgs α) :
    c.Watches (c.panTo s args p) external := by
  refine Pane.shows_asOwnWrites h fun q hq => ?_
  dsimp only
  split
  · exact Pane.shows_zoomFamilyToExtents (PanTarget.shows_pan _ _ _ _ hq) .y 0
  · exact PanTarget.shows_pan _ _ _ _ hq

theorem watches_takeExternal (h : c.Watches p external) :
    (p.takeExternal c.id).1 = external ∧ c.Watches (p.takeExternal c.id).2 false :=
  Pane.shows_takeExternal h

theorem endDrag_of_session {s : PanSession α} (hsession : c.session = some s) (p : Pane α) :
    c.endDrag p = ({ c with session := none }, p.release c.id) := by
  rw [endDrag, hsession]

/-- The inertia after the release of a drag: coasting on, unless the drag had come to a halt before. -/
def released (c : ZoomPan α) (s : PanSession α) (args : MouseArgs α) : Inertia α :=
  if !c.config.useInertia || c.config.inertia.releaseNanos < args.time - s.lastTime then c.inertia
  else c.inertia.start args.time s.velocity (s.lastPoint - s.startPoint) s.categoryStarts s.target

theorem mouseUp_of_session {s : PanSession α} (hsession : c.session = some s) (args : MouseArgs α) (p : Pane α) :
    c.mouseUp args p = ⟨{ c with session := none, inertia := c.released s args }, p.release c.id, true⟩ := by
  simp only [mouseUp, hsession, endDrag_of_session hsession, released]
  split <;> rfl

theorem watches_release (h : c.Watches p external) (owner : OwnerId) : c.Watches (p.release owner) external := by
  rw [Pane.release_eq]
  exact h

/-- A change from outside ends the coasting. -/
theorem tick_of_external (hactive : c.inertia.isActive = true) (hexternal : (p.takeExternal c.id).1 = true) (now : Nat) :
    c.tick now p = (c.resetInertia, (p.takeExternal c.id).2) := by
  simp only [tick, hactive, hexternal, Bool.not_true, Bool.false_eq_true, if_false, if_true]

/-- The inertia and the pane after the steps due, inside the scope of own writes. -/
def coasted (c : ZoomPan α) (now : Nat) (p : Pane α) : Inertia α × Pane α :=
  c.inertia.tick now { p with notifier := p.notifier.beginOwnWrites c.id }

theorem keepsLayout_coasted (c : ZoomPan α) (now : Nat) (p : Pane α) : p.KeepsLayout (c.coasted now p).2 :=
  (Pane.KeepsLayout.notifier p _).trans (Inertia.keepsLayout_steps ..)

theorem tick_of_quiet (hactive : c.inertia.isActive = true) (hexternal : (p.takeExternal c.id).1 = false) (now : Nat) :
    c.tick now p =
      ({ c with inertia := (c.coasted now (p.takeExternal c.id).2).1 },
        { (c.coasted now (p.takeExternal c.id).2).2 with
          notifier := (c.coasted now (p.takeExternal c.id).2).2.notifier.endOwnWrites c.id }) := by
  simp only [tick, hactive, hexternal, Bool.not_true, Bool.false_eq_true, if_false]
  rfl

theorem tick_of_idle (hactive : c.inertia.isActive = false) (now : Nat) (p : Pane α) : c.tick now p = (c, p) := by
  rw [tick, hactive]
  rfl

theorem watches_tick (hactive : c.inertia.isActive = true) (h : c.Watches p external) (now : Nat) :
    (c.tick now p).1.Watches (c.tick now p).2 false := by
  obtain ⟨hexternal, htaken⟩ := watches_takeExternal h
  cases external with
  | true =>
    rw [tick_of_external hactive hexternal]
    exact htaken
  | false =>
    rw [tick_of_quiet hactive hexternal]
    have hown := htaken.updateWatch fun state => { state with ownWrites := state.ownWrites + 1 }
    exact (Inertia.shows_steps _ _ hown).updateWatch _

/-! ### The configuration stays -/

theorem config_mouseDown (c : ZoomPan α) (args : MouseArgs α) (p : Pane α) :
    (c.mouseDown args p).controller.config = c.config := by
  unfold mouseDown
  split
  · rfl
  · split <;> rfl

theorem config_mouseMove (c : ZoomPan α) (args : MouseArgs α) (p : Pane α) :
    (c.mouseMove args p).controller.config = c.config := by
  unfold mouseMove
  split <;> rfl

theorem config_mouseUp (c : ZoomPan α) (args : MouseArgs α) (p : Pane α) :
    (c.mouseUp args p).controller.config = c.config := by
  cases hsession : c.session with
  | none =>
    rw [mouseUp, hsession]
    rfl
  | some s => rw [mouseUp_of_session hsession]

theorem config_tick (c : ZoomPan α) (now : Nat) (p : Pane α) : (c.tick now p).1.config = c.config := by
  unfold tick
  split
  · rfl
  · dsimp only
    split <;> rfl

end ZoomPan

end ChartGestures
