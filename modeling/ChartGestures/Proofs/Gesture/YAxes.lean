import ChartGestures.Proofs.Gesture.StepNotices

/-!
# Gestures that spare y axes

A write to an x axis leaves the y axes alone, also one that bears the same name. A pan, coasting, a turn of the wheel
and a pinch write to x axes only if they do not act for the master, so none of them touches a y axis then. To show all
data is another matter: y axes are fitted to their data, whoever asks for it.
-/

namespace ChartGestures

variable {α : Type} [Scalar α] [Decimals α]

/-! ### Writes to x axes -/

namespace Pane

/-- The y axes and the names of the x axes stay. -/
structure KeepsY (p q : Pane α) : Prop where
  yAxes : q.yAxes = p.yAxes
  xNames : q.axisIds .x = p.axisIds .x

namespace KeepsY

variable {p q r : Pane α}

theorem refl (p : Pane α) : p.KeepsY p := ⟨rfl, rfl⟩

theorem trans (h : p.KeepsY q) (h' : q.KeepsY r) : p.KeepsY r := ⟨h'.yAxes.trans h.yAxes, h'.xNames.trans h.xNames⟩

theorem notifier (p : Pane α) (n : Notifier α) : p.KeepsY { p with notifier := n } := ⟨rfl, rfl⟩

end KeepsY

variable {p : Pane α} {writes : AxisWrites α}

/-- The first axis of a name is an x axis if there is one, so that a y axis of the same name is not written to. -/
theorem yAxes_writeAll (hkeep : writes.KeepNames) (p : Pane α) :
    (p.writeAll writes).yAxes = writeAllIn (writes.filter fun w => w.1 ∉ p.axisIds .x) p.yAxes := by
  induction writes generalizing p with
  | nil => rfl
  | cons w rest ih =>
    have hnames : (p.writeAxis w.1 w.2).axisIds .x = p.axisIds .x := axisIds_writeAxis (hkeep w List.mem_cons_self) .x
    have hrest := ih hkeep.tail (p.writeAxis w.1 w.2)
    rw [hnames] at hrest
    refine hrest.trans ?_
    -- names of x axes never change hands, so whether a write is to an x axis is known beforehand
    by_cases hx : w.1 ∈ p.axisIds .x
    · rw [yAxes_writeAxis_of_mem hx, List.filter_cons_of_neg (by simpa using hx)]
    · rw [yAxes_writeAxis_of_not_mem hx, List.filter_cons_of_pos (by simpa using hx)]
      rfl

theorem yAxes_suspended_writeAll (hkeep : writes.KeepNames) (p : Pane α) :
    (p.suspended (writeAll writes)).yAxes = writeAllIn (writes.filter fun w => w.1 ∉ p.axisIds .x) p.yAxes := by
  obtain ⟨n, hn⟩ := suspended_writeAll writes p
  rw [hn]
  exact yAxes_writeAll hkeep p

theorem keepsY_suspended (hkeep : writes.KeepNames) (hx : ∀ w ∈ writes, w.1 ∈ p.axisIds .x) :
    p.KeepsY (p.suspended (writeAll writes)) where
  yAxes := by
    have hnone : (writes.filter fun w => w.1 ∉ p.axisIds .x) = [] :=
      List.filter_eq_nil_iff.2 fun w hw => by simpa using hx w hw
    rw [yAxes_suspended_writeAll hkeep, hnone]
    rfl
  xNames := (KeepsLayout.suspended_writeAll hkeep p).axisIds .x

/-- What fitting them to their data makes of y axes next to x axes of given names. -/
def fitIn (xNames : List String) (nanos : Nat) (yAxes : List (ChartAxis α)) : List (ChartAxis α) :=
  writeAllIn (((yAxes.map (·.id)).filter (· ∉ xNames)).map fun id => (id, (·.zoomToExtents nanos))) yAxes

theorem yAxes_zoomFamilyToExtents_y (p : Pane α) (nanos : Nat) :
    (p.zoomFamilyToExtents .y nanos).yAxes = fitIn (p.axisIds .x) nanos p.yAxes := by
  rw [zoomFamilyToExtents_eq, yAxes_suspended_writeAll (keepNames_extents nanos _), List.filter_map]
  rfl

/-- The same write to some of the x axes. -/
theorem keepsY_suspended_foldl {write : ChartAxis α → AxisWrite α} (hkeep : ∀ a, (write a).axis.id = a.id)
    {ids : List String} (hx : ∀ id ∈ ids, id ∈ p.axisIds .x) :
    p.KeepsY (p.suspended fun p => ids.foldl (fun p id => p.writeAxis id write) p) := by
  have hwrites : (fun p : Pane α => ids.foldl (fun p id => p.writeAxis id write) p) =
      writeAll (ids.map fun id => (id, write)) := by
    funext q
    rw [writeAll, List.foldl_map]
  rw [hwrites]
  refine keepsY_suspended (fun w hw => ?_) fun w hw => ?_
  · obtain ⟨id, -, rfl⟩ := List.mem_map.1 hw
    exact hkeep
  · obtain ⟨id, hid, rfl⟩ := List.mem_map.1 hw
    exact hx id hid

theorem keepsY_zoomFamilyToExtents_x (p : Pane α) (nanos : Nat) : p.KeepsY (p.zoomFamilyToExtents .x nanos) :=
  keepsY_suspended_foldl (fun a => a.id_zoomToExtents nanos) fun _ hid => hid

theorem mem_axisIdsIn_slave {direction : XyDirection} {id : String} (h : id ∈ p.axisIdsIn direction false) :
    id ∈ p.axisIds .x := by
  rw [axisIdsIn, Bool.false_and, if_neg Bool.false_ne_true, List.append_nil] at h
  split at h
  · exact h
  · cases h

theorem zoomToExtents_y (p : Pane α) (direction : XyDirection) (nanos : Nat) :
    (p.zoomToExtents direction nanos).axisIds .x = p.axisIds .x ∧
      (p.zoomToExtents direction nanos).yAxes =
        if direction.includesY then fitIn (p.axisIds .x) nanos p.yAxes else p.yAxes := by
  cases direction with
  | x => exact ⟨(p.keepsY_zoomFamilyToExtents_x nanos).xNames, (p.keepsY_zoomFamilyToExtents_x nanos).yAxes⟩
  | y => exact ⟨(p.keepsLayout_zoomFamilyToExtents .y nanos).axisIds .x, p.yAxes_zoomFamilyToExtents_y nanos⟩
  | xy =>
    let begun : Pane α := { p with notifier := p.notifier.suspend }
    have hx := begun.keepsY_zoomFamilyToExtents_x nanos
    have hy := (begun.zoomFamilyToExtents .x nanos).yAxes_zoomFamilyToExtents_y nanos
    rw [hx.yAxes, hx.xNames] at hy
    have hnames := ((begun.zoomFamilyToExtents .x nanos).keepsLayout_zoomFamilyToExtents .y nanos).axisIds .x
    exact ⟨hnames.trans hx.xNames, hy⟩

end Pane

/-! ### Pans without y axes -/

theorem PanTarget.keepsY_pan {t : PanTarget} (ht : t.panY = false) (delta total : Point α) (starts : StartRanges α)
    (p : Pane α) : p.KeepsY (t.pan delta total starts p) := by
  rw [pan_eq]
  refine Pane.keepsY_suspended (keepNames_writes t delta total starts p) fun w hw => ?_
  have hy : t.yWrites delta total starts (p.axisIds .y) = [] := by rw [yWrites, ht]; rfl
  rw [writes, hy, List.append_nil, xWrites] at hw
  split at hw
  · obtain ⟨id, hid, rfl⟩ := List.mem_map.1 hw
    exact hid
  · cases hw

namespace Inertia

/-- No y axis coasts. -/
def SparesY (i : Inertia α) : Prop := ∀ t, i.target = some t → t.panY = false

theorem sparesY_reset (i : Inertia α) : i.reset.SparesY := fun _ ht => nomatch ht

theorem SparesY.step {i : Inertia α} (h : i.SparesY) (p : Pane α) : (i.step p).1.SparesY ∧ p.KeepsY (i.step p).2 := by
  constructor
  · unfold Inertia.step
    dsimp only
    split
    · exact sparesY_reset _
    · exact h
  · unfold Inertia.step
    cases ht : i.target with
    | none => exact .refl p
    | some t => exact PanTarget.keepsY_pan (h t ht) ..

theorem SparesY.steps (count : Nat) {i : Inertia α} (h : i.SparesY) (p : Pane α) :
    (steps count i p).1.SparesY ∧ p.KeepsY (Inertia.steps count i p).2 := by
  induction count generalizing i p with
  | zero => exact ⟨h, .refl p⟩
  | succ count ih =>
    obtain ⟨h', hkeeps⟩ := h.step p
    unfold Inertia.steps
    dsimp only
    split
    · exact ⟨h', hkeeps⟩
    · obtain ⟨h'', hkeeps'⟩ := ih h' (i.step p).2
      exact ⟨h'', hkeeps.trans hkeeps'⟩

theorem sparesY_start (i : Inertia α) {target : PanTarget} (ht : target.panY = false) (now : Nat)
    (velocity offset : Point α) (starts : StartRanges α) : (i.start now velocity offset starts target).SparesY := by
  unfold Inertia.start
  dsimp only
  split
  · exact sparesY_reset i
  · intro t hsome
    rw [← Option.some.inj hsome, ht]

end Inertia

/-! ### Turns, drags and pinches -/

theorem WheelZoom.keepsY_wheel (c : WheelZoom α) {args : MouseArgs α} (hslave : args.isMaster = false) (p : Pane α) :
    p.KeepsY (c.wheel args p).pane := by
  unfold wheel
  split
  · exact .refl p
  · rw [hslave]
    exact Pane.keepsY_suspended_foldl (id_turn c.config _ _) fun _ hid => Pane.mem_axisIdsIn_slave hid

theorem ZoomPan.keepsY_panTo (c : ZoomPan α) {s : PanSession α} (hs : s.target.panY = false) (args : MouseArgs α)
    (p : Pane α) : p.KeepsY (c.panTo s args p) := by
  have hpan (q : Pane α) : q.KeepsY (if c.config.zoomExtentsY && s.target.panY then
      (s.target.pan (args.point - s.lastPoint) (args.point - s.startPoint) s.categoryStarts q).zoomFamilyToExtents .y 0
      else s.target.pan (args.point - s.lastPoint) (args.point - s.startPoint) s.categoryStarts q) := by
    rw [hs, Bool.and_false, if_neg Bool.false_ne_true]
    exact s.target.keepsY_pan hs ..
  exact ((Pane.KeepsY.notifier p _).trans (hpan _)).trans (.notifier _ _)

variable [Trigonometry α]

theorem PinchZoom.keepsY_flush {c : PinchZoom α} (hslave : c.pending.isSome = true → c.isMaster = false) (p : Pane α) :
    p.KeepsY (c.flush p).2 := by
  have hid (delta : PinchDelta α) (a : ChartAxis α) : (pinch c.config delta a).axis.id = a.id := by
    unfold pinch
    dsimp only
    split
    · exact a.id_zoomAt ..
    · rfl
  unfold flush
  dsimp only
  split
  · exact .refl p
  · next delta hpending =>
    rw [hslave (by rw [hpending]; rfl)]
    exact Pane.keepsY_suspended_foldl (hid delta) fun _ h => Pane.mem_axisIdsIn_slave h

end ChartGestures
