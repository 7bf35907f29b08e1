import ChartGestures.Proofs.Pane.AxisFrames
import ChartGestures.Script.Replay

/-!
# What a script starts with

A script that starts has settings without a fault, an axis for each one that it declares, and a controller for each one
that it lists. The axes of a family stand in the order of their declarations, each with the bounds the pane has for it
unless it brings its own.
-/

namespace ChartGestures

namespace Pane

variable {α : Type} [Scalar α] [Decimals α]

/-- An axis where a pane puts it. -/
def placed (p : Pane α) (family : AxisFamily) (a : ChartAxis α) : ChartAxis α :=
  if a.bounds.isEmpty then { a with bounds := p.defaultBounds family a } else a

theorem id_placed (p : Pane α) (family : AxisFamily) (a : ChartAxis α) : (p.placed family a).id = a.id := by
  unfold placed
  split <;> rfl

/-- Where an axis goes is up to the surface alone. -/
theorem placed_congr {p q : Pane α} (hviewport : q.viewport = p.viewport) (hsystem : q.system = p.system)
    (family : AxisFamily) (a : ChartAxis α) : q.placed family a = p.placed family a := by
  unfold placed defaultBounds
  rw [hviewport, hsystem]

theorem family_addAxis (p : Pane α) (family : AxisFamily) (a : ChartAxis α) (other : AxisFamily) :
    (p.addAxis family a).family other = p.family other ++ if family == other then [p.placed family a] else [] := by
  cases family <;> cases other <;> first | rfl | exact (List.append_nil _).symm

theorem surface_addAxis (p : Pane α) (family : AxisFamily) (a : ChartAxis α) :
    (p.addAxis family a).viewport = p.viewport ∧ (p.addAxis family a).system = p.system := by
  cases family <;> exact ⟨rfl, rfl⟩

end Pane

variable [Decimals Float]

/-- The axis that a script declares by a specification, whatever was written to it since. -/
def Script.Declares (s : Script) (spec : AxisSpec) (a : ChartAxis Float) : Prop :=
  ∃ b, spec.build = .ok b ∧ ((Pane.new s.viewport s.system).placed spec.family b).SameAxis a

/-- The axes of the pane are those that the script declares, in their order. -/
structure Pane.IsOf (s : Script) (p : Pane Float) : Prop where
  axes : ∀ family, List.Forall₂ s.Declares (s.axes.filter (·.family == family)) (p.family family)

theorem AxisSpec.id_build {spec : AxisSpec} {a : ChartAxis Float} (h : spec.build = .ok a) : a.id = spec.id := by
  rw [build] at h
  cases hkind : (RangeKind.ofName spec.kind).mapError (ScriptError.axisKind spec.id) with
  | error fault =>
    rw [hkind] at h
    cases h
  | ok kind =>
    rw [hkind] at h
    cases h
    cases spec.data <;> cases spec.bounds <;> rfl

namespace Script

variable {s : Script} {spec : AxisSpec} {a b : ChartAxis Float}

theorem Declares.id (h : s.Declares spec a) : a.id = spec.id := by
  obtain ⟨b, hb, hsame⟩ := h
  rw [← hsame.id, Pane.id_placed, AxisSpec.id_build hb]

theorem Declares.sameAxis (h : s.Declares spec a) (hsame : a.SameAxis b) : s.Declares spec b := by
  obtain ⟨c, hc, ha⟩ := h
  exact ⟨c, hc, ha.trans hsame⟩

end Script

namespace Pane.IsOf

variable {s : Script} {p q : Pane Float}

theorem keepsAxes (h : p.IsOf s) (hkeeps : p.KeepsAxes q) : q.IsOf s :=
  ⟨fun family => forall₂_comp (h.axes family) (hkeeps.axes family) fun _ _ _ => Script.Declares.sameAxis⟩

theorem ids (h : p.IsOf s) (family : AxisFamily) :
    p.axisIds family = (s.axes.filter (·.family == family)).map (·.id) := by
  rw [axisIds_eq, ← List.forall₂_eq_eq_eq, List.forall₂_map_left_iff, List.forall₂_map_right_iff]
  exact ((h.axes family).imp fun _ _ => Script.Declares.id).flip

/-- Names that are declared once are there once. -/
theorem nodup (h : p.IsOf s) (hdistinct : (s.axes.map (·.id)).Nodup) : (p.axes.map (·.id)).Nodup := by
  have hy : s.axes.filter (·.family == .y) = s.axes.filter fun spec => !spec.family == .x := by
    refine List.filter_congr fun spec _ => ?_
    cases spec.family <;> rfl
  have hids : p.axes.map (·.id) =
      (s.axes.filter (·.family == .x) ++ s.axes.filter fun spec => !spec.family == .x).map (·.id) := by
    rw [Pane.axes, List.map_append, List.map_append, ← hy, ← h.ids .x, ← h.ids .y]
    rfl
  rw [hids]
  exact ((List.filter_append_perm _ s.axes).map _).nodup_iff.2 hdistinct

end Pane.IsOf

namespace Replay

variable {s : Script} {config : InteractionConfig Float}

/-- The axes declared are added to those that are there. -/
theorem forall₂_addAxes (s : Script) {specs : List AxisSpec} {p q : Pane Float}
    (h : specs.foldlM (fun p spec => (spec.build).map (p.addAxis spec.family)) p = .ok q)
    (hviewport : p.viewport = s.viewport) (hsystem : p.system = s.system) (family : AxisFamily) :
    ∃ added, q.family family = p.family family ++ added ∧
      List.Forall₂ s.Declares (specs.filter (·.family == family)) added := by
  induction specs generalizing p with
  | nil =>
    cases h
    exact ⟨[], (List.append_nil _).symm, .nil⟩
  | cons spec rest ih =>
    rw [List.foldlM_cons] at h
    cases hbuilt : spec.build with
    | error fault =>
      rw [hbuilt] at h
      cases h
    | ok a =>
      rw [hbuilt] at h
      obtain ⟨hviewport', hsystem'⟩ := p.surface_addAxis spec.family a
      obtain ⟨added, hq, hadded⟩ := ih h (hviewport'.trans hviewport) (hsystem'.trans hsystem)
      have hdeclared : s.Declares spec (p.placed spec.family a) := by
        refine ⟨a, hbuilt, ?_⟩
        rw [p.placed_congr (q := Pane.new s.viewport s.system) hviewport.symm hsystem.symm]
        exact .refl _
      rw [hq, Pane.family_addAxis, List.append_assoc, List.filter_cons]
      refine ⟨_, rfl, ?_⟩
      split
      · exact .cons hdeclared hadded
      · exact hadded

theorem isOf_buildPane {p : Pane Float} (h : buildPane s = .ok p) : p.IsOf s := by
  refine ⟨fun family => ?_⟩
  obtain ⟨added, hp, hadded⟩ := forall₂_addAxes s h rfl rfl family
  have hnone : (Pane.new s.viewport s.system : Pane Float).family family = [] := by cases family <;> rfl
  rw [hp, hnone]
  exact hadded

/-- There is a controller for each one that is listed. -/
theorem forall₂_buildControllers {kinds : List ControllerKind} {id : OwnerId} {cs : List (Controller Float)}
    (h : buildControllers config id kinds = .ok cs) :
    List.Forall₂ (fun kind c => ∃ id, kind.build id config = .ok c) kinds cs := by
  induction kinds generalizing id cs with
  | nil =>
    cases h
    exact .nil
  | cons kind rest ih =>
    rw [buildControllers] at h
    cases hkind : kind.build id config with
    | error fault =>
      rw [hkind] at h
      cases h
    | ok c =>
      cases hrest : buildControllers config (id + 1) rest with
      | error fault =>
        rw [hkind, hrest] at h
        cases h
      | ok others =>
        rw [hkind, hrest] at h
        cases h
        exact .cons ⟨id, hkind⟩ (ih hrest)

theorem ofScript_eq {r : Replay} (h : ofScript s config = .ok r) :
    (s.config.getD config).fault? = none ∧ ∃ pane controllers, buildPane s = .ok pane ∧
      buildControllers (s.config.getD config) 0 s.controllers = .ok controllers ∧
      r = ⟨((ControllerGroup.ofList controllers).attach pane).2, ((ControllerGroup.ofList controllers).attach pane).1,
        0⟩ := by
  rw [ofScript] at h
  cases hfault : (s.config.getD config).fault? with
  | some fault =>
    rw [hfault] at h
    cases h
  | none =>
    rw [hfault] at h
    cases hpane : buildPane s with
    | error fault =>
      rw [hpane] at h
      cases h
    | ok pane =>
      cases hbuilt : buildControllers (s.config.getD config) 0 s.controllers with
      | error fault =>
        rw [hpane, hbuilt] at h
        cases h
      | ok controllers =>
        rw [hpane, hbuilt] at h
        cases h
        exact ⟨rfl, pane, controllers, rfl, rfl, rfl⟩

end Replay

end ChartGestures
