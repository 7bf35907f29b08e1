import ChartGestures.Proofs.Gesture.KeptAxes
import ChartGestures.Proofs.Gesture.YAxes
import ChartGestures.Proofs.Number.Rounding

/-!
# Turns of the wheel

A turn of the wheel passes by all controllers but those of the wheel, and no call makes one of them out of another
controller. Where no two axes share a name, a turn for both families is made on each axis once. If it is a zoom, its
scale is a finite number, so that it grows every axis of a length around a point that is somewhere.
-/

namespace ChartGestures

variable {α : Type} [Scalar α] [Decimals α]

/-! ### Every axis once -/

namespace WheelZoom

variable {p : Pane α} {c : WheelZoom α} {args : MouseArgs α}

theorem family_wheel (hdistinct : (p.axes.map (·.id)).Nodup) (hdirection : c.config.direction = .xy)
    (hmaster : args.isMaster = true) (hdelta : (args.wheelDelta == 0) = false) (family : AxisFamily) :
    (c.wheel args p).pane.family family =
      (p.family family).map fun a => (turn c.config (notches c.config args.wheelDelta) args.point a).axis := by
  have hids : p.axisIdsIn c.config.direction args.isMaster = p.axisIds .x ++ p.axisIds .y := by
    rw [hdirection, hmaster]
    rfl
  have hsplit : c.writes args (p.axisIds .x ++ p.axisIds .y) =
      c.writes args (p.axisIds .x) ++ c.writes args (p.axisIds .y) := List.map_append
  have hwrites (axes : List (ChartAxis α)) : c.writes args (axes.map (·.id)) =
      axes.map fun a => (a.id, turn c.config (notches c.config args.wheelDelta) args.point) := List.map_map
  rw [Pane.axes, List.map_append, List.nodup_append] at hdistinct
  obtain ⟨hx, hy, hdisjoint⟩ := hdistinct
  rw [pane_wheel, hdelta, if_neg Bool.false_ne_true, hids, hsplit]
  -- no y axis bears the name of an x axis, so that each family takes the writes meant for it and no others
  have hapart : ∀ w ∈ c.writes args (p.axisIds .y), w.1 ∉ p.axisIds .x := by
    intro w hw hmem
    obtain ⟨id, hid, rfl⟩ := List.mem_map.1 hw
    exact hdisjoint id hmem id hid rfl
  cases family with
  | x =>
    refine (Pane.xAxes_suspended_writeAll (c.keepNames_writes args _) hapart).trans ?_
    rw [Pane.axisIds, hwrites]
    exact Pane.writeAllIn_map (id_turn c.config _ _) hx
  | y =>
    have hkeep : (c.writes args (p.axisIds .x) ++ c.writes args (p.axisIds .y)).KeepNames :=
      hsplit ▸ c.keepNames_writes args _
    have hnone : (c.writes args (p.axisIds .x)).filter (fun w => w.1 ∉ p.axisIds .x) = [] := by
      refine List.filter_eq_nil_iff.2 fun w hw => ?_
      obtain ⟨id, hid, rfl⟩ := List.mem_map.1 hw
      simpa using hid
    have hall : (c.writes args (p.axisIds .y)).filter (fun w => w.1 ∉ p.axisIds .x) = c.writes args (p.axisIds .y) :=
      List.filter_eq_self.2 fun w hw => by simpa using hapart w hw
    refine (Pane.yAxes_suspended_writeAll hkeep p).trans ?_
    rw [List.filter_append, hnone, hall, List.nil_append, Pane.axisIds, hwrites]
    exact Pane.writeAllIn_map (id_turn c.config _ _) hy

end WheelZoom

/-- A zoom grows every axis of a length around a point that is somewhere. -/
theorem ChartAxis.zoomAt_eq_zoomBy {a : ChartAxis α} {anchor : Point α} {scale : α} (hlength : ¬ a.pixelExtent ≤ 0)
    (hextent : Scalar.isFinite a.pixelExtent = true) (hanchor : Scalar.isFinite (a.pixelOffset anchor) = true)
    (hscale : Scalar.isFinite scale = true) :
    ∃ low high, a.zoomFractionsAt anchor scale = some (low, high) ∧ a.zoomAt anchor scale = a.zoomBy low high := by
  have hgrows : ∃ low high, a.zoomFractionsAt anchor scale = some (low, high) := by
    refine ⟨_, _, if_neg ?_⟩
    simp [hlength, hextent, hanchor, hscale]
  obtain ⟨low, high, hfractions⟩ := hgrows
  refine ⟨low, high, hfractions, ?_⟩
  rw [zoomAt, hfractions]

/-- The scale of a zoom is finite, however far the wheel was turned. -/
theorem WheelZoom.isFinite_scaleFor {config : WheelZoomConfig Float} {delta : Float} (hpositive : 0 < config.growFactor)
    (hsmall : config.growFactor < 1) (hnotches : 0 < config.maxNotches) (hdelta : Scalar.isNaN delta = false) :
    Scalar.isFinite (scaleFor config (notches config delta)) = true := by
  have hbelow : ¬ config.growFactor < 0 := fun h => Scalar.lt_irrefl _ (Scalar.lt_trans h hpositive)
  have habove : ¬ 1 < config.growFactor := fun h => Scalar.lt_irrefl _ (Scalar.lt_trans h hsmall)
  have hfactor : Scalar.isFinite config.growFactor = true :=
    Scalar.isFinite_of_between (Binary.isNaN_of_lt hpositive).2 (by decide +kernel) (by decide +kernel) hbelow habove
  have hlimit := (Binary.isNaN_of_lt hnotches).2
  obtain ⟨sign, m, e, hm, hunpack⟩ := Binary.exists_unpack_of_pos hpositive hfactor
  have hshare : Scalar.isNaN (delta / notchDelta) = false := Binary.isNaN_div (y := notchDelta) hdelta rfl
  have hcount : Scalar.isNaN (notches config delta) = false := Scalar.isNaN_clamp hshare (Binary.isNaN_neg hlimit) hlimit
  have hproduct := Binary.isNaN_mul (Binary.unpack_neg hunpack) hcount
  exact Scalar.isFinite_clamp hproduct (by decide +kernel) (by decide +kernel)

/-! ### Controllers of the wheel -/

namespace Controller

/-- The settings of a controller of the wheel. -/
def wheelConfig? : Controller α → Option (WheelZoomConfig α)
  | wheelZoom c => some c.config
  | _ => none

theorem wheelConfig?_attached (c : Controller α) (p : Pane α) : (c.attached p).1.wheelConfig? = c.wheelConfig? := by
  cases c <;> rfl

variable [Trigonometry α]

/-- No controller becomes one of the wheel, or another one. -/
theorem wheelConfig?_after (c : Controller α) (p : Pane α) (call : ControllerCall α) :
    (c.after p call).1.wheelConfig? = c.wheelConfig? := by
  cases c with
  | wheelZoom c =>
    cases call with
    | mouse kind args =>
      cases kind with
      | wheel =>
        change (Controller.wheelZoom (c.wheel args p).controller).wheelConfig? = _
        unfold WheelZoom.wheel
        split <;> rfl
      | down | move | up | doubleClick => rfl
    | touch action args => cases action <;> rfl
    | tick now | lostCapture => rfl
  | _ =>
    cases call with
    | mouse kind args => cases kind <;> rfl
    | touch action args => cases action <;> rfl
    | tick now | lostCapture => rfl

theorem mouse_wheel_of_none {c : Controller α} (h : c.wheelConfig? = none) (args : MouseArgs α) (p : Pane α) :
    mouse .wheel c args p = .ignore c p := by
  cases c with
  | wheelZoom c => cases h
  | _ => rfl

end Controller

namespace ControllerGroup

variable [Trigonometry α] {cs : List (Controller α)}

/-- If one controller is of the wheel, a turn is for it. -/
theorem pane_offer_wheel {config : WheelZoomConfig α} (hone : cs.countP (·.wheelConfig?.isSome) = 1)
    (hconfig : ∀ c ∈ cs, ∀ other, c.wheelConfig? = some other → other = config) (args : MouseArgs α) (p : Pane α) :
    ∃ c : WheelZoom α, c.config = config ∧
      (offer (fun c => Controller.mouse .wheel c args) cs p false).2.1 = (c.wheel args p).pane := by
  induction cs with
  | nil => cases hone
  | cons c rest ih =>
    obtain ⟨hc, hrest⟩ := List.forall_mem_cons.1 hconfig
    rw [List.countP_cons] at hone
    cases hwheel : c.wheelConfig? with
    | none =>
      rw [hwheel] at hone
      rw [offer_cons_ignored _ (Controller.mouse_wheel_of_none hwheel args p)]
      exact ih hone hrest
    | some other =>
      cases c with
      | wheelZoom w =>
        refine ⟨w, hc _ rfl, ?_⟩
        have hothers : ∀ d ∈ rest, ∀ q, Controller.mouse .wheel d args q = .ignore d q := by
          rw [hwheel] at hone
          have hzero : rest.countP (·.wheelConfig?.isSome) = 0 := Nat.succ.inj hone
          intro d hd
          have hnone : d.wheelConfig? = none := by simpa using List.countP_eq_zero.1 hzero d hd
          exact Controller.mouse_wheel_of_none hnone args
        rw [offer_cons, offer_ignored _ hothers]
        rfl
      | _ => cases hwheel

end ControllerGroup

end ChartGestures
