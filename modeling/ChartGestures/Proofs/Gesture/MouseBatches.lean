import ChartGestures.Proofs.Gesture.OwnWrites
import ChartGestures.Proofs.Gesture.PointerOwnership
import ChartGestures.Proofs.Pane.Batches

/-!
# What a mouse event announces

A mouse event on a pane without suspensions tells observers of what it changed in one batch, with one exception. A
controller that claims the event makes all of its writes in one scope, and hides the event from those after it; one that
does not claim it has changed nothing. The exception is a pan that fits the y axes to their data after every move: it
pans in one scope and fits in a second one, so that observers see y ranges in between that nobody meant to show.
-/

namespace ChartGestures

variable {α : Type} [Scalar α] [Decimals α] {p : Pane α}

/-! ### Single controllers -/

/-- A controller that takes what its watch has seen and then makes own writes announces what the writes do. -/
theorem Pane.announces_own (hidle : p.notifier.IsIdle) (owner : OwnerId) {f : Pane α → Pane α} {count : Nat}
    (hf : ∀ n : Notifier α, n.IsIdle → { p with notifier := n }.Announces (f { p with notifier := n }) count) :
    p.Announces ((p.takeExternal owner).2.asOwnWrites owner f) count := by
  let begun : Pane α := { p with notifier := (p.takeExternal owner).2.notifier.beginOwnWrites owner }
  have htaken : p.Announces (p.takeExternal owner).2 0 := announces_updateWatch owner _ rfl
  have hbegun : (p.takeExternal owner).2.Announces begun 0 := announces_updateWatch owner _ rfl
  have hwritten : begun.Announces (f begun) count := hf _ (hbegun.isIdle (htaken.isIdle hidle))
  have hended : (f begun).Announces ((p.takeExternal owner).2.asOwnWrites owner f) 0 :=
    announces_updateWatch owner _ rfl
  have hall := ((htaken.trans hbegun).trans hwritten).trans hended
  simp only [Nat.zero_add, Nat.add_zero] at hall
  exact hall

theorem Pane.suspended_writeAll_withNotifier (writes : AxisWrites α) (p : Pane α) (n : Notifier α) :
    ∃ n', { p with notifier := n }.suspended (writeAll writes) = { p.writeAll writes with notifier := n' } := by
  obtain ⟨n₁, hscope⟩ := suspended_writeAll writes { p with notifier := n }
  obtain ⟨n₂, hwritten⟩ := writeAll_withNotifier writes p n
  rw [hwritten] at hscope
  exact ⟨n₁, hscope⟩

/-- Who writes in a scope announces the same whatever the notifier has been through. -/
theorem Pane.announces_withNotifier {n : Notifier α} (hidle : n.IsIdle) (writes : AxisWrites α) :
    { p with notifier := n }.Announces ({ p with notifier := n }.suspended (writeAll writes))
      (changedBy writes p).toNat := by
  have hscope := announces_suspended_writeAll (p := { p with notifier := n }) hidle writes
  rw [changedBy_withNotifier] at hscope
  exact hscope

theorem Pane.announces_zoomToExtents (hidle : p.notifier.IsIdle) (direction : XyDirection) (nanos : Nat) :
    ∃ count ≤ 1, p.Announces (p.zoomToExtents direction nanos) count := by
  have hfamily (family : AxisFamily) : ∃ count ≤ 1, p.Announces (p.zoomFamilyToExtents family nanos) count := by
    rw [zoomFamilyToExtents_eq]
    exact announces_suspended hidle (nests_writeAll _)
  cases direction with
  | x => exact hfamily .x
  | y => exact hfamily .y
  | xy =>
    -- the scope around both families makes one batch of them
    exact announces_suspended hidle ((nests_zoomFamilyToExtents .y nanos).comp (nests_zoomFamilyToExtents .x nanos))

namespace AxisDrag

theorem announces_mouseDown (c : AxisDrag α) (args : MouseArgs α) (p : Pane α) :
    p.Announces (c.mouseDown args p).pane 0 := by
  rcases c.mouseDown_cases args p with hignored | ⟨-, -, htaken⟩
  · rw [hignored]
    exact Pane.announces_of_notifier_eq rfl
  · exact Pane.announces_updateWatch c.id _ htaken

theorem announces_mouseMove (c : AxisDrag α) (hidle : p.notifier.IsIdle) (args : MouseArgs α) :
    ∃ count ≤ 1, p.Announces (c.mouseMove args p).pane count := by
  cases hsession : c.session with
  | none =>
    rw [mouseMove, hsession]
    exact ⟨0, Nat.zero_le 1, Pane.announces_of_notifier_eq rfl⟩
  | some s =>
    let s' := rebase s (p.takeExternal c.id).1 (p.takeExternal c.id).2
    let writes : AxisWrites α := [(s'.axisId, drag c.config s' args.point)]
    refine ⟨(Pane.changedBy writes p).toNat, Bool.toNat_le _, ?_⟩
    simp only [mouseMove, hsession]
    exact Pane.announces_own hidle c.id fun n hn => Pane.announces_withNotifier hn writes

end AxisDrag

namespace RubberBand

theorem announces_zoom (hidle : p.notifier.IsIdle) (config : RubberBandConfig α) (s : BandSession α) :
    ∃ count ≤ 1, p.Announces (zoom config s p) count := by
  have hfamily (family : AxisFamily) : Pane.Nests (zoomFamily config s family) := by
    intro p
    exact Pane.Nests.foldl (fun id => Pane.nests_writeAxis id fun a => a.animateTo (s.covered family a) config.animation)
      (p.axisIds family) p
  have hextents := Pane.nests_zoomFamilyToExtents (α := α) .y config.animation
  refine Pane.announces_suspended hidle ?_
  cases config.isXAxisOnly with
  | true =>
    cases config.zoomExtentsY with
    | true => exact hextents.comp (hfamily .x)
    | false => exact hfamily .x
  | false => exact (hfamily .y).comp (hfamily .x)

theorem announces_mouseUp [Trigonometry α] (c : RubberBand α) (hidle : p.notifier.IsIdle) (args : MouseArgs α) :
    ∃ count ≤ 1, p.Announces (c.mouseUp args p).pane count := by
  unfold mouseUp
  split
  · exact ⟨0, Nat.zero_le 1, Pane.announces_of_notifier_eq rfl⟩
  · have hended : ((p.removeOverlay c.id).release c.id).notifier = p.notifier := Pane.notifier_release ..
    have hquiet : p.Announces ((p.removeOverlay c.id).release c.id) 0 := Pane.announces_of_notifier_eq hended
    dsimp only
    split
    · exact ⟨0, Nat.zero_le 1, hquiet⟩
    · obtain ⟨count, hle, hzoomed⟩ := announces_zoom (hquiet.isIdle hidle) c.config _
      have hall := hquiet.trans hzoomed
      rw [Nat.zero_add] at hall
      exact ⟨count, hle, hall⟩

end RubberBand

namespace WheelZoom

variable {c : WheelZoom α} {args : MouseArgs α}

/-- Where the wheel affects no axis, its writes change none. -/
theorem changedBy_writes {ids : List String}
    (h : (ids.any fun id => (p.axis? id).any (affects c.config (notches c.config args.wheelDelta) args.point)) = false) :
    Pane.changedBy (c.writes args ids) p = false := by
  induction ids generalizing p with
  | nil => rfl
  | cons id rest ih =>
    rw [List.any_cons, Bool.or_eq_false_iff] at h
    have hturn (a : ChartAxis α) (ha : p.axis? id = some a) :
        turn c.config (notches c.config args.wheelDelta) args.point a = a.unchanged := by
      have hnone := h.1
      rw [ha, Option.any_some] at hnone
      rw [turn, hnone]
      rfl
    have hsame (other : String) :
        (p.writeAxis id (turn c.config (notches c.config args.wheelDelta) args.point)).axis? other = p.axis? other := by
      rw [Pane.axis?_writeAxis (id_turn c.config _ _)]
      split
      · next heq =>
        rw [heq]
        cases ha : p.axis? id with
        | none => rfl
        | some a =>
          rw [Option.map_some, hturn a ha]
          rfl
      · rfl
    have hhead : p.changes id (turn c.config (notches c.config args.wheelDelta) args.point) = false := by
      rw [Pane.changes]
      cases ha : p.axis? id with
      | none => rfl
      | some a =>
        rw [Option.any_some, hturn a ha]
        rfl
    show (p.changes id _ || Pane.changedBy (c.writes args rest) (p.writeAxis id _)) = false
    rw [hhead, Bool.false_or]
    apply ih
    simp only [hsame]
    exact h.2

/-- A turn of the wheel that is not claimed announces nothing. -/
theorem announces_wheel (c : WheelZoom α) (hidle : p.notifier.IsIdle) (args : MouseArgs α) :
    ∃ count ≤ 1, p.Announces (c.wheel args p).pane count ∧ ((c.wheel args p).handled = false → count = 0) := by
  by_cases hstill : (args.wheelDelta == 0) = true
  · rw [wheel, if_pos hstill]
    exact ⟨0, Nat.zero_le 1, Pane.announces_of_notifier_eq rfl, fun _ => rfl⟩
  · have hpane := c.pane_wheel args p
    rw [if_neg hstill] at hpane
    rw [hpane]
    refine ⟨_, Bool.toNat_le _, Pane.announces_suspended_writeAll hidle _, fun hunclaimed => ?_⟩
    rw [wheel, if_neg hstill] at hunclaimed
    rw [changedBy_writes hunclaimed]
    rfl

end WheelZoom

/-! ### Pans -/

namespace ZoomPan

variable {c : ZoomPan α} {args : MouseArgs α}

theorem announces_mouseDown (c : ZoomPan α) (args : MouseArgs α) (p : Pane α) :
    p.Announces (c.mouseDown args p).pane 0 := by
  rcases c.mouseDown_cases args p with hignored | ⟨-, -, htaken⟩
  · rw [hignored]
    exact Pane.announces_of_notifier_eq rfl
  · exact Pane.announces_updateWatch c.id _ htaken

/-- What a move of the drag pans. -/
def panWrites (s : PanSession α) (args : MouseArgs α) (p : Pane α) : AxisWrites α :=
  s.target.writes (args.point - s.lastPoint) (args.point - s.startPoint) s.categoryStarts p

/-- What fitting the y axes to their data writes. -/
def fitWrites (p : Pane α) : AxisWrites α := (p.axisIds .y).map fun id => (id, (·.zoomToExtents 0))

/-- The drag that a move goes on with. -/
def going (c : ZoomPan α) (s : PanSession α) (p : Pane α) : PanSession α := rebase s (p.takeExternal c.id).1 p

/-- Whether a pan to a point changes an axis, and whether fitting the y axes after it changes one. -/
def pans (c : ZoomPan α) (s : PanSession α) (args : MouseArgs α) (p : Pane α) : Bool :=
  Pane.changedBy (panWrites (c.going s p) args p) p

def fits (c : ZoomPan α) (s : PanSession α) (args : MouseArgs α) (p : Pane α) : Bool :=
  let panned := p.writeAll (panWrites (c.going s p) args p)
  c.config.zoomExtentsY && s.target.panY && Pane.changedBy (fitWrites panned) panned

/-- Whether a move changes axes in two scopes. -/
def pansThenFits (c : ZoomPan α) (args : MouseArgs α) (p : Pane α) : Bool :=
  c.session.any fun s => c.pans s args p && c.fits s args p

theorem announces_panTo {s : PanSession α} (hidle : p.notifier.IsIdle) :
    p.Announces (c.panTo (rebase s (p.takeExternal c.id).1 (p.takeExternal c.id).2) args (p.takeExternal c.id).2)
      ((c.pans s args p).toNat + (c.fits s args p).toNat) := by
  refine Pane.announces_own hidle c.id fun n hn => ?_
  change { p with notifier := n }.Announces
    (if (c.config.zoomExtentsY && (c.going s p).target.panY) = true then
      ((c.going s p).target.pan (args.point - (c.going s p).lastPoint) (args.point - (c.going s p).startPoint)
        (c.going s p).categoryStarts { p with notifier := n }).zoomFamilyToExtents .y 0
    else (c.going s p).target.pan (args.point - (c.going s p).lastPoint) (args.point - (c.going s p).startPoint)
        (c.going s p).categoryStarts { p with notifier := n }) _
  rw [PanTarget.pan_eq]
  let pan := panWrites (c.going s p) args p
  have hpans : { p with notifier := n }.Announces ({ p with notifier := n }.suspended (Pane.writeAll pan))
      (c.pans s args p).toNat := Pane.announces_withNotifier hn pan
  have hidle' := hpans.isIdle hn
  -- after the pan the notifier has been through its scope, and the axes are written to
  obtain ⟨n', hn'⟩ := Pane.suspended_writeAll_withNotifier pan p n
  rw [hn'] at hpans hidle'
  have hpanned : { p with notifier := n }.suspended (Pane.writeAll ((c.going s p).target.writes
      (args.point - (c.going s p).lastPoint) (args.point - (c.going s p).startPoint) (c.going s p).categoryStarts
      { p with notifier := n })) = { p.writeAll pan with notifier := n' } := hn'
  rw [hpanned, fits, show (c.going s p).target = s.target from target_rebase ..]
  cases c.config.zoomExtentsY && s.target.panY with
  | false => exact hpans
  | true =>
    rw [if_pos rfl, Bool.true_and, Pane.zoomFamilyToExtents_eq]
    exact hpans.trans (Pane.announces_withNotifier hidle' (fitWrites (p.writeAll pan)))

/-- A move announces a pan and a fit each in a batch of its own. -/
theorem announces_mouseMove (c : ZoomPan α) (hidle : p.notifier.IsIdle) (args : MouseArgs α) :
    ∃ count ≤ 2, p.Announces (c.mouseMove args p).pane count ∧ (count = 2 ↔ c.pansThenFits args p = true) := by
  cases hsession : c.session with
  | none =>
    rw [mouseMove, hsession]
    refine ⟨0, Nat.zero_le 2, Pane.announces_of_notifier_eq rfl, ?_⟩
    rw [pansThenFits, hsession]
    exact iff_of_false (by decide) Bool.false_ne_true
  | some s =>
    rw [mouseMove_of_session hsession rfl, pansThenFits, hsession, Option.any_some]
    refine ⟨_, ?_, announces_panTo hidle, ?_⟩
    · cases c.pans s args p <;> cases c.fits s args p <;> decide
    · cases c.pans s args p <;> cases c.fits s args p <;> decide

end ZoomPan

/-! ### Any controller -/

namespace Controller

/-- Whether a controller changes axes in two scopes when it is offered an event. -/
def pansThenFits {α : Type} [Scalar α] [Decimals α] (kind : MouseEventKind) (c : Controller α) (args : MouseArgs α)
    (p : Pane α) : Bool :=
  match kind, c with
  | .move, zoomPan c => c.pansThenFits args p
  | _, _ => false

theorem pansThenFits_of_ne_move {kind : MouseEventKind} (hkind : kind ≠ .move) (c : Controller α) (args : MouseArgs α)
    (p : Pane α) : c.pansThenFits kind args p = false := by
  cases kind with
  | move => exact absurd rfl hkind
  | down | up | wheel | doubleClick => rfl

/-- Only a drag pans. -/
theorem pansThenFits_of_not_inSession {c : Controller α} (hc : c.inSession = false) (kind : MouseEventKind)
    (args : MouseArgs α) (p : Pane α) : c.pansThenFits kind args p = false := by
  cases c with
  | zoomPan c =>
    have hnone : c.session = none := by simpa [inSession, ZoomPan.isDragging] using hc
    cases kind with
    | move =>
      show c.pansThenFits args p = false
      rw [ZoomPan.pansThenFits, hnone]
      rfl
    | down | up | wheel | doubleClick => rfl
  | _ => cases kind <;> rfl

variable [Trigonometry α] {c : Controller α}

/-- A move is claimed by the drag that is on, and is nothing to the others. -/
theorem mouse_move_of_not_inSession (hc : c.inSession = false) (args : MouseArgs α) (p : Pane α) :
    mouse .move c args p = .ignore c p := by
  cases c with
  | axisDrag c =>
    have hnone : c.session = none := by simpa [inSession, AxisDrag.isDragging] using hc
    simp only [mouse, AxisDrag.mouseMove, hnone]
    rfl
  | rubberBand c =>
    have hnone : c.session = none := by simpa [inSession, RubberBand.isDragging] using hc
    simp only [mouse, RubberBand.mouseMove, hnone]
    rfl
  | zoomPan c =>
    have hnone : c.session = none := by simpa [inSession, ZoomPan.isDragging] using hc
    simp only [mouse, ZoomPan.mouseMove, hnone]
    rfl
  | _ => rfl

theorem handled_mouse_move (hc : c.inSession = true) (args : MouseArgs α) (p : Pane α) :
    (mouse .move c args p).handled = true := by
  cases c with
  | axisDrag c =>
    obtain ⟨s, hs⟩ := Option.isSome_iff_exists.1 hc
    simp [mouse, AxisDrag.mouseMove, hs, Reaction.map]
  | rubberBand c =>
    obtain ⟨s, hs⟩ := Option.isSome_iff_exists.1 hc
    simp [mouse, RubberBand.mouseMove, hs, Reaction.map]
  | zoomPan c =>
    obtain ⟨s, hs⟩ := Option.isSome_iff_exists.1 hc
    simp [mouse, ZoomPan.mouseMove, hs, Reaction.map]
  | wheelZoom _ | pinchZoom _ | zoomExtents _ => cases hc

/-- What a controller announces of an event: one batch at most unless it pans and then fits, and none without a claim. -/
structure Announces (kind : MouseEventKind) (c : Controller α) (args : MouseArgs α) (p : Pane α) (count : Nat) : Prop where
  announces : p.Announces (mouse kind c args p).pane count
  le : count ≤ 2
  two : count = 2 ↔ c.pansThenFits kind args p = true
  unclaimed : (mouse kind c args p).handled = false → count = 0

variable {kind : MouseEventKind} {args : MouseArgs α}

/-- A controller that has one scope. -/
theorem announces_of_le_one (hfits : c.pansThenFits kind args p = false)
    (h : ∃ count ≤ 1, p.Announces (mouse kind c args p).pane count ∧
      ((mouse kind c args p).handled = false → count = 0)) : ∃ count, Announces kind c args p count := by
  obtain ⟨count, hle, hannounces, hunclaimed⟩ := h
  refine ⟨count, hannounces, by omega, ?_, hunclaimed⟩
  rw [hfits]
  constructor
  · intro htwo
    omega
  · nofun

/-- A controller that does not touch the notifier. -/
theorem announces_of_notifier_eq (hfits : c.pansThenFits kind args p = false)
    (h : (mouse kind c args p).pane.notifier = p.notifier) : ∃ count, Announces kind c args p count :=
  announces_of_le_one hfits ⟨0, Nat.zero_le 1, Pane.announces_of_notifier_eq h, fun _ => rfl⟩

/-- A controller that claims what it announces. -/
theorem announces_of_claimed (hfits : c.pansThenFits kind args p = false)
    (h : ∃ count ≤ 1, p.Announces (mouse kind c args p).pane count)
    (hclaimed : (mouse kind c args p).handled = false → (mouse kind c args p).pane = p) :
    ∃ count, Announces kind c args p count := by
  cases hhandled : (mouse kind c args p).handled with
  | false => exact announces_of_notifier_eq hfits (congrArg Pane.notifier (hclaimed hhandled))
  | true =>
    obtain ⟨count, hle, hannounces⟩ := h
    refine announces_of_le_one hfits ⟨count, hle, hannounces, fun hunclaimed => ?_⟩
    rw [hhandled] at hunclaimed
    cases hunclaimed

/-- A move that is not claimed found no drag. -/
theorem pane_mouse_move (hunclaimed : (mouse .move c args p).handled = false) : (mouse .move c args p).pane = p := by
  cases hc : c.inSession with
  | false => rw [mouse_move_of_not_inSession hc]; rfl
  | true =>
    rw [handled_mouse_move hc] at hunclaimed
    cases hunclaimed

theorem announces_mouse (hidle : p.notifier.IsIdle) (kind : MouseEventKind) (c : Controller α) (args : MouseArgs α) :
    ∃ count, Announces kind c args p count := by
  cases c with
  | axisDrag c =>
    cases kind with
    | down =>
      exact announces_of_le_one rfl ⟨0, Nat.zero_le 1, c.announces_mouseDown args p, fun _ => rfl⟩
    | move => exact announces_of_claimed rfl (c.announces_mouseMove hidle args) pane_mouse_move
    | up => exact announces_of_notifier_eq rfl (c.notifier_endDrag p)
    | wheel | doubleClick => exact announces_of_notifier_eq rfl rfl
  | rubberBand c =>
    cases kind with
    | down => exact announces_of_notifier_eq rfl (c.notifier_mouseDown args p)
    | move => exact announces_of_notifier_eq rfl (c.notifier_mouseMove args p)
    | up =>
      refine announces_of_claimed rfl (c.announces_mouseUp hidle args) fun hunclaimed => ?_
      cases hc : (rubberBand c).inSession with
      | false => rw [mouse_up_of_not_inSession hc]; rfl
      | true =>
        rw [(mouse_up_of_inSession hc args p).2] at hunclaimed
        cases hunclaimed
    | wheel | doubleClick => exact announces_of_notifier_eq rfl rfl
  | zoomPan c =>
    cases kind with
    | down =>
      exact announces_of_le_one rfl ⟨0, Nat.zero_le 1, c.announces_mouseDown args p, fun _ => rfl⟩
    | move =>
      obtain ⟨count, hle, hannounces, htwo⟩ := c.announces_mouseMove hidle args
      cases hc : (zoomPan c).inSession with
      | false =>
        have hignored := mouse_move_of_not_inSession hc args p
        exact announces_of_notifier_eq (pansThenFits_of_not_inSession hc .move args p) (congrArg (·.pane.notifier) hignored)
      | true =>
        refine ⟨count, hannounces, hle, htwo, fun hunclaimed => ?_⟩
        rw [handled_mouse_move hc] at hunclaimed
        cases hunclaimed
    | up => exact announces_of_notifier_eq rfl (c.notifier_mouseUp args p)
    | wheel | doubleClick => exact announces_of_notifier_eq rfl rfl
  | wheelZoom c =>
    cases kind with
    | wheel => exact announces_of_le_one rfl (c.announces_wheel hidle args)
    | down | move | up | doubleClick => exact announces_of_notifier_eq rfl rfl
  | zoomExtents c =>
    cases kind with
    | doubleClick =>
      by_cases hbutton : (!c.config.executeOn.accepts args.buttons) = true
      · have hignored : mouse .doubleClick (zoomExtents c) args p = .ignore (zoomExtents c) p := by
          show (c.doubleClick args p).map zoomExtents = _
          rw [ZoomExtents.doubleClick, if_pos hbutton]
          rfl
        exact announces_of_notifier_eq rfl (congrArg (·.pane.notifier) hignored)
      · have hshown : mouse .doubleClick (zoomExtents c) args p =
            ⟨zoomExtents c, p.zoomToExtents c.config.direction c.config.animation, true⟩ := by
          show (c.doubleClick args p).map zoomExtents = _
          rw [ZoomExtents.doubleClick, if_neg hbutton]
          rfl
        refine announces_of_claimed rfl ?_ ?_
        · rw [hshown]
          exact Pane.announces_zoomToExtents hidle ..
        · rw [hshown]
          nofun
    | down | move | up | wheel => exact announces_of_notifier_eq rfl rfl
  | pinchZoom c => cases kind <;> exact announces_of_notifier_eq rfl rfl

end Controller

end ChartGestures
