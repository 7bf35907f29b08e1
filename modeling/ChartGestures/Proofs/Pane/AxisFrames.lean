import ChartGestures.Proofs.Pane.Writes
import ChartGestures.Proofs.Range.Scrolling
import Mathlib.Data.List.Forall2

/-!
# The axes of a pane stay the same axes

What is written to an axis changes the range it shows, its margin or its animation; its name, its place on the screen,
its data and its settings stay. An axis is only ever written to in its place, so that every axis of a pane is the one that
was there before.
-/

namespace ChartGestures

variable {α : Type} [Scalar α] [Decimals α]

/-- All is the same but the range shown, the margin and the animation. -/
structure ChartAxis.SharesFrame (a b : ChartAxis α) : Prop where
  horizontal : a.horizontal = b.horizontal
  flip : a.flip = b.flip
  category : a.category = b.category
  kind : a.visible.kind = b.visible.kind
  data : a.data = b.data
  autoRange : a.autoRange = b.autoRange
  bounds : a.bounds = b.bounds

/-- One axis at two times. -/
structure ChartAxis.SameAxis (a b : ChartAxis α) : Prop extends a.SharesFrame b where
  id : a.id = b.id

namespace ChartAxis

variable {a b c : ChartAxis α}

theorem SharesFrame.refl (a : ChartAxis α) : a.SharesFrame a := ⟨rfl, rfl, rfl, rfl, rfl, rfl, rfl⟩

theorem SharesFrame.trans (h : a.SharesFrame b) (h' : b.SharesFrame c) : a.SharesFrame c where
  horizontal := h.horizontal.trans h'.horizontal
  flip := h.flip.trans h'.flip
  category := h.category.trans h'.category
  kind := h.kind.trans h'.kind
  data := h.data.trans h'.data
  autoRange := h.autoRange.trans h'.autoRange
  bounds := h.bounds.trans h'.bounds

namespace SameAxis

theorem refl (a : ChartAxis α) : a.SameAxis a := ⟨.refl a, rfl⟩

theorem trans (h : a.SameAxis b) (h' : b.SameAxis c) : a.SameAxis c :=
  ⟨h.toSharesFrame.trans h'.toSharesFrame, h.id.trans h'.id⟩

/-! ### Writes -/

theorem setVisible (a : ChartAxis α) (r : Range α) : a.SameAxis (a.setVisible r).axis := by
  unfold ChartAxis.setVisible
  dsimp only
  split
  · split
    · exact ⟨⟨rfl, rfl, rfl, rfl, rfl, rfl, rfl⟩, rfl⟩
    · exact .refl a
  · split
    · exact .refl a
    · exact ⟨⟨rfl, rfl, rfl, (r.kind_convert _).symm, rfl, rfl, rfl⟩, rfl⟩

theorem applyRange (a : ChartAxis α) (r : Range α) : a.SameAxis (a.applyRange r).axis := by
  unfold ChartAxis.applyRange
  split
  · split
    · exact ⟨⟨rfl, rfl, rfl, rfl, rfl, rfl, rfl⟩, rfl⟩
    · exact .refl a
  · exact setVisible a r

theorem animateTo (a : ChartAxis α) (r : Range α) (nanos : Nat) : a.SameAxis (a.animateTo r nanos).axis := by
  unfold ChartAxis.animateTo
  split
  · exact setVisible a r
  · have hbegun : a.SameAxis { a with lastAnimation := some (r, nanos) } := ⟨⟨rfl, rfl, rfl, rfl, rfl, rfl, rfl⟩, rfl⟩
    exact hbegun.trans (setVisible _ r)

theorem zoomToExtents (a : ChartAxis α) (nanos : Nat) : a.SameAxis (a.zoomToExtents nanos).axis := by
  unfold ChartAxis.zoomToExtents
  split
  · exact animateTo a a.data nanos
  · exact .refl a

theorem panFrom (a : ChartAxis α) (base : Range α) (pixels : α) (mode : ClipMode) :
    a.SameAxis (a.panFrom base pixels mode).axis := applyRange ..

theorem scroll (a : ChartAxis α) (pixels : α) (mode : ClipMode) : a.SameAxis (a.scroll pixels mode).axis :=
  panFrom ..

end SameAxis

end ChartAxis

/-- Lists that match in turn. -/
theorem forall₂_comp {α β γ : Type} {R : α → β → Prop} {S : β → γ → Prop} {T : α → γ → Prop} {l : List α} {m : List β}
    {n : List γ} (h : List.Forall₂ R l m) (h' : List.Forall₂ S m n) (hcomp : ∀ a b c, R a b → S b c → T a c) :
    List.Forall₂ T l n := by
  induction h generalizing n with
  | nil =>
    cases h'
    exact .nil
  | cons hab _ ih =>
    cases h' with
    | cons hbc hrest => exact .cons (hcomp _ _ _ hab hbc) (ih hrest)

namespace Pane

/-- The axes of a family. -/
def family (p : Pane α) : AxisFamily → List (ChartAxis α)
  | .x => p.xAxes
  | .y => p.yAxes

theorem axisIds_eq (p : Pane α) (family : AxisFamily) : p.axisIds family = (p.family family).map (·.id) := by
  cases family <;> rfl

/-- Every axis is still there, in its place. -/
structure KeepsAxes (p q : Pane α) : Prop where
  axes : ∀ family, List.Forall₂ ChartAxis.SameAxis (p.family family) (q.family family)

namespace KeepsAxes

variable {p q r : Pane α} {write : ChartAxis α → AxisWrite α}

theorem forall₂_sameAxis (axes : List (ChartAxis α)) : List.Forall₂ ChartAxis.SameAxis axes axes :=
  List.forall₂_same.2 fun a _ => .refl a

theorem of_axes (hx : q.xAxes = p.xAxes) (hy : q.yAxes = p.yAxes) : p.KeepsAxes q := by
  refine ⟨fun family => ?_⟩
  have hsame : q.family family = p.family family := by
    cases family with
    | x => exact hx
    | y => exact hy
  rw [hsame]
  exact forall₂_sameAxis _

theorem refl (p : Pane α) : p.KeepsAxes p := of_axes rfl rfl

theorem trans (h : p.KeepsAxes q) (h' : q.KeepsAxes r) : p.KeepsAxes r :=
  ⟨fun family => forall₂_comp (h.axes family) (h'.axes family) fun _ _ _ => ChartAxis.SameAxis.trans⟩

theorem notifier (p : Pane α) (n : Notifier α) : p.KeepsAxes { p with notifier := n } := of_axes rfl rfl

theorem forall₂_replaceAxis {axes : List (ChartAxis α)} {id : String} {a b : ChartAxis α}
    (ha : axes.find? (·.id == id) = some a) (hb : a.SameAxis b) :
    List.Forall₂ ChartAxis.SameAxis axes (replaceAxis id b axes) := by
  induction axes with
  | nil => exact .nil
  | cons c rest ih =>
    rw [List.find?_cons] at ha
    rw [replaceAxis]
    split
    · next hc =>
      rw [hc] at ha
      cases ha
      exact .cons hb (forall₂_sameAxis rest)
    · next hc =>
      rw [Bool.not_eq_true] at hc
      rw [hc] at ha
      exact .cons (.refl c) (ih ha)

theorem forall₂_writeIn (hwrite : ∀ a : ChartAxis α, a.SameAxis (write a).axis) (axes : List (ChartAxis α)) (id : String) :
    List.Forall₂ ChartAxis.SameAxis axes (writeIn axes id write) := by
  unfold writeIn
  split
  · exact forall₂_sameAxis axes
  · next a ha => exact forall₂_replaceAxis ha (hwrite a)

theorem writeAxis (hwrite : ∀ a : ChartAxis α, a.SameAxis (write a).axis) (p : Pane α) (id : String) :
    p.KeepsAxes (p.writeAxis id write) := by
  refine ⟨fun family => ?_⟩
  cases family with
  | x =>
    rw [Pane.family, Pane.family, xAxes_writeAxis]
    exact forall₂_writeIn hwrite p.xAxes id
  | y =>
    by_cases h : id ∈ p.axisIds .x
    · rw [Pane.family, Pane.family, yAxes_writeAxis_of_mem h]
      exact forall₂_sameAxis p.yAxes
    · rw [Pane.family, Pane.family, yAxes_writeAxis_of_not_mem h]
      exact forall₂_writeIn hwrite p.yAxes id

/-! ### Scopes -/

variable {f : Pane α → Pane α}

theorem foldl {β : Type} {act : Pane α → β → Pane α} (hact : ∀ (p : Pane α) b, p.KeepsAxes (act p b)) (l : List β)
    (p : Pane α) : p.KeepsAxes (l.foldl act p) := by
  induction l generalizing p with
  | nil => exact .refl p
  | cons b rest ih => exact (hact p b).trans (ih (act p b))

theorem suspended (hf : ∀ p : Pane α, p.KeepsAxes (f p)) (p : Pane α) : p.KeepsAxes (p.suspended f) :=
  ((notifier p _).trans (hf _)).trans (notifier _ _)

theorem asOwnWrites (hf : ∀ p : Pane α, p.KeepsAxes (f p)) (owner : OwnerId) (p : Pane α) :
    p.KeepsAxes (p.asOwnWrites owner f) :=
  ((notifier p _).trans (hf _)).trans (notifier _ _)

theorem zoomFamilyToExtents (p : Pane α) (family : AxisFamily) (nanos : Nat) :
    p.KeepsAxes (p.zoomFamilyToExtents family nanos) :=
  suspended (fun p => foldl (fun p id => writeAxis (fun a => ChartAxis.SameAxis.zoomToExtents a nanos) p id) _ p) p

theorem zoomToExtents (p : Pane α) (direction : XyDirection) (nanos : Nat) :
    p.KeepsAxes (p.zoomToExtents direction nanos) := by
  cases direction with
  | x => exact zoomFamilyToExtents p .x nanos
  | y => exact zoomFamilyToExtents p .y nanos
  | xy => exact suspended (fun p => (zoomFamilyToExtents p .x nanos).trans (zoomFamilyToExtents _ .y nanos)) p

/-! ### The pointer and overlays -/

theorem capture {owner : OwnerId} (h : p.capture owner = some q) : p.KeepsAxes q := by
  rw [Pane.capture] at h
  split at h
  · cases h
    exact of_axes rfl rfl
  · cases h

theorem release (p : Pane α) (owner : OwnerId) : p.KeepsAxes (p.release owner) := by
  unfold Pane.release
  split
  · exact of_axes rfl rfl
  · exact .refl p

theorem removeOverlay (p : Pane α) (owner : OwnerId) : p.KeepsAxes (p.removeOverlay owner) := of_axes rfl rfl

end KeepsAxes

end Pane

end ChartGestures
