import ChartGestures.Proofs.Range.Domains

/-!
# Ranges that compare equal

Ranges are compared bound by bound, so that zeros of either sign are equal and a bound that is no number is equal to
nothing. The comparison is symmetric and transitive as that of the numbers is. `Alike` ranges are equal by it or the same
value: whoever writes a range to an axis sees a range alike.
-/

namespace ChartGestures

variable {α V : Type} {d : Domain α V}

/-- The comparison of the values is symmetric and transitive. -/
class Domain.Equates (d : Domain α V) : Prop where
  symm {v w : V} : d.eq v w = true → d.eq w v = true
  trans {u v w : V} : d.eq u v = true → d.eq v w = true → d.eq u w = true

namespace Domain

theorem Equates.of_eq (h : ∀ v w, d.eq v w = true → v = w) : d.Equates where
  symm {v w} hvw := by
    obtain rfl := h v w hvw
    exact hvw
  trans {u v w} huv hvw := by
    obtain rfl := h u v huv
    exact hvw

variable [Scalar α]

instance [PartialEquivBEq α] : (double (α := α)).Equates := ⟨PartialEquivBEq.symm, PartialEquivBEq.trans⟩

instance [PartialEquivBEq α] : (float (α := α)).Equates := ⟨PartialEquivBEq.symm, PartialEquivBEq.trans⟩

instance : (int32 (α := α)).Equates := .of_eq fun _ _ => eq_of_beq

instance : (int64 (α := α)).Equates := .of_eq fun _ _ => eq_of_beq

instance [Decimals α] : (decimal (α := α)).Equates := ⟨Decimals.eq_symm, Decimals.eq_trans⟩

instance : (date (α := α)).Equates := .of_eq fun _ _ h => Date.ext_iff.2 (Date.beq_iff.1 h)

instance : (timeSpan (α := α)).Equates := .of_eq fun _ _ h => TimeSpan.ext_iff.2 (TimeSpan.beq_iff.1 h)

end Domain

namespace Interval

variable [d.Equates] {q r s : Interval d}

theorem eq_symm (h : r.eq s = true) : s.eq r = true := by
  rw [eq, Bool.and_eq_true] at h ⊢
  exact ⟨Domain.Equates.symm h.1, Domain.Equates.symm h.2⟩

theorem eq_trans (hqr : q.eq r = true) (hrs : r.eq s = true) : q.eq s = true := by
  rw [eq, Bool.and_eq_true] at hqr hrs ⊢
  exact ⟨Domain.Equates.trans hqr.1 hrs.1, Domain.Equates.trans hqr.2 hrs.2⟩

end Interval

variable [Scalar α] [PartialEquivBEq α]

namespace IndexRange

variable {q r s : IndexRange α}

theorem eq_symm (h : r.eq s = true) : s.eq r = true := by
  simp only [eq, Bool.and_eq_true] at h ⊢
  obtain ⟨⟨⟨hmin, hmax⟩, hminShadow⟩, hmaxShadow⟩ := h
  exact ⟨⟨⟨BEq.symm hmin, BEq.symm hmax⟩, BEq.symm hminShadow⟩, BEq.symm hmaxShadow⟩

theorem eq_trans (hqr : q.eq r = true) (hrs : r.eq s = true) : q.eq s = true := by
  simp only [eq, Bool.and_eq_true] at hqr hrs ⊢
  obtain ⟨⟨⟨hmin, hmax⟩, hminShadow⟩, hmaxShadow⟩ := hqr
  obtain ⟨⟨⟨hmin', hmax'⟩, hminShadow'⟩, hmaxShadow'⟩ := hrs
  exact ⟨⟨⟨BEq.trans hmin hmin', BEq.trans hmax hmax'⟩, BEq.trans hminShadow hminShadow'⟩,
    BEq.trans hmaxShadow hmaxShadow'⟩

end IndexRange

namespace Range

variable [Decimals α] {q r s : Range α}

theorem eq_symm (h : r.eq s = true) : s.eq r = true := by
  unfold eq at h
  split at h
  case h_8 => exact IndexRange.eq_symm h
  case h_9 => cases h
  all_goals exact Interval.eq_symm h

theorem eq_trans (hqr : q.eq r = true) (hrs : r.eq s = true) : q.eq s = true := by
  unfold eq at hqr
  split at hqr
  case h_8 =>
    cases s with
    | index s => exact IndexRange.eq_trans hqr hrs
    | _ s => cases hrs
  case h_9 => cases hqr
  -- the other kinds are intervals, and the third range has the kind of the second
  all_goals cases s <;> first | exact Interval.eq_trans hqr hrs | cases hrs

instance : PartialEquivBEq (Range α) := ⟨eq_symm, eq_trans⟩

/-- The same range, or one that compares equal. -/
def Alike (r s : Range α) : Prop := r = s ∨ (r == s) = true

omit [PartialEquivBEq α] in
theorem Alike.refl (r : Range α) : r.Alike r := .inl rfl

theorem Alike.symm (h : r.Alike s) : s.Alike r := by
  rcases h with rfl | h
  · exact .refl r
  · exact .inr (BEq.symm h)

theorem Alike.trans (hqr : q.Alike r) (hrs : r.Alike s) : q.Alike s := by
  rcases hqr with rfl | hqr
  · exact hrs
  · rcases hrs with rfl | hrs
    · exact .inr hqr
    · exact .inr (BEq.trans hqr hrs)

end Range

end ChartGestures
