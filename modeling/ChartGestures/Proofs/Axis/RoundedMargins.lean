import ChartGestures.Number.ExactDecimal
import ChartGestures.Proofs.Axis.Direct
import ChartGestures.Proofs.Range.Domains
import Mathlib.Tactic.FieldSimp
import Mathlib.Tactic.Ring

/-!
# Margins on axes of whole numbers

An axis of whole numbers that always follows its data shows the bounds that its margin leads to, rounded. A write solves
for its margin from the bounds as they are shown, and so spreads the shown bounds over the exact ones: `regrown` is where
a written bound ends up before it is rounded again. Within the range shown it comes back to where it was written, since
between two numbers that round to whole ones lie only numbers that do so too. Beyond it the differences grow, and the
range written is the one shown just if both of its bounds come back.
-/

namespace ChartGestures

open Scalar

/-! ### Rounding -/

theorem roundHalfAway_eq_iff {q : ℚ} {n : Int} : roundHalfAway q = n ↔
    (n - 1 / 2 ≤ q ∧ q ≤ n + 1 / 2) ∧ (q = n + 1 / 2 → n < 0) ∧ (q = n - 1 / 2 → 0 < n) := by
  rw [roundHalfAway_eq]
  split
  · next hneg =>
    rw [neg_eq_iff_eq_neg, Int.floor_eq_iff, Int.cast_neg]
    constructor
    · rintro ⟨hupper, hlower⟩
      refine ⟨⟨by linarith, by linarith⟩, fun htie => ?_, fun htie => by linarith⟩
      have hbelow : (n : ℚ) < 0 := by linarith
      exact_mod_cast hbelow
    · rintro ⟨⟨hlower, hupper⟩, -, htie⟩
      refine ⟨by linarith, lt_of_le_of_ne (by linarith) fun heq => ?_⟩
      have hlow : q = n - 1 / 2 := by linarith
      have hone : (1 : ℚ) ≤ n := by exact_mod_cast htie hlow
      linarith
  · next hpos =>
    rw [Int.floor_eq_iff]
    constructor
    · rintro ⟨hlower, hupper⟩
      refine ⟨⟨by linarith, by linarith⟩, fun htie => by linarith, fun htie => ?_⟩
      have habove : (0 : ℚ) < n := by linarith
      exact_mod_cast habove
    · rintro ⟨⟨hlower, hupper⟩, htie, -⟩
      refine ⟨by linarith, lt_of_le_of_ne (by linarith) fun heq => ?_⟩
      have hhigh : q = n + 1 / 2 := by linarith
      have hone : (n : ℚ) ≤ -1 := by exact_mod_cast Int.le_sub_one_of_lt (htie hhigh)
      linarith

/-- A mean reaches the bound of its parts only through the parts it is made of. -/
theorem mean_reaches {x y c t : ℚ} (ht : 0 ≤ t) (ht' : t ≤ 1) (hx : x ≤ c) (hy : y ≤ c)
    (hmean : (1 - t) * x + t * y = c) : (t = 1 ∨ x = c) ∧ (t = 0 ∨ y = c) := by
  have hparts : (1 - t) * (c - x) + t * (c - y) = 0 := by
    rw [← hmean]
    ring
  obtain ⟨hfirst, hsecond⟩ := (add_eq_zero_iff_of_nonneg (mul_nonneg (sub_nonneg.2 ht') (sub_nonneg.2 hx))
    (mul_nonneg ht (sub_nonneg.2 hy))).1 hparts
  refine ⟨(mul_eq_zero.1 hfirst).imp (fun h => (sub_eq_zero.1 h).symm) fun h => (sub_eq_zero.1 h).symm,
    (mul_eq_zero.1 hsecond).imp id fun h => (sub_eq_zero.1 h).symm⟩

/-- What is spread between two numbers that round to whole ones rounds to the whole numbers between these. -/
theorem roundHalfAway_between {p q : ℚ} {m n k : Int} (hp : roundHalfAway p = m) (hq : roundHalfAway q = n)
    (hmn : m < n) (hmk : m ≤ k) (hkn : k ≤ n) : roundHalfAway (p + (k - m) * ((q - p) / (n - m))) = k := by
  obtain ⟨⟨hplow, hphigh⟩, hpneg, hppos⟩ := roundHalfAway_eq_iff.1 hp
  obtain ⟨⟨hqlow, hqhigh⟩, hqneg, hqpos⟩ := roundHalfAway_eq_iff.1 hq
  have hwidth : (0 : ℚ) < n - m := sub_pos.2 (by exact_mod_cast hmn)
  have hmk' : (m : ℚ) ≤ k := by exact_mod_cast hmk
  have hkn' : (k : ℚ) ≤ n := by exact_mod_cast hkn
  obtain ⟨t, ht⟩ : ∃ t : ℚ, t = (k - m) / (n - m) := ⟨_, rfl⟩
  have hk : (k : ℚ) = m + t * (n - m) := by
    rw [ht, div_mul_cancel₀ _ hwidth.ne']
    ring
  have htlow : 0 ≤ t := ht ▸ div_nonneg (sub_nonneg.2 hmk') hwidth.le
  have hthigh : t ≤ 1 := by
    rw [ht, div_le_one hwidth]
    linarith
  have hmean : p + (k - m) * ((q - p) / (n - m)) = k + ((1 - t) * (p - m) + t * (q - n)) := by
    rw [hk]
    field_simp
    ring
  rw [hmean, roundHalfAway_eq_iff]
  have hfirst : 0 ≤ 1 - t := sub_nonneg.2 hthigh
  refine ⟨⟨?_, ?_⟩, fun htie => ?_, fun htie => ?_⟩
  · nlinarith
  · nlinarith
  · obtain ⟨hleft, hright⟩ := mean_reaches (x := p - m) (y := q - n) (c := 1 / 2) htlow hthigh (by linarith)
      (by linarith) (by linarith)
    rcases hright with hstart | hupper
    · have hkm : (k : ℚ) = m := by rw [hk, hstart, zero_mul, add_zero]
      have hlower := hleft.resolve_left (by rw [hstart]; exact zero_ne_one)
      rw [Int.cast_inj.1 hkm]
      exact hpneg (by linarith)
    · exact hkn.trans_lt (hqneg (by linarith))
  · obtain ⟨hleft, hright⟩ := mean_reaches (x := m - p) (y := n - q) (c := 1 / 2) htlow hthigh (by linarith)
      (by linarith) (by linarith)
    rcases hleft with hend | hlower
    · have hkn : (k : ℚ) = n := by rw [hk, hend, one_mul, add_sub_cancel]
      have hupper := hright.resolve_left (by rw [hend]; exact one_ne_zero)
      rw [Int.cast_inj.1 hkn]
      exact hqpos (by linarith)
    · exact (hppos (by linarith)).trans_le hmk

/-! ### Whole bounds -/

namespace Range

variable [Decimals Rat] {d : Interval (Domain.int32 (α := Rat))} {x y : Rat}

omit [Decimals Rat] in
theorem int32_ofCanonical_mono (h : x ≤ y) :
    (Domain.int32 (α := Rat)).ofCanonical x ≤ (Domain.int32 (α := Rat)).ofCanonical y := by
  rw [Int32.le_iff_toInt_le, Domain.toInt_int32_ofCanonical, Domain.toInt_int32_ofCanonical]
  exact max_le_max_left _ (min_le_min_left _ (roundHalfAway_mono x y h))

omit [Decimals Rat] in
theorem ofCanonical_int32 (h : x ≤ y) : (Interval.ofCanonical x y : Interval (Domain.int32 (α := Rat))) =
    ⟨(Domain.int32 (α := Rat)).ofCanonical x, (Domain.int32 (α := Rat)).ofCanonical y⟩ := by
  rw [Interval.ofCanonical, Interval.new, if_neg]
  exact fun hlt => Int32.not_lt.2 (int32_ofCanonical_mono h) (of_decide_eq_true hlt)

omit [Decimals Rat] in
theorem int32_ofCanonical_eq {n : Int32} (h : roundHalfAway x = n.toInt) :
    (Domain.int32 (α := Rat)).ofCanonical x = n := by
  have hlower := n.le_toInt
  have hupper := n.toInt_lt
  rw [← Int32.toInt_inj, Domain.toInt_int32_ofCanonical]
  change max (-2 ^ 31) (min (2 ^ 31 - 1) (roundHalfAway x)) = _
  omega

theorem span_int32_pos (h : d.min < d.max) : 0 < (Range.int32 d).span := by
  have hbounds : (d.min.toInt : Rat) < d.max.toInt := by exact_mod_cast Int32.lt_iff_toInt_lt.1 h
  exact sub_pos.2 hbounds

theorem growBy_int32 (h : d.min < d.max) (below above : Rat) :
    (Range.int32 d).growBy below above =
      .int32 (.ofCanonical (d.canonicalMin - below * (Range.int32 d).span)
        (d.canonicalMax + above * (Range.int32 d).span)) := by
  have hwidth : (0 : Rat) < Scalar.abs (Range.int32 d).span := by
    rw [Scalar.abs, if_neg (not_le.2 (span_int32_pos h))]
    exact span_int32_pos h
  have hgrown : grownBounds d.canonicalMin d.canonicalMax below above Domain.int32.tolerance =
      some (d.canonicalMin - below * (Range.int32 d).span, d.canonicalMax + above * (Range.int32 d).span) := if_pos hwidth
  change Range.int32 (d.growBy below above) = _
  rw [Interval.growBy, hgrown]

end Range

/-- What a margin is solved to, from the bounds as they are shown and the width of the data that they tell. -/
theorem GrowMargin.toShow?_eq [Decimals Rat] {margin : GrowMargin Rat} {visible : Range Rat} {width : Rat}
    (hwidth : width ≠ 0) (hscale : 1 + margin.min + margin.max ≠ 0)
    (hspan : visible.span = width * (1 + margin.min + margin.max)) (desired : Range Rat) :
    margin.toShow? visible desired =
      some ⟨(visible.preciseBounds.1 + margin.min * width - desired.preciseBounds.1) / width,
        (desired.preciseBounds.2 - (visible.preciseBounds.2 - margin.max * width)) / width⟩ := by
  have hready : (1 + margin.min + margin.max == 0 || !isFinite (1 + margin.min + margin.max)) = false := by
    simpa [isFinite, toRat?] using hscale
  have hquotient : (visible.preciseBounds.2 - visible.preciseBounds.1) / (1 + margin.min + margin.max) = width :=
    (div_eq_iff hscale).2 hspan
  have hdata : margin.dataBounds? visible =
      some (visible.preciseBounds.1 + margin.min * width, visible.preciseBounds.2 - margin.max * width) := by
    rw [GrowMargin.dataBounds?, hready, ← hquotient]
    rfl
  have hdiff : visible.preciseBounds.2 - margin.max * width - (visible.preciseBounds.1 + margin.min * width) = width := by
    rw [Range.span] at hspan
    linarith
  have hsome : (width == 0 || !isFinite width) = false := by simpa [isFinite, toRat?] using hwidth
  rw [GrowMargin.toShow?, hdata]
  simp only [Option.bind_eq_bind, Option.bind_some, hdiff, hsome]
  rfl

namespace ChartAxis

section

variable [Decimals Rat] {a : ChartAxis Rat} {d v r : Interval (Domain.int32 (α := Rat))}

/-- The bounds that the margin of the axis leads to, before they are rounded. -/
def exactBounds (a : ChartAxis Rat) : Rat × Rat :=
  (a.data.preciseBounds.1 - a.margin.min * a.data.span, a.data.preciseBounds.2 + a.margin.max * a.data.span)

/-- Where the shown bounds spread over the exact ones take a value. -/
def regrown (a : ChartAxis Rat) (value : Rat) : Rat :=
  a.exactBounds.1 + (value - a.visibleRange.preciseBounds.1) *
    ((a.exactBounds.2 - a.exactBounds.1) / a.visibleRange.span)

/-- A whole number that is written comes back when it is rounded again. -/
def ComesBack (a : ChartAxis Rat) (n : Int32) : Prop :=
  (Domain.int32 (α := Rat)).ofCanonical (a.regrown (ofInt n.toInt)) = n

instance (a : ChartAxis Rat) (n : Int32) : Decidable (a.ComesBack n) := inferInstanceAs (Decidable (_ = _))

/-- An axis of whole numbers that follows data of some width and shows a range of some width. -/
structure FollowsWhole (a : ChartAxis Rat) (d v : Interval (Domain.int32 (α := Rat))) : Prop where
  always : a.autoRange = .always
  kind : a.visible.kind = .int32
  data : a.data = .int32 d
  shown : a.visibleRange = .int32 v
  width : d.min < d.max
  margin : 0 < 1 + a.margin.min + a.margin.max
  span : v.min < v.max

namespace FollowsWhole

theorem exactSpan (a : ChartAxis Rat) :
    a.exactBounds.2 - a.exactBounds.1 = a.data.span * (1 + a.margin.min + a.margin.max) := by
  simp only [exactBounds, Range.span]
  ring

theorem regrown_mono (h : a.FollowsWhole d v) {x y : Rat} (hxy : x ≤ y) : a.regrown x ≤ a.regrown y := by
  have hdata : 0 < a.data.span := h.data ▸ Range.span_int32_pos h.width
  have hshown : 0 < a.visibleRange.span := h.shown ▸ Range.span_int32_pos h.span
  have hrate : 0 ≤ (a.exactBounds.2 - a.exactBounds.1) / a.visibleRange.span := by
    rw [exactSpan]
    exact div_nonneg (mul_nonneg hdata.le h.margin.le) hshown.le
  exact add_le_add_right (mul_le_mul_of_nonneg_right (sub_le_sub_right hxy _) hrate) _

theorem setVisible_eq (h : a.FollowsWhole d v) {margin : GrowMargin Rat}
    (hsolved : a.margin.toShow? a.visibleRange (.int32 r) = some margin) :
    a.setVisible (.int32 r) = ⟨{ a with margin }, true⟩ := by
  have hconverted : (Range.int32 r).convert a.visible.kind = .int32 r := by
    rw [h.kind]
    rfl
  rw [setVisible, hconverted, if_pos h.always, hsolved]

/-- A write shows its bounds spread over the exact ones, rounded again. -/
theorem visibleRange_setVisible (h : a.FollowsWhole d v) (r : Interval (Domain.int32 (α := Rat))) :
    (a.setVisible (.int32 r)).axis.visibleRange =
      .int32 (.ofCanonical (a.regrown r.canonicalMin) (a.regrown r.canonicalMax)) := by
  have hspan : a.visibleRange.span ≠ 0 := h.shown ▸ (Range.span_int32_pos h.span).ne'
  have hscale : 1 + a.margin.min + a.margin.max ≠ 0 := h.margin.ne'
  obtain ⟨width, hwidth⟩ : ∃ width, width = a.visibleRange.span / (1 + a.margin.min + a.margin.max) := ⟨_, rfl⟩
  have hne : width ≠ 0 := hwidth ▸ div_ne_zero hspan hscale
  have hshown : a.visibleRange.span = width * (1 + a.margin.min + a.margin.max) :=
    (hwidth ▸ div_mul_cancel₀ _ hscale).symm
  have hrate : (a.exactBounds.2 - a.exactBounds.1) / a.visibleRange.span = a.data.span / width := by
    rw [exactSpan, hshown]
    field_simp
  rw [h.setVisible_eq (GrowMargin.toShow?_eq hne hscale hshown (.int32 r)), visibleRange, if_pos h.always]
  change a.data.growBy ((a.visibleRange.preciseBounds.1 + a.margin.min * width - r.canonicalMin) / width)
    ((r.canonicalMax - (a.visibleRange.preciseBounds.2 - a.margin.max * width)) / width) = _
  have hlow : a.data.preciseBounds.1 = d.canonicalMin := congrArg (·.preciseBounds.1) h.data
  have hhigh : a.data.preciseBounds.2 = d.canonicalMax := congrArg (·.preciseBounds.2) h.data
  rw [h.data, Range.growBy_int32 h.width, ← h.data, regrown, regrown, hrate, exactBounds, hlow, hhigh]
  congr 2
  · field_simp
    ring
  · rw [Range.span] at hshown
    have htop : a.visibleRange.preciseBounds.2 =
        a.visibleRange.preciseBounds.1 + width * (1 + a.margin.min + a.margin.max) := by linarith
    have hdata : a.data.span = d.canonicalMax - d.canonicalMin := congrArg Range.span h.data
    rw [htop, hdata]
    field_simp
    ring

theorem regrown_eq (h : a.FollowsWhole d v) (value : Rat) : a.regrown value =
    a.exactBounds.1 + (value - v.min.toInt) * ((a.exactBounds.2 - a.exactBounds.1) / (v.max.toInt - v.min.toInt)) := by
  rw [regrown, h.shown]
  rfl

/-- The range shown is made of bounds that come back, unless it had to be held to the limits. -/
theorem comesBack_of_shown (h : a.FollowsWhole d v) (hmin : roundHalfAway a.exactBounds.1 = v.min.toInt)
    (hmax : roundHalfAway a.exactBounds.2 = v.max.toInt) {n : Int32} (hlow : v.min ≤ n) (hhigh : n ≤ v.max) :
    a.ComesBack n := by
  refine Range.int32_ofCanonical_eq ?_
  rw [h.regrown_eq]
  exact roundHalfAway_between hmin hmax (Int32.lt_iff_toInt_lt.1 h.span) (Int32.le_iff_toInt_le.1 hlow)
    (Int32.le_iff_toInt_le.1 hhigh)

theorem comesBack_of_exact (h : a.FollowsWhole d v) (hexact : a.exactBounds = (v.canonicalMin, v.canonicalMax))
    (n : Int32) : a.ComesBack n := by
  have hwidth : (v.max.toInt : Rat) - v.min.toInt ≠ 0 := (Range.span_int32_pos h.span).ne'
  have hsame : a.regrown (ofInt n.toInt) = n.toInt := by
    rw [h.regrown_eq, hexact]
    change (v.min.toInt : Rat) + (n.toInt - v.min.toInt) * ((v.max.toInt - v.min.toInt) / (v.max.toInt - v.min.toInt)) = _
    rw [div_self hwidth, mul_one, add_sub_cancel]
  refine Range.int32_ofCanonical_eq ?_
  rw [hsame]
  exact roundHalfAway_intCast n.toInt

/-- An axis of whole numbers that follows its data shows the range written just if both of its bounds come back. Every
bound within the range shown does, and all do if the margin leads to whole bounds. -/
theorem shows_written_iff (h : a.FollowsWhole d v) (hr : r.min < r.max) :
    ((a.setVisible (.int32 r)).axis.visibleRange = .int32 r ↔ a.ComesBack r.min ∧ a.ComesBack r.max) ∧
    (roundHalfAway a.exactBounds.1 = v.min.toInt → roundHalfAway a.exactBounds.2 = v.max.toInt →
      ∀ n, v.min ≤ n → n ≤ v.max → a.ComesBack n) ∧
    (a.exactBounds = (v.canonicalMin, v.canonicalMax) → ∀ n, a.ComesBack n) := by
  refine ⟨?_, fun hmin hmax n => h.comesBack_of_shown hmin hmax, h.comesBack_of_exact⟩
  have hbounds : (r.min.toInt : Rat) ≤ r.max.toInt := by exact_mod_cast (Int32.lt_iff_toInt_lt.1 hr).le
  have hordered : a.regrown r.canonicalMin ≤ a.regrown r.canonicalMax := h.regrown_mono hbounds
  rw [h.visibleRange_setVisible, Range.ofCanonical_int32 hordered, Range.int32.injEq, Interval.mk.injEq]
  exact Iff.rfl

end FollowsWhole

end

namespace FollowsWhole

/-- An axis whose data starts at zero, under a margin of a quarter on either side. -/
def quartered (top : Int32) : ChartAxis Rat :=
  { ChartAxis.new "x" true (.int32 ⟨0, top⟩) with autoRange := .always, margin := ⟨1 / 4, 1 / 4⟩ }

theorem quartered_shows {top : Int32} {v : Interval (Domain.int32 (α := Rat))}
    (hmin : (Interval.growBy (d := Domain.int32 (α := Rat)) ⟨0, top⟩ (1 / 4) (1 / 4)).min = v.min)
    (hmax : (Interval.growBy (d := Domain.int32 (α := Rat)) ⟨0, top⟩ (1 / 4) (1 / 4)).max = v.max)
    (htop : 0 < top) (hv : v.min < v.max) : (quartered top).FollowsWhole ⟨0, top⟩ v where
  always := rfl
  kind := rfl
  data := rfl
  shown := by
    obtain ⟨min, max⟩ := v
    subst hmin hmax
    rfl
  width := htop
  margin := by
    change (0 : Rat) < 1 + 1 / 4 + 1 / 4
    norm_num
  span := hv

/-- The data from 0 to 10 is shown from -3 to 13, for -2.5 and 12.5, and takes a range within. -/
theorem shows_written_iff_within :
    let a := quartered 10
    (a.FollowsWhole ⟨0, 10⟩ ⟨-3, 13⟩ ∧ (-1 : Int32) < 5) ∧ a.exactBounds = (-2.5, 12.5) ∧
      (a.setVisible (.int32 ⟨-1, 5⟩)).axis.visibleRange = .int32 ⟨-1, 5⟩ := by
  intro a
  have hfollows : a.FollowsWhole ⟨0, 10⟩ ⟨-3, 13⟩ :=
    quartered_shows (by decide +kernel) (by decide +kernel) (by decide) (by decide)
  obtain ⟨hiff, hwithin, -⟩ := hfollows.shows_written_iff (r := ⟨-1, 5⟩) (by decide)
  have hback := hwithin (by decide +kernel) (by decide +kernel)
  have hshown := hiff.2 ⟨hback _ (by decide) (by decide), hback _ (by decide) (by decide)⟩
  exact ⟨⟨hfollows, by decide⟩, by decide +kernel, hshown⟩

/-- The data from 0 to 1 is shown just so, for -0.25 and 1.25; a range of -1 to 3 leads to -1.75 and 4.25. -/
theorem written_range_grows :
    let a := quartered 1
    a.FollowsWhole ⟨0, 1⟩ ⟨0, 1⟩ ∧
      (a.setVisible (.int32 ⟨-1, 3⟩)).axis.visibleRange = .int32 ⟨-2, 4⟩ := by
  intro a
  have hfollows : a.FollowsWhole ⟨0, 1⟩ ⟨0, 1⟩ :=
    quartered_shows (by decide +kernel) (by decide +kernel) (by decide) (by decide)
  have hordered : a.regrown (-1) ≤ a.regrown 3 := hfollows.regrown_mono (by decide)
  have hlow : (Domain.int32 (α := Rat)).ofCanonical (a.regrown (-1)) = -2 := by decide +kernel
  have hhigh : (Domain.int32 (α := Rat)).ofCanonical (a.regrown 3) = 4 := by decide +kernel
  refine ⟨hfollows, (hfollows.visibleRange_setVisible ⟨-1, 3⟩).trans ?_⟩
  change Range.int32 (.ofCanonical (a.regrown (-1)) (a.regrown 3)) = _
  rw [Range.ofCanonical_int32 hordered, hlow, hhigh]

end FollowsWhole

end ChartAxis

end ChartGestures
