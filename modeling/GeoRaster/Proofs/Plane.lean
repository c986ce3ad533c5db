import GeoRaster.Proofs.Exact
import GeoRaster.Raster.Crop

namespace GeoRaster

namespace Interval

def exact (a : Interval ℚ) : Interval Exact :=
  ⟨.finite a.min, .finite a.max⟩

def length (a : Interval ℚ) : ℚ :=
  a.max - a.min

def common (a b : Interval ℚ) : Interval ℚ :=
  ⟨Max.max a.min b.min, Min.min a.max b.max⟩

/-- Do the intervals share more than an end? -/
def Meets (a b : Interval ℚ) : Prop :=
  a.min < b.max ∧ b.min < a.max

instance (a b : Interval ℚ) : Decidable (a.Meets b) :=
  inferInstanceAs (Decidable (_ ∧ _))

def Within (a b : Interval ℚ) : Prop :=
  b.min ≤ a.min ∧ a.max ≤ b.max

def Has (a : Interval ℚ) (p : ℚ) : Prop :=
  a.min ≤ p ∧ p ≤ a.max

instance (a : Interval ℚ) (p : ℚ) : Decidable (a.Has p) :=
  inferInstanceAs (Decidable (_ ∧ _))

/-- Shorter intervals are compared as if they were as long as this. -/
def leastLength : ℚ := 2.2250738585072014e-308

theorem leastLength_pos : 0 < leastLength := by
  decide +kernel

/-- How far ends may lie apart for two intervals to count as one. -/
def tolerance (a b : Interval ℚ) : ℚ :=
  1e-9 * Max.max (Max.max |a.length| |b.length|) leastLength

def Near (a b : Interval ℚ) : Prop :=
  |a.min - b.min| ≤ tolerance a b ∧ |a.max - b.max| ≤ tolerance a b

instance (a b : Interval ℚ) : Decidable (a.Near b) :=
  inferInstanceAs (Decidable (_ ∧ _))

theorem tolerance_nonneg (a b : Interval ℚ) : 0 ≤ tolerance a b := by
  have h : 0 ≤ Max.max (Max.max |a.length| |b.length|) leastLength :=
    le_max_of_le_right leastLength_pos.le
  exact mul_nonneg (by norm_num) h

theorem near_self (a : Interval ℚ) : a.Near a := by
  simp [Near, tolerance_nonneg]

theorem Within.trans {a b c : Interval ℚ} (h : a.Within b) (h' : b.Within c) : a.Within c :=
  ⟨h'.1.trans h.1, h.2.trans h'.2⟩

theorem Within.has {a b : Interval ℚ} (h : a.Within b) {p : ℚ} (hp : a.Has p) : b.Has p :=
  ⟨h.1.trans hp.1, hp.2.trans h.2⟩

theorem common_of_within {a b : Interval ℚ} (h : b.Within a) : a.common b = b := by
  simp [common, max_eq_right h.1, min_eq_right h.2]

theorem common_within (a b : Interval ℚ) : (a.common b).Within a :=
  ⟨le_max_left _ _, min_le_left _ _⟩

theorem overlaps_iff {α : Type} [Scalar α] {a b : Interval α} :
    a.overlaps b = true ↔ a.min < b.max ∧ b.min < a.max := by
  simp [overlaps]

theorem isNear_iff {α : Type} [Scalar α] {t : α} {a b : Interval α} :
    a.isNear t b = true ↔
      let d := t * Scalar.max (Scalar.max (Scalar.abs a.span) (Scalar.abs b.span))
        2.2250738585072014e-308
      Scalar.abs (a.min - b.min) ≤ d ∧ Scalar.abs (a.max - b.max) ≤ d := by
  simp [isNear]

@[simp]
theorem isNear_exact {a b : Interval ℚ} :
    a.exact.isNear Raster.sameBox b.exact = true ↔ a.Near b := by
  simp [isNear_iff, exact, span, Near, tolerance, length, Raster.sameBox, leastLength,
    Exact.ofScientific_eq]

@[simp]
theorem meet_exact (a b : Interval ℚ) : a.exact.meet b.exact = (a.common b).exact := by
  simp [meet, exact, common]

theorem meets_common_iff {a b w : Interval ℚ} (hw : w.Within a) (hlt : w.min < w.max) :
    w.Meets (a.common b) ↔ w.Meets b := by
  obtain ⟨h₁, h₂⟩ := hw
  simp only [Meets, common, lt_min_iff, max_lt_iff]
  constructor
  · rintro ⟨⟨-, h⟩, -, h'⟩
    exact ⟨h, h'⟩
  · rintro ⟨h, h'⟩
    exact ⟨⟨by linarith, h⟩, by linarith, h'⟩

theorem common_common {a b w : Interval ℚ} (hw : w.Within a) :
    w.common (a.common b) = w.common b := by
  obtain ⟨h₁, h₂⟩ := hw
  simp [common, ← max_assoc, ← min_assoc, h₁, h₂]

/-- An end without bound moved to the end of `a`, which is as good within `a`. -/
def bounded (a : Interval ℚ) (b : Interval Exact) : Interval ℚ :=
  ⟨match b.min with
    | .finite q => q
    | _ => a.min,
   match b.max with
    | .finite q => q
    | _ => a.max⟩

theorem overlaps_bounded {a w : Interval ℚ} {b : Interval Exact} (h : a.exact.overlaps b = true)
    (hw : w.Within a) (hlt : w.min < w.max) :
    (w.exact.overlaps b = true ↔ w.Meets (a.bounded b)) ∧
      w.exact.meet b = (w.common (a.bounded b)).exact := by
  obtain ⟨l, u⟩ := b
  obtain ⟨h₁, h₂⟩ := hw
  simp only [overlaps_iff, exact, Exact.finite_lt_iff, Exact.lt_finite_iff] at h
  obtain ⟨rfl | ⟨u, rfl, hu⟩, rfl | ⟨l, rfl, hl⟩⟩ := h
  all_goals
    simp only [overlaps_iff, exact, Meets, meet, common, bounded, Exact.finite_lt_iff,
      Exact.lt_finite_iff, Exact.max_negInfinity, Exact.min_infinity, Exact.max_finite,
      Exact.min_finite, max_eq_left h₁, min_eq_left h₂]
    simp
  all_goals grind

theorem bounded_min_le_max {a : Interval ℚ} {b : Interval Exact} (ha : a.min < a.max)
    (h : a.Meets (a.bounded b)) (hb : b.min ≤ b.max) : (a.bounded b).min ≤ (a.bounded b).max := by
  obtain ⟨l, u⟩ := b
  cases l <;> cases u <;> simp_all [bounded, Meets] <;> linarith

theorem exists_part {a : Interval ℚ} {b : Interval Exact} (ha : a.min < a.max)
    (h : a.exact.overlaps b = true) :
    ∃ c : Interval ℚ, c.Within a ∧ a.Meets c ∧ (b.min ≤ b.max → c.min ≤ c.max) ∧
      ∀ w : Interval ℚ, w.Within a → w.min < w.max →
        (w.exact.overlaps b = true ↔ w.Meets c) ∧ w.exact.meet b = (w.common c).exact := by
  have hself : a.Within a := ⟨le_refl _, le_refl _⟩
  have hm : a.Meets (a.bounded b) := (overlaps_bounded h hself ha).1.mp h
  refine ⟨a.common (a.bounded b), common_within _ _, (meets_common_iff hself ha).mpr hm, ?_, ?_⟩
  · intro hb
    have := bounded_min_le_max ha hm hb
    simp only [common, le_min_iff, max_le_iff]
    exact ⟨⟨ha.le, hm.2.le⟩, hm.1.le, this⟩
  · intro w hw hlt
    obtain ⟨ho, hc⟩ := overlaps_bounded h hw hlt
    rw [ho, hc, common_common hw, meets_common_iff hw hlt]
    exact ⟨Iff.rfl, rfl⟩

theorem meet_exact_comm {a : Interval ℚ} {b : Interval Exact} (h : a.exact.overlaps b = true) :
    b.meet a.exact = a.exact.meet b := by
  obtain ⟨l, u⟩ := b
  simp only [overlaps_iff, exact, Exact.finite_lt_iff, Exact.lt_finite_iff] at h
  obtain ⟨rfl | ⟨u, rfl, hu⟩, rfl | ⟨l, rfl, hl⟩⟩ := h
  · rfl
  · simp [meet, exact, max_comm]
    rfl
  · simp [meet, exact, min_comm]
    rfl
  · simp [meet, exact, max_comm, min_comm]

end Interval

namespace Envelope

def plane (x y : Interval ℚ) (crs : Option Crs) : Envelope Exact :=
  ⟨[x.exact, y.exact], crs⟩

variable {x y cx cy : Interval ℚ} {crs : Option Crs} {box : Envelope Exact}

@[simp]
theorem plane_crs : (plane x y crs).crs = crs := rfl

theorem plane_inj {a b c d : Interval ℚ} {crs : Option Crs} :
    plane a b crs = plane c d crs ↔ a = c ∧ b = d := by
  obtain ⟨l, u⟩ := a
  obtain ⟨l', u'⟩ := b
  obtain ⟨m, v⟩ := c
  obtain ⟨m', v'⟩ := d
  simp [plane, Interval.exact]

theorem meet?_eq_ite {α : Type} [Scalar α] (a b c d : Interval α) (crs : Option Crs)
    (crs' : Option Crs) :
    (⟨[a, b], crs⟩ : Envelope α).meet? ⟨[c, d], crs'⟩ =
      if a.overlaps c = true ∧ b.overlaps d = true then some ⟨[a.meet c, b.meet d], crs⟩
      else none := by
  simp [meet?, dimension, overlaps]

/-- Seen from within `x` and `y`, the box is the one over `cx` and `cy`. -/
structure Shows (box : Envelope Exact) (x y cx cy : Interval ℚ) : Prop where
  x_within : cx.Within x
  y_within : cy.Within y
  x_meets : x.Meets cx
  y_meets : y.Meets cy
  meet?_eq : ∀ {wx wy : Interval ℚ}, wx.Within x → wy.Within y → wx.min < wx.max →
    wy.min < wy.max → ∀ crs, (plane wx wy crs).meet? box =
      if wx.Meets cx ∧ wy.Meets cy then some (plane (wx.common cx) (wy.common cy) crs) else none

theorem axes_of_meet?_ne_none (h : (plane x y crs).meet? box ≠ none) :
    ∃ a b, box.axes = [a, b] ∧ x.exact.overlaps a = true ∧ y.exact.overlaps b = true := by
  obtain ⟨axes, c⟩ := box
  match axes with
  | [a, b] =>
    rw [plane, meet?_eq_ite] at h
    split at h
    · rename_i ho
      exact ⟨a, b, rfl, ho⟩
    · exact absurd rfl h
  | [] | [_] | _ :: _ :: _ :: _ => simp [plane, meet?, dimension] at h

theorem exists_shows (crs : Option Crs) (hx : x.min < x.max) (hy : y.min < y.max)
    (h : (plane x y crs).meet? box ≠ none) :
    ∃ cx cy, box.Shows x y cx cy ∧
      (box.isValid = true → cx.min ≤ cx.max ∧ cy.min ≤ cy.max) := by
  obtain ⟨a, b, hab, ha, hb⟩ := axes_of_meet?_ne_none h
  obtain ⟨cx, hcx, hmx, hvx, hwx⟩ := Interval.exists_part hx ha
  obtain ⟨cy, hcy, hmy, hvy, hwy⟩ := Interval.exists_part hy hb
  obtain ⟨axes, c⟩ := box
  subst hab
  refine ⟨cx, cy, ⟨hcx, hcy, hmx, hmy, ?_⟩, ?_⟩
  · intro wx wy hx' hy' hlx hly crs'
    obtain ⟨hox, hex⟩ := hwx wx hx' hlx
    obtain ⟨hoy, hey⟩ := hwy wy hy' hly
    rw [plane, meet?_eq_ite, hex, hey]
    simp only [hox, hoy]
    rfl
  · intro hv
    simp only [isValid, List.all_cons, List.all_nil, Bool.and_true, Bool.and_eq_true,
      decide_eq_true_eq] at hv
    exact ⟨hvx hv.1, hvy hv.2⟩

namespace Shows

variable (h : box.Shows x y cx cy)
include h

theorem meet?_plane (hx : x.min < x.max) (hy : y.min < y.max) (crs : Option Crs) :
    (plane x y crs).meet? box = some (plane cx cy crs) := by
  rw [h.meet?_eq ⟨le_rfl, le_rfl⟩ ⟨le_rfl, le_rfl⟩ hx hy, if_pos ⟨h.x_meets, h.y_meets⟩,
    Interval.common_of_within h.x_within, Interval.common_of_within h.y_within]

theorem meet?_comm (hx : x.min < x.max) (hy : y.min < y.max) (crs : Option Crs) :
    box.meet? (plane x y crs) = some (plane cx cy box.crs) := by
  have hs := h.meet?_plane hx hy crs
  obtain ⟨a, b, hab, ha, hb⟩ := axes_of_meet?_ne_none (by rw [hs]; simp)
  obtain ⟨axes, c⟩ := box
  subst hab
  rw [plane, meet?_eq_ite, if_pos ⟨ha, hb⟩] at hs
  simp only [plane, Option.some.injEq, mk.injEq, List.cons.injEq, and_true] at hs
  rw [plane, meet?_eq_ite, Interval.meet_exact_comm ha, Interval.meet_exact_comm hb, hs.1, hs.2,
    if_pos]
  · rfl
  · simp only [Interval.overlaps_iff] at ha hb ⊢
    exact ⟨ha.symm, hb.symm⟩

theorem restrict {wx wy : Interval ℚ} (hx : wx.Within x) (hy : wy.Within y) (hlx : wx.min < wx.max)
    (hly : wy.min < wy.max) (hmx : wx.Meets cx) (hmy : wy.Meets cy) :
    box.Shows wx wy (wx.common cx) (wy.common cy) where
  x_within := Interval.common_within _ _
  y_within := Interval.common_within _ _
  x_meets := (Interval.meets_common_iff ⟨le_rfl, le_rfl⟩ hlx).mpr hmx
  y_meets := (Interval.meets_common_iff ⟨le_rfl, le_rfl⟩ hly).mpr hmy
  meet?_eq := by
    intro ux uy hux huy hltx hlty crs
    rw [h.meet?_eq (hux.trans hx) (huy.trans hy) hltx hlty, Interval.common_common hux,
      Interval.common_common huy]
    simp only [Interval.meets_common_iff hux hltx, Interval.meets_common_iff huy hlty]

theorem meet?_part {wx wy : Interval ℚ} (hx : wx.Within x) (hy : wy.Within y)
    (hlx : wx.min < wx.max) (hly : wy.min < wy.max) (crs : Option Crs) :
    (plane wx wy crs).meet? box = none ↔ ¬ (wx.Meets cx ∧ wy.Meets cy) := by
  rw [h.meet?_eq hx hy hlx hly]
  split <;> simp_all

end Shows

theorem isNear_plane {a b c d : Interval ℚ} {crs' : Option Crs} :
    (plane a b crs).isNear Raster.sameBox (plane c d crs') = true ↔ a.Near c ∧ b.Near d := by
  simp [isNear, plane, dimension]

def planeBounds (x y : Interval ℚ) : Bounds Exact :=
  ⟨.finite x.min, .finite y.min, .finite x.max, .finite y.max⟩

theorem bounds_plane (h : crs.map Crs.eastingIndex = some 0 ∨ crs = none) :
    (plane x y crs).bounds = planeBounds x y := by
  obtain h | rfl := h
  · simp [bounds, easting, northing, eastingIndex, plane, axis, planeBounds, Interval.exact, h]
  · rfl

theorem bounds_plane_of_order {c : Crs} (h : c.order = .eastingFirst) :
    (plane x y (some c)).bounds = planeBounds x y :=
  bounds_plane (.inl (by simp [Crs.eastingIndex, h]))

def IsPlane (e : Envelope Exact) : Prop :=
  ∃ (x y : Interval ℚ) (c : Crs), c.order = .eastingFirst ∧ e = .plane x y (some c)

end Envelope

end GeoRaster
