import GeoRaster.Proofs.Order
import GeoRaster.Proofs.Plane

namespace GeoRaster

variable {α : Type} [Scalar α]

namespace Interval

def HasLength (a : Interval α) : Prop :=
  a.min < a.max

def IsPlaceIn (a b : Interval α) : Prop :=
  ¬ a.HasLength ∧ b.min < a.min ∧ a.max < b.max

/-- The ends are equal as numbers, though zeros may differ in sign. -/
def SameBounds (a b : Interval α) : Prop :=
  (a.min == b.min) = true ∧ (a.max == b.max) = true

instance (a : Interval α) : Decidable a.HasLength :=
  inferInstanceAs (Decidable (a.min < a.max))

instance (a b : Interval α) : Decidable (a.IsPlaceIn b) :=
  inferInstanceAs (Decidable (_ ∧ _ ∧ _))

theorem overlaps_comm (a b : Interval α) : a.overlaps b = b.overlaps a :=
  Bool.and_comm ..

variable {a b c : Interval α}

theorem holds_iff : a.holds c = true ↔ a.min ≤ c.min ∧ c.max ≤ a.max := by
  rw [holds, Bool.and_eq_true, decide_eq_true_iff, decide_eq_true_iff]

variable [Scalar.IsOrdered α]

theorem holds_self (h : a.min ≤ a.max) : a.holds a = true := by
  obtain ⟨hmin, hmax⟩ := Scalar.defined_of_le h
  exact holds_iff.mpr ⟨Scalar.le_refl hmin, Scalar.le_refl hmax⟩

/-- Of two intervals that overlap one may be a single place. It then lies between the ends of the
other one. -/
theorem isPlaceIn_of_overlaps (ha : a.min ≤ a.max) (h : a.overlaps b = true)
    (hl : ¬ a.HasLength) : a.IsPlaceIn b := by
  obtain ⟨hmin, hmax⟩ := Scalar.defined_of_le ha
  obtain ⟨hab, hba⟩ := overlaps_iff.mp h
  have hle : a.max ≤ a.min := Scalar.le_of_not_lt hmin hmax hl
  exact ⟨hl, Scalar.lt_of_lt_of_le hba hle, Scalar.lt_of_le_of_lt hle hab⟩

theorem IsPlaceIn.overlaps (ha : a.min ≤ a.max) (h : a.IsPlaceIn b) : a.overlaps b = true :=
  overlaps_iff.mpr ⟨Scalar.lt_of_le_of_lt ha h.2.2, Scalar.lt_of_lt_of_le h.2.1 ha⟩

section Meet

variable (ha : a.min ≤ a.max) (hb : b.min ≤ b.max)
include ha hb

/-- The common part holds what both intervals hold. -/
theorem holds_meet : (a.meet b).holds c = true ↔ a.holds c = true ∧ b.holds c = true := by
  obtain ⟨hamin, hamax⟩ := Scalar.defined_of_le ha
  obtain ⟨hbmin, hbmax⟩ := Scalar.defined_of_le hb
  simp only [holds_iff, meet, Scalar.max_le_iff hamin hbmin, Scalar.le_min_iff hamax hbmax]
  tauto

theorem hasLength_meet :
    (a.meet b).HasLength ↔ a.HasLength ∧ b.HasLength ∧ a.overlaps b = true := by
  obtain ⟨hamin, hamax⟩ := Scalar.defined_of_le ha
  obtain ⟨hbmin, hbmax⟩ := Scalar.defined_of_le hb
  simp only [HasLength, meet, Scalar.max_lt_iff hamin hbmin, Scalar.lt_min_iff hamax hbmax,
    overlaps_iff]
  tauto

theorem meet_le (h : a.overlaps b = true) : (a.meet b).min ≤ (a.meet b).max := by
  obtain ⟨hamin, hamax⟩ := Scalar.defined_of_le ha
  obtain ⟨hbmin, hbmax⟩ := Scalar.defined_of_le hb
  obtain ⟨hab, hba⟩ := overlaps_iff.mp h
  simp only [meet, Scalar.max_le_iff hamin hbmin, Scalar.le_min_iff hamax hbmax]
  exact ⟨⟨ha, Scalar.le_of_lt hab⟩, Scalar.le_of_lt hba, hb⟩

theorem overlaps_iff_meet :
    a.overlaps b = true ↔ (a.meet b).HasLength ∨ a.IsPlaceIn b ∨ b.IsPlaceIn a := by
  constructor
  · intro h
    by_cases hla : a.HasLength
    · by_cases hlb : b.HasLength
      · exact .inl ((hasLength_meet ha hb).mpr ⟨hla, hlb, h⟩)
      · exact .inr (.inr (isPlaceIn_of_overlaps hb (overlaps_comm a b ▸ h) hlb))
    · exact .inr (.inl (isPlaceIn_of_overlaps ha h hla))
  · rintro (h | h | h)
    · exact ((hasLength_meet ha hb).mp h).2.2
    · exact h.overlaps ha
    · exact overlaps_comm a b ▸ h.overlaps hb

theorem sameBounds_meet_comm (h : a.overlaps b = true) :
    (a.meet b).SameBounds (b.meet a) := by
  have h' : b.overlaps a = true := (overlaps_comm b a).trans h
  have hswap : ∀ {c}, (b.meet a).holds c = true ↔ (a.meet b).holds c = true := by
    intro c
    rw [holds_meet hb ha, holds_meet ha hb, and_comm]
  obtain ⟨hmin, hmax⟩ := holds_iff.mp (hswap.mp (holds_self (meet_le hb ha h')))
  obtain ⟨hmin', hmax'⟩ := holds_iff.mp (hswap.mpr (holds_self (meet_le ha hb h)))
  exact ⟨Scalar.IsOrdered.beq_of_le hmin hmin', Scalar.IsOrdered.beq_of_le hmax' hmax⟩

end Meet

end Interval

namespace Envelope

variable {a b c e : Envelope α} {as bs es : List (Interval α)} {s t : Interval α}
  {crs crs' crs'' : Option Crs}

def common (a b : Envelope α) : Envelope α :=
  ⟨(a.axes.zip b.axes).map fun p => p.1.meet p.2, a.crs⟩

theorem holds_cons : (⟨s :: as, crs⟩ : Envelope α).holds ⟨t :: es, crs'⟩ =
    (s.holds t && (⟨as, crs⟩ : Envelope α).holds ⟨es, crs'⟩) := rfl

theorem meet?_eq_some : a.meet? b = some c ↔
    a.dimension = b.dimension ∧ a.overlaps b = true ∧ c = a.common b := by
  rw [meet?]
  split
  · rename_i h
    exact ⟨fun hc => ⟨h.1, h.2, (Option.some.inj hc).symm⟩, fun hc => congrArg some hc.2.2.symm⟩
  · rename_i h
    exact ⟨fun hc => absurd hc (by simp), fun hc => absurd ⟨hc.1, hc.2.1⟩ h⟩

theorem overlaps_iff :
    a.overlaps b = true ↔ ∀ p ∈ a.axes.zip b.axes, p.1.overlaps p.2 = true :=
  List.all_eq_true

theorem overlaps_comm (a b : Envelope α) : a.overlaps b = b.overlaps a := by
  obtain ⟨as, _⟩ := a
  obtain ⟨bs, _⟩ := b
  simp only [overlaps]
  induction as generalizing bs with
  | nil => simp
  | cons s as ih =>
    cases bs with
    | nil => simp
    | cons t bs => simp only [List.zip_cons_cons, List.all_cons, Interval.overlaps_comm s t, ih]

theorem meet?_eq_none_iff :
    a.meet? b = none ↔ ¬ (a.dimension = b.dimension ∧ a.overlaps b = true) := by
  rw [meet?]
  split <;> simp_all

theorem meet?_eq_none_comm : a.meet? b = none ↔ b.meet? a = none := by
  rw [meet?_eq_none_iff, meet?_eq_none_iff, overlaps_comm a b, eq_comm]

theorem isValid_iff : a.isValid = true ↔ ∀ s ∈ a.axes, s.min ≤ s.max := by
  simp [isValid]

/-- The box lies within both boxes, and every other box that does lies within it. -/
structure IsGreatestWithin (c a b : Envelope α) : Prop where
  dimension_eq : c.dimension = a.dimension
  left : a.holds c = true
  right : b.holds c = true
  greatest : ∀ e : Envelope α, a.holds e = true → b.holds e = true → c.holds e = true

variable [Scalar.IsOrdered α]

theorem holds_self (ha : a.isValid = true) : a.holds a = true := by
  obtain ⟨axes, crs⟩ := a
  induction axes with
  | nil => rfl
  | cons s as ih =>
    obtain ⟨hs, has⟩ := List.forall_mem_cons.mp (isValid_iff.mp ha)
    rw [holds_cons, Interval.holds_self hs, ih (isValid_iff.mpr has)]
    rfl

section Meet

variable (ha : a.isValid = true) (hb : b.isValid = true)
include ha hb

omit [Scalar.IsOrdered α] in
theorem le_of_mem_zip {p : Interval α × Interval α} (hp : p ∈ a.axes.zip b.axes) :
    p.1.min ≤ p.1.max ∧ p.2.min ≤ p.2.max :=
  ⟨isValid_iff.mp ha _ (List.of_mem_zip hp).1, isValid_iff.mp hb _ (List.of_mem_zip hp).2⟩

theorem isValid_common (h : a.overlaps b = true) : (a.common b).isValid = true := by
  refine isValid_iff.mpr fun u hu => ?_
  obtain ⟨p, hp, rfl⟩ := List.mem_map.mp hu
  obtain ⟨hs, ht⟩ := le_of_mem_zip ha hb hp
  exact Interval.meet_le hs ht (overlaps_iff.mp h p hp)

theorem isValid_meet? (h : a.meet? b = some c) : c.isValid = true := by
  obtain ⟨-, ho, rfl⟩ := meet?_eq_some.mp h
  exact isValid_common ha hb ho

theorem holds_common (hd : a.dimension = b.dimension) :
    (a.common b).holds e = true ↔ a.holds e = true ∧ b.holds e = true := by
  obtain ⟨as, crs⟩ := a
  obtain ⟨bs, crs'⟩ := b
  obtain ⟨es, crs''⟩ := e
  induction as generalizing bs es with
  | nil =>
    obtain rfl : bs = [] := List.length_eq_zero_iff.mp hd.symm
    exact iff_of_true rfl ⟨rfl, rfl⟩
  | cons s as ih =>
    cases bs with
    | nil => exact absurd hd (Nat.succ_ne_zero _)
    | cons t bs =>
      cases es with
      | nil => exact iff_of_true rfl ⟨rfl, rfl⟩
      | cons u es =>
        obtain ⟨hs, has⟩ := List.forall_mem_cons.mp (isValid_iff.mp ha)
        obtain ⟨ht, hbs⟩ := List.forall_mem_cons.mp (isValid_iff.mp hb)
        have hrest := ih (isValid_iff.mpr has) bs (isValid_iff.mpr hbs) (Nat.succ.inj hd) es
        have hcons : common ⟨s :: as, crs⟩ ⟨t :: bs, crs'⟩ =
            ⟨s.meet t :: (common ⟨as, crs⟩ ⟨bs, crs'⟩).axes, crs⟩ := rfl
        rw [hcons, holds_cons, holds_cons, holds_cons, Bool.and_eq_true, Bool.and_eq_true,
          Bool.and_eq_true, Interval.holds_meet hs ht]
        exact (and_congr_right' hrest).trans and_and_and_comm

theorem common_isGreatestWithin (hd : a.dimension = b.dimension) (h : a.overlaps b = true) :
    (a.common b).IsGreatestWithin a b := by
  have hself := (holds_common ha hb hd).mp (holds_self (isValid_common ha hb h))
  have hlength : a.axes.length = b.axes.length := hd
  exact {
    dimension_eq := by simp [common, dimension, hlength]
    left := hself.1
    right := hself.2
    greatest := fun e hae hbe => (holds_common ha hb hd).mpr ⟨hae, hbe⟩ }

theorem sameBounds_common_comm (h : a.overlaps b = true) :
    List.Forall₂ Interval.SameBounds (a.common b).axes (b.common a).axes := by
  have hswap : (b.common a).axes = (a.axes.zip b.axes).map fun p => p.2.meet p.1 := by
    rw [common, ← List.zip_swap, List.map_map]
    rfl
  rw [hswap, common, List.forall₂_map_left_iff, List.forall₂_map_right_iff, List.forall₂_same]
  intro p hp
  obtain ⟨hs, ht⟩ := le_of_mem_zip ha hb hp
  exact Interval.sameBounds_meet_comm hs ht (overlaps_iff.mp h p hp)

theorem overlaps_iff_meet : a.overlaps b = true ↔ ∀ p ∈ a.axes.zip b.axes,
    (p.1.meet p.2).HasLength ∨ p.1.IsPlaceIn p.2 ∨ p.2.IsPlaceIn p.1 := by
  rw [overlaps_iff]
  refine forall₂_congr fun p hp => ?_
  obtain ⟨hs, ht⟩ := le_of_mem_zip ha hb hp
  exact Interval.overlaps_iff_meet hs ht

/-- Two boxes share one if and only if on every axis their common part has a length or one of them
is a single place between the ends of the other. The shared box is valid and the greatest one within
both, in the system of the first box, with bounds that do not depend on which box is the first.
Where none is shared, the common part of some axis has no length. -/
theorem meet?_greatest (hd : a.dimension = b.dimension) :
    ((∃ c, a.meet? b = some c) ↔ ∀ p ∈ a.axes.zip b.axes,
        (p.1.meet p.2).HasLength ∨ p.1.IsPlaceIn p.2 ∨ p.2.IsPlaceIn p.1) ∧
      (∀ c, a.meet? b = some c → c.IsGreatestWithin a b ∧ c.isValid = true ∧ c.crs = a.crs ∧
        ∃ c', b.meet? a = some c' ∧ List.Forall₂ Interval.SameBounds c.axes c'.axes) ∧
      (a.meet? b = none → ∃ p ∈ a.axes.zip b.axes, ¬ (p.1.meet p.2).HasLength) := by
  have hshared : (∃ c, a.meet? b = some c) ↔ a.overlaps b = true :=
    ⟨fun ⟨_, h⟩ => (meet?_eq_some.mp h).2.1, fun h => ⟨_, meet?_eq_some.mpr ⟨hd, h, rfl⟩⟩⟩
  refine ⟨hshared.trans (overlaps_iff_meet ha hb), fun c hc => ?_, fun hnone => ?_⟩
  · have hvalid := isValid_meet? ha hb hc
    obtain ⟨-, ho, rfl⟩ := meet?_eq_some.mp hc
    have ho' : b.overlaps a = true := (overlaps_comm b a).trans ho
    exact ⟨common_isGreatestWithin ha hb hd ho, hvalid, rfl, _,
      meet?_eq_some.mpr ⟨hd.symm, ho', rfl⟩, sameBounds_common_comm ha hb ho⟩
  · -- boxes that share some length on every axis overlap
    by_contra hall
    push Not at hall
    have ho := (overlaps_iff_meet ha hb).mpr fun p hp => .inl (hall p hp)
    obtain ⟨c, hc⟩ := hshared.mpr ho
    exact absurd (hnone.symm.trans hc) (by simp)

end Meet

def lineBox : Envelope Exact :=
  .plane ⟨1, 1⟩ ⟨0, 4⟩ none

def fieldBox : Envelope Exact :=
  .plane ⟨0, 2⟩ ⟨0, 4⟩ none

theorem meet?_greatest_line :
    lineBox.dimension = fieldBox.dimension ∧ lineBox.isValid = true ∧ fieldBox.isValid = true ∧
      ∃ c, lineBox.meet? fieldBox = some c ∧ c.IsGreatestWithin lineBox fieldBox ∧
        ∃ p ∈ lineBox.axes.zip fieldBox.axes, ¬ (p.1.meet p.2).HasLength := by
  have hline : lineBox.isValid = true := by decide +kernel
  have hfield : fieldBox.isValid = true := by decide +kernel
  obtain ⟨hshared, hgreatest, -⟩ := meet?_greatest hline hfield rfl
  obtain ⟨c, hc⟩ := hshared.mpr (by decide +kernel)
  exact ⟨rfl, hline, hfield, c, hc, (hgreatest c hc).1, by decide +kernel⟩

end Envelope

end GeoRaster
