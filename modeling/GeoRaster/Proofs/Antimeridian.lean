import GeoRaster.Proofs.Resolution

namespace GeoRaster

namespace Interval

variable {a r : Interval ℚ}

def upward (a : Interval ℚ) : Interval ℚ :=
  ⟨a.min, a.max + 360⟩

def downward (a : Interval ℚ) : Interval ℚ :=
  ⟨a.min - 360, a.max⟩

theorem upward_ne_downward (a : Interval ℚ) : a.upward ≠ a.downward := by
  intro h
  have := congrArg Interval.min h
  simp only [upward, downward] at this
  linarith

theorem unwrap_exact (h : a.max < a.min) (limit : ℚ) :
    a.exact.unwrap (.finite 360) (some (.finite limit)) =
      (if a.max + 360 ≤ limit then a.upward else a.downward).exact := by
  have hle : ¬ a.exact.min ≤ a.exact.max := by
    simpa [exact] using h
  rw [unwrap.eq_def, if_neg hle]
  simp only [exact, Exact.finite_add, Exact.finite_sub, Exact.finite_lt, ← not_lt, ite_not]
  split <;> rfl

theorem max_le_of_downward_meets (hd : a.downward.Meets r) (hu : ¬ a.upward.Meets r) :
    r.max ≤ a.min := by
  by_contra hlt
  obtain ⟨-, hbegin⟩ := hd
  simp only [downward] at hbegin
  refine hu ⟨not_le.mp hlt, ?_⟩
  simp only [upward]
  linarith

end Interval

namespace Envelope

variable {α : Type} [Scalar α]

/-- Unwrapping changes the easting alone, wherever it stands. -/
theorem unwrapEast_eq {e : Envelope α} {c : Crs} (hc : e.crs = some c)
    (hg : c.isGeographic = true) (reference : Option (Envelope α)) :
    e.unwrapEast reference = { e with
      axes := e.axes.modify c.eastingIndex fun a =>
        a.unwrap (Crs.eastAxis c.code).range (reference.map fun r => r.easting.max) } := by
  obtain ⟨axes, crs⟩ := e
  obtain rfl : crs = some c := hc
  simp only [unwrapEast, hg, if_true, mk.injEq, and_true]
  apply List.ext_getElem?
  intro i
  obtain ⟨code, order⟩ := c
  rw [List.getElem?_map, List.getElem?_zipIdx, List.getElem?_modify]
  cases hi : axes[i]? with
  | none => rfl
  | some a =>
    -- the axes of a system are two, one of which points east
    obtain _ | _ | i := i <;> cases order <;> rfl

/-- A longitude pair across the antimeridian is unwrapped upwards if the reference reaches as far as
the upper box, and downwards otherwise. If just one of the two boxes shares ground with the
reference, it is therefore chosen as follows: the upper one if the reference does not end inside it;
the lower one always but for the pair from 180 to -180, which has no length, against a reference
that ends at 180. -/
theorem unwrapEast_chooses {e reference : Envelope Exact} {c : Crs} {a r : Interval ℚ}
    (hc : e.crs = some c) (hg : c.isGeographic = true)
    (ha : e.axes[c.eastingIndex]? = some a.exact) (hinverted : a.max < a.min)
    (hwest : -180 ≤ a.max) (heast : a.min ≤ 180) (hr : reference.easting = r.exact) :
    ∃ b : Interval ℚ,
      e.unwrapEast (some reference) =
        { e with axes := e.axes.set c.eastingIndex b.exact } ∧
      b = (if a.max + 360 ≤ r.max then a.upward else a.downward) ∧
      (a.upward.Meets r → ¬ a.downward.Meets r → (b = a.upward ↔ a.max + 360 ≤ r.max)) ∧
      (a.downward.Meets r → ¬ a.upward.Meets r →
        (b = a.downward ↔ ¬ (a.min = 180 ∧ a.max = -180 ∧ r.max = 180))) := by
  refine ⟨if a.max + 360 ≤ r.max then a.upward else a.downward, ?_, rfl, fun _ _ => ?_,
    fun hd hu => ?_⟩
  · rw [unwrapEast_eq hc hg, Crs.range_eastAxis hg, Option.map_some, hr,
      ← Interval.unwrap_exact hinverted r.max]
    simp [List.modify_eq_set_getElem?, ha, Interval.exact]
  · split_ifs with hreach
    · exact iff_of_true rfl hreach
    · exact iff_of_false a.upward_ne_downward.symm hreach
  · have hend := Interval.max_le_of_downward_meets hd hu
    split_ifs with hreach
    · -- the reference reaches the end of a box that begins there, so nothing lies in between
      refine iff_of_false a.upward_ne_downward (not_not.mpr ⟨?_, ?_, ?_⟩) <;> linarith
    · refine iff_of_true rfl ?_
      rintro ⟨-, hmax, hr⟩
      exact hreach (by linarith)

open CoverageDescriptor in
/-- A box across the antimeridian over a region that ends there is moved away from the region. -/
theorem unwrapEast_chooses_regional :
    (Interval.upward ⟨175, -175⟩).Meets ⟨160, 180⟩ ∧
      ¬ (Interval.downward ⟨175, -175⟩).Meets ⟨160, 180⟩ ∧
      acrossAntimeridian.unwrapEast (some (.plane ⟨160, 180⟩ ⟨-90, 90⟩ none)) =
        { acrossAntimeridian with
          axes := acrossAntimeridian.axes.set 1 (Interval.downward ⟨175, -175⟩).exact } := by
  have hpair : acrossAntimeridian.axes[1]? = some (Interval.exact ⟨175, -175⟩) := rfl
  have hregion : (plane ⟨160, 180⟩ ⟨-90, 90⟩ none).easting = Interval.exact ⟨160, 180⟩ := rfl
  obtain ⟨b, hb, hside, -, -⟩ := unwrapEast_chooses (c := .inRegistryOrder .nad83) rfl rfl hpair
    (by norm_num) (by norm_num) (by norm_num) hregion
  rw [if_neg (by norm_num)] at hside
  subst hside
  exact ⟨by decide +kernel, by decide +kernel, hb⟩

/-- Over such a region the upper box shares ground with it and the lower one does not, and still the
lower one is chosen. -/
theorem unwrapEast_leaves_region :
    (Interval.upward ⟨170, -170⟩).Meets ⟨160, 180⟩ ∧
      ¬ (Interval.downward ⟨170, -170⟩).Meets ⟨160, 180⟩ ∧
      (plane ⟨170, -170⟩ ⟨0, 10⟩ (some (.ofCode .wgs84))).unwrapEast
          (some (plane ⟨160, 180⟩ ⟨-90, 90⟩ (some (.ofCode .wgs84)))) =
        plane (.downward ⟨170, -170⟩) ⟨0, 10⟩ (some (.ofCode .wgs84)) ∧
      plane (.downward ⟨170, -170⟩) ⟨0, 10⟩ (some (.ofCode .wgs84)) ≠
        plane (.upward ⟨170, -170⟩) ⟨0, 10⟩ (some (.ofCode .wgs84)) := by
  refine ⟨?_, ?_, ?_, ?_⟩
  · constructor <;> norm_num [Interval.upward]
  · rintro ⟨-, hreach⟩
    norm_num [Interval.downward] at hreach
  · decide +kernel
  · intro h
    obtain ⟨hx, -⟩ := plane_inj.mp h
    exact Interval.upward_ne_downward _ hx.symm

end Envelope

end GeoRaster
