import GeoRaster.Projection.Standard
import GeoRaster.Proofs.Rational

namespace GeoRaster

def Crs.Code.latitudes : Crs.Code → Interval ℚ
  | .wgs84 | .nad83 => ⟨-90, 90⟩
  | .webMercator => ⟨-85.0511287798066, 85.0511287798066⟩
  | .arctic => ⟨30, 90⟩
  | .antarctic => ⟨-90, -60⟩

theorem Crs.Code.latitudes_within (c : Crs.Code) : c.latitudes.Within ⟨-90, 90⟩ := by
  cases c <;> constructor <;> norm_num [latitudes]

/-- The projection states the latitudes that it shows, and it maps all places there. -/
structure Projection.Charts (p : Projection Exact) (d : Interval ℚ) : Prop where
  south_eq : p.south = .finite d.min
  north_eq : p.north = .finite d.max
  exists_forward : ∀ lon lat : ℚ, d.Has lat → ∃ q, p.forward ⟨.finite lon, .finite lat⟩ = some q

section Charts

theorem Geographic.place?_eq (lon : ℚ) {lat : ℚ} (h : (⟨-90, 90⟩ : Interval ℚ).Has lat) :
    place? (⟨.finite lon, .finite lat⟩ : Point Exact) = some ⟨.finite lon, .finite lat⟩ := by
  rw [place?, if_pos]
  simpa [isLatitude, Exact.quarter_eq, Interval.Has] using h

theorem Geographic.projection_charts : (projection : Projection Exact).Charts ⟨-90, 90⟩ where
  south_eq := congrArg Neg.neg Exact.quarter_eq
  north_eq := Exact.quarter_eq
  exists_forward lon _ h := ⟨_, place?_eq lon h⟩

variable [Elementary Exact]

theorem Mercator.projection_charts : (projection : Projection Exact).Charts
    ⟨-85.0511287798066, 85.0511287798066⟩ where
  south_eq := rfl
  north_eq := rfl
  exists_forward lon lat h := by
    have hedge : |lat| ≤ (85.0511287798066 + 1e-9 : ℚ) :=
      (abs_le.mpr h).trans (le_add_of_nonneg_right (by norm_num))
    refine ⟨_, if_pos ?_⟩
    simpa [maxLatitude, Exact.ofScientific_eq] using hedge

namespace Polar

variable {p : Polar Exact} {limit : ℚ}

theorem charts_north (hp : p.isNorth = true) (hlimit : p.limit = .finite limit) :
    p.projection.Charts ⟨limit, 90⟩ := by
  rw [projection, if_pos hp]
  refine ⟨hlimit, Exact.quarter_eq, fun lon lat hlat => ⟨_, if_pos ?_⟩⟩
  simpa [shows, hp, hlimit, Exact.quarter_eq, Interval.Has] using hlat

theorem charts_south (hp : p.isNorth = false) (hlimit : p.limit = .finite limit) :
    p.projection.Charts ⟨-90, limit⟩ := by
  rw [projection, hp, if_neg Bool.false_ne_true]
  refine ⟨congrArg Neg.neg Exact.quarter_eq, hlimit, fun lon lat hlat => ⟨_, if_pos ?_⟩⟩
  simpa [shows, hp, hlimit, Exact.quarter_eq] using hlat.symm

theorem isNorth_arctic : (arctic : Polar Exact).isNorth = true := by
  simp only [isNorth, arctic, make, Exact.ofScientific_eq, Exact.finite_le, decide_eq_true_eq]
  norm_num

theorem isNorth_antarctic : (antarctic : Polar Exact).isNorth = false := by
  simp only [isNorth, antarctic, make, Exact.ofScientific_eq, Exact.neg_finite, Exact.finite_le,
    decide_eq_false_iff_not]
  norm_num

theorem arctic_charts : (arctic : Polar Exact).projection.Charts ⟨30, 90⟩ := by
  refine charts_north isNorth_arctic ?_
  show (30.0 : Exact) = .finite 30
  rw [Exact.ofScientific_eq]
  norm_num

theorem antarctic_charts : (antarctic : Polar Exact).projection.Charts ⟨-90, -60⟩ := by
  refine charts_south isNorth_antarctic ?_
  show (-60.0 : Exact) = .finite (-60)
  rw [Exact.ofScientific_eq, Exact.neg_finite]
  norm_num

end Polar

theorem standardProjection_charts (c : Crs.Code) :
    (standardProjection c : Projection Exact).Charts c.latitudes := by
  cases c with
  | wgs84 => exact Geographic.projection_charts
  | nad83 => exact Geographic.projection_charts
  | webMercator => exact Mercator.projection_charts
  | arctic => exact Polar.arctic_charts
  | antarctic => exact Polar.antarctic_charts

end Charts

theorem Bounds.exists_of_mem_border {x y : Interval ℚ} (hy : y.min ≤ y.max) {samples : ℕ}
    {p : Point Exact} (hp : p ∈ (Envelope.planeBounds x y).border samples) :
    ∃ lon lat : ℚ, p = ⟨.finite lon, .finite lat⟩ ∧ y.Has lat := by
  obtain ⟨i, hi, hp⟩ := List.mem_flatMap.mp hp
  rw [List.mem_range] at hi
  have hcount : (0 : ℚ) < (max samples 2 - 1 : ℕ) := Nat.cast_pos.mpr (by omega)
  have hlast : (i : ℚ) ≤ (max samples 2 - 1 : ℕ) := Nat.cast_le.mpr (by omega)
  have hfraction := div_le_one_of_le₀ hlast hcount.le
  have hlength : 0 ≤ y.max - y.min := sub_nonneg.mpr hy
  have hlower : 0 ≤ (i : ℚ) / (max samples 2 - 1 : ℕ) * (y.max - y.min) := by positivity
  have hupper := mul_le_of_le_one_left hlength hfraction
  simp only [borderPoints, Envelope.planeBounds, Exact.ofNat_eq, Exact.finite_div _ hcount.ne',
    Exact.finite_sub, Exact.finite_mul, Exact.finite_add, List.mem_cons, List.not_mem_nil,
    or_false] at hp
  obtain rfl | rfl | rfl | rfl := hp
  · exact ⟨_, _, rfl, le_rfl, hy⟩
  · exact ⟨_, _, rfl, hy, le_rfl⟩
  · exact ⟨_, _, rfl, by linarith, by linarith⟩
  · exact ⟨_, _, rfl, by linarith, by linarith⟩

section Shown

variable [Elementary Exact] {source target : Crs.Code} {x y : Interval ℚ}

theorem Crs.Code.projection_of_isGeographic (h : source.isGeographic = true) :
    (Atlas.projection source : Projection Exact) = Geographic.projection := by
  cases source with
  | wgs84 | nad83 => rfl
  | webMercator | arctic | antarctic => exact absurd h Bool.false_ne_true

theorem Transformation.not_isIdentity (hs : source.isGeographic = true)
    (ht : target.isGeographic = false) :
    (between source target : Transformation Exact).isIdentity = false := by
  have hne : source ≠ target := by
    rintro rfl
    exact absurd (hs.symm.trans ht) (by simp)
  simp [isIdentity, between, hne, ht]

theorem Transformation.exists_apply (hs : source.isGeographic = true)
    (ht : target.isGeographic = false) {lat : ℚ} (h : target.latitudes.Has lat) (lon : ℚ) :
    ∃ q, (between source target : Transformation Exact).apply ⟨.finite lon, .finite lat⟩ =
      .ok q := by
  obtain ⟨q, hq⟩ := (standardProjection_charts target).exists_forward lon lat h
  have hplace := Geographic.place?_eq lon (target.latitudes_within.has h)
  have hforward : (Atlas.projection target : Projection Exact).forward
      ⟨.finite lon, .finite lat⟩ = some q := hq
  refine ⟨q, ?_⟩
  rw [apply, not_isIdentity hs ht, if_neg Bool.false_ne_true]
  simp only [between, Crs.Code.projection_of_isGeographic hs, Geographic.projection, hplace,
    hforward]

namespace Envelope

theorem exists_transformBounds (x : Interval ℚ) (hs : source.isGeographic = true)
    (ht : target.isGeographic = false) (hy : y.Within target.latitudes) (hle : y.min ≤ y.max) :
    ∃ b, transformBounds (.between source target : Transformation Exact) (planeBounds x y) =
      .ok b := by
  have happly := fun lat (hlat : y.Has lat) =>
    Transformation.exists_apply hs ht (hy.has hlat)
  rw [transformBounds, Transformation.not_isIdentity hs ht, if_neg Bool.false_ne_true]
  split
  · obtain ⟨lower, hlower⟩ := happly y.min ⟨le_rfl, hle⟩ x.min
    obtain ⟨upper, hupper⟩ := happly y.max ⟨hle, le_rfl⟩ x.max
    exact ⟨_, bind_eq_ok.mpr ⟨lower, hlower, bind_eq_ok.mpr ⟨upper, hupper, rfl⟩⟩⟩
  · obtain ⟨images, himages⟩ := exists_forall₂ (R := fun p q =>
        (Transformation.between source target : Transformation Exact).apply p = .ok q)
      fun p (hp : p ∈ (planeBounds x y).border borderSamples) => by
        obtain ⟨lon, lat, rfl, hlat⟩ := Bounds.exists_of_mem_border hle hp
        exact happly lat hlat lon
    exact ⟨_, bind_eq_ok.mpr ⟨images, mapM_eq_ok_iff.mpr himages, rfl⟩⟩

variable {c : Crs}

theorem shownIn?_plane (x y : Interval ℚ) (hc : c.isGeographic = true)
    (ho : c.order = .eastingFirst) (target : Crs.Code) :
    (plane x y (some c)).shownIn? target =
      if (y.common target.latitudes).min < (y.common target.latitudes).max then
        some (plane x (y.common target.latitudes) (some c))
      else none := by
  have hcharts : (Atlas.projection target : Projection Exact).Charts target.latitudes :=
    standardProjection_charts target
  have hgeographic : (plane x y (some c)).isGeographic = true := hc
  rw [shownIn?, if_pos hgeographic]
  simp only [bounds_plane_of_order ho, planeBounds, hcharts.south_eq, hcharts.north_eq,
    Exact.max_finite, Exact.min_finite, Exact.finite_le]
  by_cases h : (y.common target.latitudes).min < (y.common target.latitudes).max
  · rw [if_pos h]
    refine (if_neg (not_le.mpr h)).trans ?_
    rw [ofBounds, plane_crs, Option.map_some, ho]
    rfl
  · rw [if_neg h]
    exact if_pos (not_lt.mp h)

theorem exists_transform (x : Interval ℚ) {target : Crs} (hc : c.isGeographic = true)
    (ho : c.order = .eastingFirst) (ht : target.isGeographic = false)
    (hy : y.Within target.code.latitudes) (hle : y.min ≤ y.max) :
    ∃ e, (plane x y (some c)).transform target = .ok e := by
  have hcode : c.code.isGeographic = true := hc
  obtain ⟨b, hb⟩ := exists_transformBounds x hcode ht hy hle
  refine ⟨.ofBounds b (some target), ?_⟩
  rw [transform, if_neg (by simp [plane, dimension])]
  simp only [plane_crs, bounds_plane_of_order ho, hb]
  rfl

end Envelope

end Shown

end GeoRaster
