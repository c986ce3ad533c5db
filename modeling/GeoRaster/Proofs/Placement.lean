import GeoRaster.Proofs.Answer
import GeoRaster.Proofs.Rational

namespace GeoRaster

namespace Raster

/-- The raster has cells, and they lie on rational ground in the raster's own system. -/
structure Placed {σ : Type} (r : Raster Exact σ) : Prop where
  width_pos : 0 < r.width
  height_pos : 0 < r.height
  order_eq : r.crs.order = .eastingFirst
  envelope_eq : ∃ x y : Interval ℚ, r.envelope = .plane x y (some r.crs)

section Make

variable {α σ : Type} {width height : ℕ} {bands : List (Band σ)} {crs : Crs}

theorem make_ok {e : Envelope α} {r : Raster α σ} (h : make width height bands e crs = .ok r) :
    0 < width ∧ 0 < height ∧
      ∃ bands', r = ⟨width, height, bands', { e with crs := some crs.eastingFirst },
        crs.eastingFirst⟩ := by
  rw [make] at h
  split at h
  · exact absurd h (by simp)
  · split at h
    · exact absurd h (by simp)
    · obtain rfl := Except.ok.inj h
      exact ⟨by omega, by omega, _, rfl⟩

theorem placed_of_make {e : Envelope Exact} (he : e.IsRational) {r : Raster Exact σ}
    (h : make width height bands e crs = .ok r) :
    r.Placed ∧ r.width = width ∧ r.height = height := by
  obtain ⟨hw, hh, bands', rfl⟩ := make_ok h
  obtain ⟨x, y, hxy⟩ := he
  refine ⟨⟨hw, hh, rfl, x, y, ?_⟩, rfl, rfl⟩
  rw [hxy]
  rfl

end Make

section Stages

variable {σ : Type} {r a : Raster Exact σ} {box extent : Envelope Exact}

theorem Placed.isRational (h : r.Placed) : r.envelope.IsRational := by
  obtain ⟨x, y, hxy⟩ := h.envelope_eq
  rw [hxy]
  exact ⟨x, y, rfl⟩

theorem Placed.bounds_eq (h : r.Placed) :
    ∃ x y : Interval ℚ, r.envelope = .plane x y (some r.crs) ∧
      r.envelope.bounds = Envelope.planeBounds x y := by
  obtain ⟨x, y, hxy⟩ := h.envelope_eq
  refine ⟨x, y, hxy, ?_⟩
  rw [hxy]
  exact Envelope.bounds_plane_of_order h.order_eq

theorem placed_selectBands (hr : r.envelope.IsRational) {indices : List ℕ}
    (h : r.selectBands indices = .ok a) : a.Placed := by
  rw [selectBands] at h
  split at h
  · rename_i s hs
    obtain rfl := Except.ok.inj h
    obtain ⟨bands, -, hm⟩ := bind_eq_ok.mp hs
    exact (placed_of_make hr hm).1
  · exact absurd h (by simp)

theorem Placed.isRational_blockEnvelope (h : r.Placed) (cols rows : CellSpan) :
    (r.blockEnvelope cols rows).IsRational := by
  obtain ⟨x, y, -, hb⟩ := h.bounds_eq
  have hw : (r.width : ℚ) ≠ 0 := Nat.cast_ne_zero.mpr h.width_pos.ne'
  have hh : (r.height : ℚ) ≠ 0 := Nat.cast_ne_zero.mpr h.height_pos.ne'
  refine ⟨x.groundUp r.width cols, y.groundDown r.height rows, ?_⟩
  simp [blockEnvelope, Envelope.ofCorners, hb, Envelope.planeBounds, resolutionX, resolutionY,
    Bounds.width, Bounds.height, Exact.finite_div _ hw, Exact.finite_div _ hh, Interval.exact,
    Interval.groundUp, Interval.groundDown, Interval.cell, Interval.length]

theorem Placed.crop (h : r.Placed) (hb : box.IsRational) (hc : r.crop box = .ok (a, extent)) :
    a.Placed ∧ extent.IsRational := by
  rw [Raster.crop] at hc
  split at hc
  · exact absurd hc (by simp)
  · rename_i common hm
    split at hc
    · obtain ⟨rfl, rfl⟩ : r = a ∧ r.envelope = extent := by simpa using hc
      exact ⟨h, h.isRational⟩
    · dsimp only at hc
      split at hc
      · rename_i cropped hblock
        obtain ⟨rfl, rfl⟩ : cropped = a ∧ common = extent := by simpa using hc
        exact ⟨(placed_of_make (h.isRational_blockEnvelope _ _) hblock).1,
          (Envelope.isRational_meet? h.isRational hb hm).1⟩
      · exact absurd hc (by simp)

variable [Scalar σ] [Narrowing Exact σ] {width height : ℕ} {method : Interpolation}

theorem Placed.scale (h : r.Placed) (he : extent.IsRational)
    (hs : r.scale extent width height method = .ok a) :
    a.Placed ∧ a.width = width ∧ a.height = height := by
  rw [Raster.scale] at hs
  split at hs
  · rename_i hlies
    obtain rfl := Except.ok.inj hs
    exact ⟨h, hlies.1, hlies.2.1⟩
  · split at hs
    · rename_i hm
      obtain rfl := Except.ok.inj hs
      exact placed_of_make he hm
    · exact absurd hs (by simp)

variable [Atlas Exact]

theorem Placed.reproject (ha : Atlas.IsRational) (h : r.Placed) {target : Crs}
    (hr : r.reproject target method = .ok a) :
    a.Placed ∧ a.width = r.width ∧ a.height = r.height := by
  rw [Raster.reproject] at hr
  dsimp only at hr
  split at hr
  · split at hr
    · rename_i hm
      obtain rfl := Except.ok.inj hr
      exact placed_of_make h.isRational hm
    · exact absurd hr (by simp)
  · split at hr
    · exact absurd hr (by simp)
    · rename_i shown hshown
      split at hr
      · exact absurd hr (by simp)
      · rename_i extent hextent
        have hrational := (Envelope.isRational_shownIn? ha h.isRational hshown).1
        split at hr
        · rename_i hm
          obtain rfl := Except.ok.inj hr
          exact placed_of_make (Envelope.isRational_transform ha hrational hextent) hm
        · exact absurd hr (by simp)

theorem placed_run (ha : Atlas.IsRational) (hr : r.envelope.IsRational) {plan : PipelinePlan Exact}
    (hbox : plan.envelope.IsRational) (hgrid : plan.targetGrid.envelope.IsRational)
    (h : r.run plan = .ok a) :
    a.Placed ∧ a.width = plan.targetGrid.width ∧ a.height = plan.targetGrid.height := by
  rw [run] at h
  split at h
  · exact absurd h (by simp)
  · obtain ⟨selected, hs, h⟩ := bind_eq_ok.mp h
    obtain ⟨⟨cropped, extent⟩, hc, h⟩ := bind_eq_ok.mp h
    obtain ⟨hcropped, hextent⟩ := (placed_selectBands hr hs).crop hbox hc
    dsimp only at h
    split at h
    · exact absurd h (by simp)
    · obtain ⟨scaled, hscaled, h⟩ := bind_eq_ok.mp h
      have hplanned : (plannedExtent plan.targetGrid extent).IsRational := by
        rw [plannedExtent]
        split
        · exact hextent
        · exact hgrid
      obtain ⟨hplaced, hw, hh⟩ := hcropped.scale hplanned hscaled
      obtain ⟨hdelivered, hw', hh'⟩ := hplaced.reproject ha h
      exact ⟨hdelivered, hw'.trans hw, hh'.trans hh⟩

end Stages

end Raster

end GeoRaster
