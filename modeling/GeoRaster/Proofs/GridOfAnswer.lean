import GeoRaster.Coverage.Example
import GeoRaster.Proofs.CellGround
import GeoRaster.Proofs.Placement

namespace GeoRaster

namespace Envelope

theorem planeBounds_inj {a b c d : Interval ℚ} (h : planeBounds a b = planeBounds c d) :
    a = c ∧ b = d := by
  obtain ⟨l, u⟩ := a
  obtain ⟨l', u'⟩ := b
  obtain ⟨m, v⟩ := c
  obtain ⟨m', v'⟩ := d
  simp only [planeBounds, Bounds.mk.injEq, Exact.finite.injEq] at h
  obtain ⟨rfl, rfl, rfl, rfl⟩ := h
  exact ⟨rfl, rfl⟩

end Envelope

theorem Affine.exact_inj {t u : Affine ℚ} (h : t.exact = u.exact) : t = u := by
  obtain ⟨a, b, c, d, e, f⟩ := t
  obtain ⟨a', b', c', d', e', f'⟩ := u
  simp only [Affine.exact, Affine.mk.injEq, Exact.finite.injEq] at h
  obtain ⟨rfl, rfl, rfl, rfl, rfl, rfl⟩ := h
  rfl

namespace GridGeometry

variable {g : GridGeometry Exact} {t : Affine ℚ}

theorem exists_ground (h : g.transform = t.exact) :
    ∃ x y : Interval ℚ, g.envelope = .plane x y (g.crs.map Crs.eastingFirst) := by
  rw [envelope, corners_exact h]
  simp only [Affine.apply_exact, Bounds.hull_four]
  exact ⟨⟨_, _⟩, ⟨_, _⟩, rfl⟩

theorem bounds_ground {x y : Interval ℚ}
    (h : g.envelope = .plane x y (g.crs.map Crs.eastingFirst)) :
    g.envelope.bounds = Envelope.planeBounds x y := by
  rw [h]
  cases g.crs with
  | none => exact Envelope.bounds_plane (.inr rfl)
  | some c => exact Envelope.bounds_plane (.inl rfl)

end GridGeometry

/-- Where a grid and a raster lie: the map of the grid, the ground of the raster, and the box around
the grid. -/
structure Layout {σ : Type} (g : GridGeometry Exact) (r : Raster Exact σ) where
  map : Affine ℚ
  x : Interval ℚ
  y : Interval ℚ
  gridX : Interval ℚ
  gridY : Interval ℚ
  transform_eq : g.transform = map.exact
  bounds_eq : r.envelope.bounds = Envelope.planeBounds x y
  gridBounds_eq : g.envelope.bounds = Envelope.planeBounds gridX gridY

namespace Layout

variable {σ : Type} {g : GridGeometry Exact} {r : Raster Exact σ}

/-- The grid maps every cell to the ground of the raster's sample in its column and row, up to the
tolerance by which boxes are compared. -/
def Describes (l : Layout g r) : Prop :=
  l.map.MapsCells (g.low 0).toInt (g.low 1).toInt l.x l.y r.width r.height
    (Interval.tolerance l.gridX l.x) (Interval.tolerance l.gridY l.y)

def Lands (l : Layout g r) : Prop :=
  ∃ laying : Laying, laying.Fits r.width r.height ∧
    l.map.Lands laying ⟨(g.low 0).toInt, (g.low 0).toInt + r.width⟩
      ⟨(g.low 1).toInt, (g.low 1).toInt + r.height⟩ l.x l.y (Interval.tolerance l.gridX l.x)
      (Interval.tolerance l.gridY l.y)

def Resolved (l : Layout g r) : Prop :=
  4 * Interval.tolerance l.gridX l.x < l.x.cell r.width ∧
    4 * Interval.tolerance l.gridY l.y < l.y.cell r.height

def Upright (l : Layout g r) : Prop :=
  l.map.Upright r.width r.height

variable {l : Layout g r}

theorem Lands.describes (hl : l.Lands) (hw : 0 < r.width) (hh : 0 < r.height) : l.Describes := by
  obtain ⟨laying, hf, hl⟩ := hl
  exact hl.mapsCells hw hh hf

theorem describes_iff_lands (hr : l.Resolved) (hw : 0 < r.width) (hh : 0 < r.height) :
    l.Describes ↔ l.Lands :=
  Affine.mapsCells_iff hr.1 hr.2 hw hh

theorem Lands.upright (hl : l.Lands) (hr : l.Resolved) (hw : 0 < r.width) (hh : 0 < r.height)
    (hx : l.map.shearX = 0) (hy : l.map.shearY = 0) : l.Upright := by
  obtain ⟨laying, hf, hl⟩ := hl
  exact hl.upright hx hy hr.1 hr.2 hw hh hf

/-- A grid around the ground of the raster lands on it if it runs in the raster's directions. -/
theorem Upright.lands (hu : l.Upright) (hx : l.gridX.Near l.x) (hy : l.gridY.Near l.y)
    (hw : g.range.span 0 = some r.width) (hh : g.range.span 1 = some r.height) : l.Lands := by
  have hcols : ((g.high 0).toInt : ℚ) + 1 = (g.low 0).toInt + r.width := by
    have := (GridGeometry.span_eq (by decide) hw).1
    exact_mod_cast (show (g.high 0).toInt + 1 = (g.low 0).toInt + r.width by omega)
  have hrows : ((g.high 1).toInt : ℚ) + 1 = (g.low 1).toInt + r.height := by
    have := (GridGeometry.span_eq (by decide) hh).1
    exact_mod_cast (show (g.high 1).toInt + 1 = (g.low 1).toInt + r.height by omega)
  have hground := GridGeometry.envelope_unsheared l.transform_eq hu.shearX_eq hu.shearY_eq
  rw [hcols, hrows] at hground
  obtain ⟨hgx, hgy⟩ := Envelope.planeBounds_inj
    (l.gridBounds_eq.symm.trans (GridGeometry.bounds_ground hground))
  exact ⟨_, hu.fits, Affine.lands_of_near hu.shearX_eq hu.shearY_eq hgx hgy hx hy⟩

/-- Which grids describe a raster, once those that run in its directions do. -/
theorem describes_iff (hu : l.Upright → l.Lands) (hr : l.Resolved) (hw : 0 < r.width)
    (hh : 0 < r.height) :
    (l.Describes ↔ l.Lands) ∧
      (l.map.shearX = 0 → l.map.shearY = 0 → (l.Describes ↔ l.Upright)) := by
  have hlands := describes_iff_lands hr hw hh
  refine ⟨hlands, fun hx hy => ?_⟩
  rw [hlands]
  constructor
  · intro h
    exact h.upright hr hw hh hx hy
  · exact hu

end Layout

section Laid

variable {σ : Type} {g : GridGeometry Exact} {r : Raster Exact σ}

theorem Raster.Placed.exists_layout (h : r.Placed) (hw : r.width < 2 ^ 63) (hh : r.height < 2 ^ 63)
    (hg : r.gridGeometry = .ok g) :
    g.width = r.width ∧ g.height = r.height ∧ ∃ l : Layout g r, l.Lands := by
  obtain ⟨x, y, -, hb⟩ := h.bounds_eq
  obtain ⟨hrange, htransform, -⟩ := GridGeometry.ofRange_ok hg
  rw [hb, Affine.ofBounds_exact x y h.width_pos h.height_pos] at htransform
  obtain ⟨gx, gy, hground⟩ := GridGeometry.exists_ground htransform
  have hspan₀ : g.range.span 0 = some r.width := by
    rw [hrange]
    exact GridRange.cellsBetween_lastIndex h.width_pos hw
  have hspan₁ : g.range.span 1 = some r.height := by
    rw [hrange]
    exact GridRange.cellsBetween_lastIndex h.height_pos hh
  have hlow : (g.low 0).toInt = 0 ∧ (g.low 1).toInt = 0 := by
    rw [GridGeometry.low, GridGeometry.low, hrange]
    exact ⟨Int64.toInt_zero, Int64.toInt_zero⟩
  refine ⟨?_, ?_, ⟨_, x, y, gx, gy, htransform, hb, GridGeometry.bounds_ground hground⟩,
    ⟨false, false, true⟩, ⟨?_, ?_, ?_⟩, ?_⟩
  · rw [GridGeometry.width, GridRange.width, hspan₀]
    rfl
  · rw [GridGeometry.height, GridRange.height, hspan₁]
    rfl
  · exact fun ht => absurd ht Bool.false_ne_true
  · exact fun hf => absurd hf Bool.false_ne_true
  · exact fun hf => absurd hf Bool.true_eq_false.mp
  · have hx := Interval.tolerance_nonneg gx x
    have hy := Interval.tolerance_nonneg gy y
    have hcols := x.mul_cell h.width_pos
    have hrows := y.mul_cell h.height_pos
    rw [Interval.length] at hcols hrows
    have heasting : ∀ i, x.cell r.width * (⟨0, 0 + r.width⟩ : Interval ℚ).bound i + x.min =
        x.bound i := by
      intro i
      cases i <;> simp only [Interval.bound] <;> linarith
    have hnorthing : ∀ j, -y.cell r.height * (⟨0, 0 + r.height⟩ : Interval ℚ).bound j + y.max =
        y.bound (!j) := by
      intro j
      cases j <;> simp only [Interval.bound, Bool.not_false, Bool.not_true] <;> linarith
    intro i j
    simp only [hlow.1, hlow.2, Affine.easting, Affine.northing, Bool.false_eq_true, if_false,
      Bool.false_xor, Bool.true_xor, Int.cast_zero, zero_mul, add_zero, zero_add]
      at heasting hnorthing ⊢
    rw [heasting, hnorthing, sub_self, sub_self, abs_zero]
    exact ⟨hx, hy⟩

end Laid

namespace Service

section Answer

variable {σ : Type} {s : Service Exact σ} {request : CoverageRequest Exact}
  {d : CoverageDescriptor Exact} {q : Query Exact} {r : Raster Exact σ} {g : GridGeometry Exact}

theorem gridOf_ok (h : gridOf q r = .ok g) :
    q.nativeCrs.code = q.targetCrs.code ∧
        q.targetGrid.envelope.isNear Raster.sameBox r.envelope = true ∧ g = q.targetGrid ∨
      r.gridGeometry = .ok g := by
  rw [gridOf] at h
  split at h
  · rename_i hkept
    left
    simp only [Query.needsReprojection, Bool.and_eq_true, Bool.not_eq_true',
      decide_eq_false_iff_not, ne_eq, not_not] at hkept
    exact ⟨hkept.1, hkept.2, (Except.ok.inj h).symm⟩
  · right
    split at h
    · rename_i hg
      rw [hg, Except.ok.inj h]
    · exact absurd h (by simp)

variable [Atlas Exact]

/-- All coordinates are rational: those of the catalog, those of the rasters that are read, and what
projections make of them. -/
structure IsRational (s : Service Exact σ) : Prop where
  atlas : Atlas.IsRational
  map : ∀ {id d}, s.catalog.descriptor? id = some d →
    ∃ t : Affine ℚ, d.gridGeometry.transform = t.exact
  extent : ∀ {id d}, s.catalog.descriptor? id = some d → d.nativeEnvelope.IsRational
  raster : ∀ {id box r}, s.reader id box = .raster r → r.envelope.IsRational

variable [Scalar σ] [Narrowing Exact σ] {a : CoverageResult Exact σ} {cancelled : Bool}

/-- The grid of an answer has as many cells as the raster. They lie where those of the raster lie if
the answer is in another system than the coverage. In the system of the coverage they do so if and
only if the outer corners of both agree, which for grids without shear is a matter of their
directions. -/
theorem call_layout (hs : s.IsRational)
    (hd : s.catalog.descriptor? request.coverageId = some d)
    (ha : (s.call request cancelled).outcome = .ok a) :
    a.gridGeometry.width = a.raster.width ∧ a.gridGeometry.height = a.raster.height ∧
      ∃ l : Layout a.gridGeometry a.raster,
        (d.nativeCrs.code ≠ a.crs.code → l.Describes) ∧ (l.Upright → l.Describes) ∧
          (l.Resolved → (l.Describes ↔ l.Lands) ∧
            (l.map.shearX = 0 → l.map.shearY = 0 → (l.Describes ↔ l.Upright))) := by
  obtain ⟨d', q, raw, hd', hq, hraw, hrun, hgrid, hcrs⟩ := of_call_ok ha
  obtain rfl := Option.some.inj (hd.symm.trans hd')
  have hq := CoverageDescriptor.accepts_of_validate hq
  obtain ⟨t, ht⟩ := hs.map hd
  have hbox := CoverageDescriptor.isRational_envelopeFor hs.atlas (hs.extent hd) hq.envelope_eq
  obtain ⟨u, hu, -⟩ := CoverageDescriptor.isRational_gridFor ht (hs.extent hd) hbox hq.grid_eq
  obtain ⟨gx, gy, hground⟩ := GridGeometry.exists_ground hu
  have hplan : (planOf q).targetGrid.envelope.IsRational := ⟨gx, gy, congrArg Envelope.axes hground⟩
  obtain ⟨hplaced, hw, hh⟩ := Raster.placed_run hs.atlas (hs.raster hraw) hbox hplan hrun
  have hw₀ := hplaced.width_pos
  have hh₀ := hplaced.height_pos
  have hspan₀ : q.targetGrid.range.span 0 = some a.raster.width := by
    rw [hw]
    exact hq.width_eq
  have hspan₁ : q.targetGrid.range.span 1 = some a.raster.height := by
    rw [hh]
    exact hq.height_eq
  obtain ⟨hsame, hnear, hkept⟩ | hlaid := gridOf_ok hgrid
  · obtain ⟨x, y, hxy, hb⟩ := hplaced.bounds_eq
    rw [hground, hxy, Envelope.isNear_plane] at hnear
    have hcode : d.nativeCrs.code = a.crs.code := by
      rw [hcrs, ← hsame, hq.code_eq]
    rw [hkept]
    let l : Layout q.targetGrid a.raster :=
      ⟨u, x, y, gx, gy, hu, hb, GridGeometry.bounds_ground hground⟩
    have hlands : l.Upright → l.Lands := fun h => h.lands hnear.1 hnear.2 hspan₀ hspan₁
    refine ⟨hw.symm, hh.symm, l, ?_, ?_, ?_⟩
    · exact fun h => absurd hcode h
    · exact fun h => (hlands h).describes hw₀ hh₀
    · exact fun h => Layout.describes_iff hlands h hw₀ hh₀
  · have hw₁ := (GridGeometry.span_eq (by decide) hspan₀).2.2
    have hh₁ := (GridGeometry.span_eq (by decide) hspan₁).2.2
    obtain ⟨hw', hh', l, hl⟩ := hplaced.exists_layout hw₁ hh₁ hlaid
    refine ⟨hw', hh', l, ?_, ?_, ?_⟩
    · exact fun _ => hl.describes hw₀ hh₀
    · exact fun _ => hl.describes hw₀ hh₀
    · exact fun h => Layout.describes_iff (fun _ => hl) h hw₀ hh₀

end Answer

section Small

open scoped Geographic

def northwardRequest : CoverageRequest Exact :=
  smallRequest ⟨-10.0, -10.0, 10.0, 10.0⟩ (some ⟨none, some (-10.0, -10.0), some (2.0, 2.0)⟩)

def constantBand : Band Float32 := ⟨"a", Pattern.constant 10 10 1.0, none⟩

def smallService : Service Exact Float32 :=
  small fun _ _ => .raster (CoverageDescriptor.smallRaster [constantBand])

theorem descriptor?_small {reader : CoverageReader Exact Float32} {id : String}
    {d : CoverageDescriptor Exact} (h : (small reader).catalog.descriptor? id = some d) :
    d = .small ["a"] := by
  obtain ⟨e, he, rfl⟩ := Option.map_eq_some_iff.mp h
  have hmem := List.mem_of_find?_eq_some he
  rw [List.mem_singleton.mp hmem]

theorem smallService_isRational : smallService.IsRational where
  atlas _ := Geographic.projection_isRational
  map h := by
    obtain rfl := descriptor?_small h
    exact ⟨_, (CoverageDescriptor.small_liesOn ["a"]).transform_eq⟩
  extent h := by
    obtain rfl := descriptor?_small h
    rw [(CoverageDescriptor.small_liesOn ["a"]).nativeEnvelope_eq]
    exact ⟨_, _, rfl⟩
  raster h := by
    obtain rfl := ReadOutcome.raster.inj h
    show (CoverageDescriptor.small []).nativeEnvelope.IsRational
    rw [(CoverageDescriptor.small_liesOn []).nativeEnvelope_eq]
    exact ⟨_, _, rfl⟩

theorem call_layout_small :
    ∃ (a : CoverageResult Exact Float32) (l : Layout a.gridGeometry a.raster),
      (smallService.call northwardRequest false).outcome = .ok a ∧ l.Resolved ∧ ¬ l.Describes := by
  have hrun : (smallService.call northwardRequest false).outcome.toOption.map (fun a =>
      (a.raster.width, a.raster.height, a.raster.envelope.bounds, a.gridGeometry.envelope.bounds,
        a.gridGeometry.transform)) =
      some (10, 10, Envelope.planeBounds ⟨-10, 10⟩ ⟨-10, 10⟩,
        Envelope.planeBounds ⟨-10, 10⟩ ⟨-10, 10⟩, Affine.exact ⟨2, 0, -10, 0, 2, -10⟩) := by
    decide +kernel
  obtain ⟨a, ha, hrun⟩ := Option.map_eq_some_iff.mp hrun
  have ha : (smallService.call northwardRequest false).outcome = .ok a := by
    cases hcall : (smallService.call northwardRequest false).outcome with
    | error e =>
      rw [hcall] at ha
      exact absurd ha (by simp [Except.toOption])
    | ok a' =>
      rw [hcall] at ha
      exact congrArg Except.ok (Option.some.inj ha)
  obtain ⟨-, -, l, -, -, hl⟩ := call_layout (d := .small ["a"]) smallService_isRational rfl ha
  simp only [Prod.mk.injEq] at hrun
  obtain ⟨hw, hh, hbounds, hgrid, hmap⟩ := hrun
  obtain ⟨hx, hy⟩ := Envelope.planeBounds_inj (l.bounds_eq.symm.trans hbounds)
  obtain ⟨hgx, hgy⟩ := Envelope.planeBounds_inj (l.gridBounds_eq.symm.trans hgrid)
  have hmap : l.map = ⟨2, 0, -10, 0, 2, -10⟩ :=
    Affine.exact_inj (l.transform_eq.symm.trans hmap)
  have hresolved : l.Resolved := by
    rw [Layout.Resolved, hx, hy, hgx, hgy, hw, hh]
    decide +kernel
  refine ⟨a, l, ha, hresolved, ?_⟩
  intro hdescribes
  have hup := ((hl hresolved).2 (by rw [hmap]) (by rw [hmap])).mp hdescribes
  obtain hrows | hrows := hup.rows
  · rw [hmap] at hrows
    exact absurd hrows (by norm_num)
  · rw [hh] at hrows
    exact absurd hrows (by norm_num)

end Small

end Service

end GeoRaster
