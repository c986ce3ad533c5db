import GeoRaster.Proofs.CommonPart
import GeoRaster.Proofs.GridOfAnswer
import GeoRaster.Proofs.NativeCells
import GeoRaster.Proofs.NativeCopy

namespace GeoRaster

namespace GridGeometry

variable {native g : GridGeometry Exact} {t : Affine ℚ} {x y : Interval ℚ}

/-- Columns and rows that are planned over a box: the native cells that it reaches, or one cell
where the coverage has no place and a grid is given that says nothing of its cells. -/
def plannedCells (t : Affine ℚ) (grid : Option (RequestGrid Exact)) (x y : Interval ℚ) : ℕ × ℕ :=
  if grid.isSome ∧ t = ⟨1, 0, 0, 0, 1, 0⟩ then (1, 1)
  else (reachedBy (.overCorners t.inverse.easting x y),
    reachedBy (.overCorners t.inverse.northing x y))

theorem isIdentity_exact : t.exact.isIdentity = true ↔ t = ⟨1, 0, 0, 0, 1, 0⟩ := by
  obtain ⟨a, b, c, d, e, f⟩ := t
  simp [Affine.isIdentity, Affine.identity, Affine.exact]
  tauto

end GridGeometry

namespace CoverageDescriptor

variable {α : Type} [Scalar α] [Atlas α] {registry : List Encoder} {settings : Settings}

/-- The request passes all checks that do not depend on the planned grid. They give a box and the
selected bands. -/
structure Passes (d : CoverageDescriptor α) (registry : List Encoder) (settings : Settings)
    (request : CoverageRequest α) (box : Envelope α) (bands : List ℕ) : Prop where
  envelope_eq : d.envelopeFor request.domain.envelope = .ok box
  grid_checked : checkGrid request.domain.grid = .ok ()
  interpolation : ∃ method,
    d.interpolationFor settings.defaultInterpolation request.interpolation = .ok method
  format : ∃ format, d.formatFor registry request.output.format = .ok format
  target : ∃ target, d.outputCrsFor request.output.crs = .ok target
  bands_eq : (bandSubset request.range >>= d.bandsFor) = .ok bands

theorem Passes.exists_draft {d : CoverageDescriptor α} {request : CoverageRequest α}
    {box : Envelope α} {bands : List ℕ} {grid : GridGeometry α}
    (h : d.Passes registry settings request box bands)
    (hg : d.gridFor box request.domain.grid = .ok grid) :
    ∃ q, d.Drafts registry settings request q ∧ q.envelope = box ∧ q.bands = bands ∧
      q.targetGrid = grid := by
  obtain ⟨method, hmethod⟩ := h.interpolation
  obtain ⟨format, hformat⟩ := h.format
  obtain ⟨target, htarget⟩ := h.target
  exact ⟨⟨d.id, box, grid, d.nativeCrs.eastingFirst, target, method, format, bands⟩,
    ⟨h.envelope_eq, h.grid_checked, hmethod, hformat, htarget, h.bands_eq, hg, rfl, rfl⟩, rfl, rfl,
    rfl⟩

variable {d : CoverageDescriptor Exact} {t : Affine ℚ} {x y : Interval ℚ} {box : Envelope Exact}

omit [Atlas α] in
theorem checkGrid_ok {g : RequestGrid α} (h : checkGrid (some g) = .ok ()) : g.check = .ok () := by
  rw [checkGrid] at h
  split at h
  · assumption
  · exact absurd h (by simp)

/-- A box off the coverage is planned as it is. -/
theorem exists_gridFor {grid : Option (RequestGrid Exact)}
    (ht : d.gridGeometry.transform = t.exact) (hdet : t.det ≠ 0)
    (hbox : box.bounds = Envelope.planeBounds x y) (hoff : box.meet? d.nativeEnvelope = none)
    (hg : ∀ g ∈ grid, g.range = none ∧ g.offsets = none) (hchecked : checkGrid grid = .ok ())
    (hcols : GridGeometry.EndsInRange (.overCorners t.inverse.easting x y))
    (hrows : GridGeometry.EndsInRange (.overCorners t.inverse.northing x y)) :
    ∃ g, d.gridFor box grid = .ok g ∧
      (g.cells 0, g.cells 1) = GridGeometry.plannedCells t grid x y := by
  obtain ⟨native, hnative, hl₀, hl₁, hh₀, hh₁⟩ :=
    GridGeometry.exists_nativeCells (x := x) (y := y) ht hdet (box.crs.map Crs.eastingFirst)
  have hcells : (native.cells 0, native.cells 1) =
      (GridGeometry.reachedBy (.overCorners t.inverse.easting x y),
        GridGeometry.reachedBy (.overCorners t.inverse.northing x y)) := by
    rw [GridGeometry.cells_reached hl₀ hh₀ hcols, GridGeometry.cells_reached hl₁ hh₁ hrows]
  rw [gridFor, hoff]
  simp only [Option.getD_none]
  cases grid with
  | none =>
    rw [GridGeometry.planned, hbox]
    simp only [hnative]
    exact ⟨native, rfl, hcells⟩
  | some g =>
    obtain ⟨range, origin, offsets⟩ := g
    obtain ⟨rfl, rfl⟩ := hg _ rfl
    have hcheck : RequestGrid.check ⟨none, origin, none⟩ = .ok () := checkGrid_ok hchecked
    rw [GridGeometry.planned, hbox, hcheck]
    simp only [bind, Except.bind, ht, GridGeometry.isIdentity_exact]
    -- a grid without cells of its own over a coverage without a place is a single cell
    by_cases hid : t = ⟨1, 0, 0, 0, 1, 0⟩
    · have hplanar : (GridRange.ofSize 1 1).IsPlanar :=
        GridRange.isPlanar_ofSize Nat.one_pos Nat.one_pos
      rw [if_pos hid, GridGeometry.plan_eq hplanar, GridGeometry.plannedCells,
        if_pos ⟨rfl, hid⟩]
      exact ⟨_, rfl, rfl⟩
    · rw [if_neg hid, hnative, GridGeometry.plannedCells, if_neg (fun h => hid h.2)]
      exact ⟨native, rfl, hcells⟩

end CoverageDescriptor

namespace Service

section Answer

variable {σ : Type} [Scalar σ] [Narrowing Exact σ] [Atlas Exact] {s : Service Exact σ}
  {d : CoverageDescriptor Exact} {r : Raster Exact σ} {q : Query Exact}

/-- The crop finds nothing of a full raster in a box off the coverage. -/
theorem finish_disjoint (hr : d.IsFull r) (hcode : r.crs.code = q.nativeCrs.code)
    (hi : ∀ i ∈ q.bands, i < d.bands.length) (hoff : q.envelope.meet? d.nativeEnvelope = none) :
    finish q r = ⟨.error .emptyIntersection, .read⟩ := by
  have hs : r.selectBands q.bands = .ok (r.pick q.bands) :=
    hr.wellFormed.selectBands_eq hr.size_lt fun i h => hr.length_eq ▸ hi i h
  have hdisjoint : (r.pick q.bands).envelope.meet? q.envelope = none := by
    rw [Envelope.meet?_eq_none_comm, ← hoff, ← hr.envelope_eq]
    rfl
  exact finish_error (Raster.run_error hcode hs (Raster.crop_disjoint hdisjoint))

variable {request : CoverageRequest Exact} {t : Affine ℚ} {x y : Interval ℚ}
  {box : Envelope Exact} {bands : List ℕ}

/-- A request for native cells of a finite box off the coverage ends in an empty intersection if the
cells that the box reaches keep to the limit. If they do not, it is refused for its size before
anything is read. -/
theorem call_disjoint (hs : s.catalog.descriptor? request.coverageId = some d)
    (ht : d.gridGeometry.transform = t.exact) (hdet : t.det ≠ 0) (hr : d.IsFull r)
    (hcode : r.crs.code = d.nativeCrs.code) (hread : s.reader d.id box = .raster r)
    (hl : s.settings.maxOutputValues ≤ maxCount)
    (hp : d.Passes s.registry s.settings request box bands)
    (hg : CoverageDescriptor.WithoutGrid request) (hbox : box.bounds = Envelope.planeBounds x y)
    (hoff : box.meet? d.nativeEnvelope = none)
    (hcols : GridGeometry.EndsInRange (.overCorners t.inverse.easting x y))
    (hrows : GridGeometry.EndsInRange (.overCorners t.inverse.northing x y)) :
    let cells := GridGeometry.plannedCells t request.domain.grid x y
    (¬ GridGeometry.TooLarge s.settings.maxOutputValues cells.1 cells.2 bands.length →
      s.call request false = ⟨.error .emptyIntersection, .read⟩) ∧
      (GridGeometry.TooLarge s.settings.maxOutputValues cells.1 cells.2 bands.length →
        ∃ width height, s.call request false = ⟨.error (.invalidParameter (.outputSize width height
          bands.length s.settings.maxOutputValues)), .refused⟩) := by
  intro cells
  obtain ⟨grid, hgrid, hcells⟩ := CoverageDescriptor.exists_gridFor ht hdet hbox hoff hg
    hp.grid_checked hcols hrows
  obtain ⟨q, hq, rfl, rfl, rfl⟩ := hp.exists_draft hgrid
  have hwidth : q.targetGrid.cells 0 = cells.1 := congrArg Prod.fst hcells
  have hheight : q.targetGrid.cells 1 = cells.2 := congrArg Prod.snd hcells
  have hvalid := hq.validate_eq
  rw [GridGeometry.checkSize_eq hl, hwidth, hheight] at hvalid
  constructor
  · intro hfits
    rw [if_neg hfits] at hvalid
    have hcall := call_accepted hs hvalid (by rw [hq.id_eq]; exact hread)
    rw [hcall]
    have hnative : r.crs.code = q.nativeCrs.code := by
      rw [hcode, hq.native_eq]
      rfl
    exact finish_disjoint hr hnative (fun i hi => hq.band_lt hi) hoff
  · intro hlarge
    rw [if_pos hlarge] at hvalid
    exact ⟨_, _, call_rejected false hs hvalid⟩

end Answer

section Small

open scoped Geographic

theorem small_passes {b : Bounds Exact} {box : Envelope Exact}
    (h : (CoverageDescriptor.small ["a"]).envelopeFor (some (.ofBounds b none)) = .ok box) :
    (CoverageDescriptor.small ["a"]).Passes Encoder.standard Settings.standard
      (smallRequest b none) box [0] where
  envelope_eq := h
  grid_checked := rfl
  interpolation := by
    refine ⟨.nearest, ?_⟩
    show (CoverageDescriptor.small ["a"] : CoverageDescriptor Exact).interpolationFor
      Settings.standard.defaultInterpolation none = .ok .nearest
    decide +kernel
  format := by
    refine ⟨⟨"GeoTIFF", some "GeoTIFF", some "image/tiff"⟩, ?_⟩
    show (CoverageDescriptor.small ["a"] : CoverageDescriptor Exact).formatFor Encoder.standard
      "GeoTIFF" = .ok _
    decide +kernel
  target := by
    refine ⟨.ofCode .wgs84, ?_⟩
    show (CoverageDescriptor.small ["a"] : CoverageDescriptor Exact).outputCrsFor none =
      .ok (.ofCode .wgs84)
    decide +kernel
  bands_eq := by
    show (CoverageDescriptor.small ["a"] : CoverageDescriptor Exact).bandsFor none = .ok [0]
    decide +kernel

theorem small_isFull_constant :
    (CoverageDescriptor.small ["a"]).IsFull (CoverageDescriptor.smallRaster [constantBand]) :=
  CoverageDescriptor.small_isFull rfl (by simp [constantBand, Pattern.constant])

def offBox (upper : ℚ) : Envelope Exact :=
  .plane ⟨20, upper⟩ ⟨20, upper⟩ (some (.ofCode .wgs84))

def offRequest (upper : ℚ) : CoverageRequest Exact :=
  smallRequest (Envelope.planeBounds ⟨20, upper⟩ ⟨20, upper⟩) none

theorem offRequest_withoutGrid (upper : ℚ) :
    CoverageDescriptor.WithoutGrid (offRequest upper) :=
  fun _ h => absurd h (Option.not_mem_none _)

theorem call_disjoint_small :
    (CoverageDescriptor.small ["a"]).IsFull (CoverageDescriptor.smallRaster [constantBand]) ∧
      CoverageDescriptor.smallPlace.affine.det ≠ 0 ∧
      (CoverageDescriptor.small ["a"]).Passes Encoder.standard Settings.standard (offRequest 24)
        (offBox 24) [0] ∧
      CoverageDescriptor.WithoutGrid (offRequest 24) ∧
      (offBox 24).meet? (CoverageDescriptor.small ["a"]).nativeEnvelope = none ∧
      smallService.call (offRequest 24) false = ⟨.error .emptyIntersection, .read⟩ := by
  have hdet : CoverageDescriptor.smallPlace.affine.det ≠ 0 := by
    decide +kernel
  have hbox : (CoverageDescriptor.small ["a"]).envelopeFor (offRequest 24).domain.envelope =
      .ok (offBox 24) := by
    decide +kernel
  have hoff : (offBox 24).meet? (CoverageDescriptor.small ["a"]).nativeEnvelope = none := by
    decide +kernel
  have hfits : ¬ GridGeometry.TooLarge Settings.standard.maxOutputValues
      (GridGeometry.plannedCells CoverageDescriptor.smallPlace.affine none ⟨20, 24⟩ ⟨20, 24⟩).1
      (GridGeometry.plannedCells CoverageDescriptor.smallPlace.affine none ⟨20, 24⟩ ⟨20, 24⟩).2
      1 := by
    decide +kernel
  have hpasses := small_passes hbox
  have hgrid := offRequest_withoutGrid 24
  refine ⟨small_isFull_constant, hdet, hpasses, hgrid, hoff, ?_⟩
  exact (call_disjoint (s := smallService) rfl
    (CoverageDescriptor.small_liesOn ["a"]).transform_eq hdet small_isFull_constant rfl rfl
    (by decide) hpasses hgrid (by decide +kernel) hoff (by decide +kernel)
    (by decide +kernel)).1 hfits

/-- A large box off the coverage is refused for its size. -/
theorem call_disjoint_large :
    (CoverageDescriptor.small ["a"]).IsFull (CoverageDescriptor.smallRaster [constantBand]) ∧
      CoverageDescriptor.smallPlace.affine.det ≠ 0 ∧
      (CoverageDescriptor.small ["a"]).Passes Encoder.standard Settings.standard
        (offRequest 100020) (offBox 100020) [0] ∧
      CoverageDescriptor.WithoutGrid (offRequest 100020) ∧
      (offBox 100020).meet? (CoverageDescriptor.small ["a"]).nativeEnvelope = none ∧
      smallService.call (offRequest 100020) false =
        ⟨.error (.invalidParameter (.outputSize 50000 50000 1 100000000)), .refused⟩ := by
  have hbox : (CoverageDescriptor.small ["a"]).envelopeFor (offRequest 100020).domain.envelope =
      .ok (offBox 100020) := by
    decide +kernel
  have hrefused : errorOf? ((CoverageDescriptor.small ["a"]).validate Encoder.standard
      Settings.standard (offRequest 100020)) =
      some (.invalidParameter (.outputSize 50000 50000 1 100000000)) := by
    decide +kernel
  refine ⟨small_isFull_constant, by decide +kernel, small_passes hbox,
    offRequest_withoutGrid 100020, by decide +kernel, ?_⟩
  exact call_rejected (s := smallService) false rfl (errorOf?_eq_some.mp hrefused)

end Small

end Service

end GeoRaster
