import GeoRaster.Coverage.Example
import GeoRaster.Proofs.Answer
import GeoRaster.Proofs.Planning

namespace GeoRaster

def GridGeometry.RangeIn (g native : GridGeometry Exact) : Prop :=
  ((native.low 0).toInt ≤ (g.low 0).toInt ∧ (g.high 0).toInt ≤ (native.high 0).toInt) ∧
    (native.low 1).toInt ≤ (g.low 1).toInt ∧ (g.high 1).toInt ≤ (native.high 1).toInt

instance (g native : GridGeometry Exact) : Decidable (g.RangeIn native) :=
  inferInstanceAs (Decidable ((_ ∧ _) ∧ _ ∧ _))

namespace GridGeometry

variable {g : GridGeometry Exact}

def columns (g : GridGeometry Exact) : CellSpan :=
  ⟨(g.low 0).toInt.toNat, ((g.high 0).toInt + 1).toNat⟩

def rows (g : GridGeometry Exact) : CellSpan :=
  ⟨(g.low 1).toInt.toNat, ((g.high 1).toInt + 1).toNat⟩

theorem length_columns (hs : g.range.span 0 = some g.width)
    (hl : (g.columns.first : ℤ) = (g.low 0).toInt) : g.columns.length = g.width := by
  have hwidth := (span_eq (by decide) hs).1
  have hle := g.low_le_high 0 (by decide)
  simp only [columns, CellSpan.length] at hl ⊢
  omega

theorem length_rows (hs : g.range.span 1 = some g.height)
    (hl : (g.rows.first : ℤ) = (g.low 1).toInt) : g.rows.length = g.height := by
  have hheight := (span_eq (by decide) hs).1
  have hle := g.low_le_high 1 (by decide)
  simp only [rows, CellSpan.length] at hl ⊢
  omega

end GridGeometry

namespace CoverageDescriptor

variable {d : CoverageDescriptor Exact} {e : Envelope Exact} {x y : Interval ℚ} {width height : ℕ}

/-- The grid of the coverage is one of at most `10 ^ 8` columns and rows, laid over an envelope. -/
structure LaidOver (d : CoverageDescriptor Exact) (e : Envelope Exact) (x y : Interval ℚ)
    (width height : ℕ) : Prop where
  grid_eq : GridGeometry.ofEnvelope e width height = .ok d.gridGeometry
  bounds_eq : e.bounds = Envelope.planeBounds x y
  x_lt : x.min < x.max
  y_lt : y.min < y.max
  width_le : width ≤ 10 ^ 8
  height_le : height ≤ 10 ^ 8
  envelope_eq : d.nativeEnvelope =
    { d.gridGeometry.envelope with crs := some d.nativeCrs.eastingFirst }

namespace LaidOver

variable (h : d.LaidOver e x y width height)
include h

theorem low_zero : (d.gridGeometry.low 0).toInt = 0 ∧ (d.gridGeometry.low 1).toInt = 0 := by
  obtain ⟨hrange, -, -⟩ := GridGeometry.ofRange_ok h.grid_eq
  rw [GridGeometry.low, GridGeometry.low, hrange]
  exact ⟨Int64.toInt_zero, Int64.toInt_zero⟩

theorem high_eq : (d.gridGeometry.high 0).toInt = width - 1 ∧
    (d.gridGeometry.high 1).toInt = height - 1 := by
  obtain ⟨hrange, -, -⟩ := GridGeometry.ofRange_ok h.grid_eq
  have hw := h.width_le
  have hh := h.height_le
  have hmax : Int64.maxValue.toInt = 2 ^ 63 - 1 := by decide
  rw [GridGeometry.high, GridGeometry.high, hrange]
  show (GridRange.lastIndex width).toInt = _ ∧ (GridRange.lastIndex height).toInt = _
  rw [GridRange.toInt_lastIndex, GridRange.toInt_lastIndex]
  omega

theorem width_pos : 0 < width := by
  have hle := d.gridGeometry.low_le_high 0 (by decide)
  rw [h.low_zero.1, h.high_eq.1] at hle
  omega

theorem height_pos : 0 < height := by
  have hle := d.gridGeometry.low_le_high 1 (by decide)
  rw [h.low_zero.2, h.high_eq.2] at hle
  omega

def place : NorthUp where
  west := x.min
  north := y.max
  cellWidth := x.cell width
  cellHeight := y.cell height
  cellWidth_pos := Interval.cell_pos h.x_lt h.width_pos
  cellHeight_pos := Interval.cell_pos h.y_lt h.height_pos

theorem liesOn : d.LiesOn h.place where
  transform_eq := by
    obtain ⟨-, htransform, -⟩ := GridGeometry.ofRange_ok h.grid_eq
    rw [htransform, h.bounds_eq, Affine.ofBounds_exact x y h.width_pos h.height_pos]
    rfl
  envelope_eq := h.envelope_eq

theorem easting_min : (h.place.easting d.gridGeometry).min = x.min := by
  simp [NorthUp.easting, NorthUp.columns, h.low_zero.1, place]

theorem northing_max : (h.place.northing d.gridGeometry).max = y.max := by
  simp [NorthUp.northing, NorthUp.rows, h.low_zero.2, place]

end LaidOver

end CoverageDescriptor

namespace NorthUp

variable {n : NorthUp}

theorem not_identity (n : NorthUp) : (n.affine.exact.isIdentity) = false := by
  have hne : -n.cellHeight ≠ 1 := by
    have := n.cellHeight_pos
    linarith
  simp [Affine.isIdentity, Affine.identity, Affine.exact, affine, hne]

end NorthUp

namespace CoverageDescriptor

variable {σ : Type} {d : CoverageDescriptor Exact} {n : NorthUp} {r : Raster Exact σ}
  {request : CoverageRequest Exact} {q : Query Exact} {cx cy : Interval ℚ}

def WithoutGrid (request : CoverageRequest Exact) : Prop :=
  ∀ g ∈ request.domain.grid, g.range = none ∧ g.offsets = none

theorem LiesOn.nativeCells_of_accepts [Atlas Exact] (hd : d.LiesOn n) (ha : d.Accepts request q)
    (hg : WithoutGrid request)
    (hb : q.envelope.Shows (n.easting d.gridGeometry) (n.northing d.gridGeometry) cx cy)
    (hcrs : q.envelope.crs = some d.nativeCrs.eastingFirst) :
    d.gridGeometry.nativeCells .wrapping (Envelope.planeBounds cx cy) (some d.nativeCrs.eastingFirst) =
      .ok q.targetGrid := by
  have hplan := gridFor_clipped hd.nativeEnvelope_eq (n.easting_lt _) (n.northing_lt _) hb
    ha.grid_eq
  have hbounds : (Envelope.plane cx cy q.envelope.crs).bounds = Envelope.planeBounds cx cy :=
    Envelope.bounds_plane (.inl (by rw [hcrs]; rfl))
  have hcrs' : (Envelope.plane cx cy q.envelope.crs).crs.map Crs.eastingFirst =
      some d.nativeCrs.eastingFirst := by
    rw [Envelope.plane_crs, hcrs]
    rfl
  cases hgrid : request.domain.grid with
  | none =>
    rw [hgrid, GridGeometry.planned, hbounds, hcrs'] at hplan
    exact hplan
  | some g =>
    obtain ⟨hrange, hoffsets⟩ := hg g (by rw [hgrid]; rfl)
    rw [hgrid, GridGeometry.planned, hbounds, hcrs'] at hplan
    obtain ⟨_, -, hplan⟩ := bind_eq_ok.mp hplan
    rw [hrange, hoffsets] at hplan
    simp only [hd.transform_eq, n.not_identity, Bool.false_eq_true, if_false] at hplan
    exact hplan

section Kept

variable {e : Envelope Exact} {x y : Interval ℚ} {width height : ℕ}
  (h : d.LaidOver e x y width height) (hr : d.IsFull r) {g : GridGeometry Exact}
include h hr

theorem LaidOver.width_eq : r.width = width := by
  have hw := (GridGeometry.span_eq (by decide) hr.width_eq).1
  rw [h.low_zero.1, h.high_eq.1] at hw
  omega

theorem LaidOver.height_eq : r.height = height := by
  have hh := (GridGeometry.span_eq (by decide) hr.height_eq).1
  rw [h.low_zero.2, h.high_eq.2] at hh
  omega

theorem LaidOver.kept_columns (hwithin : cx.Within (h.place.easting d.gridGeometry))
    (hle : cx.min ≤ cx.max)
    (hlow : g.low 0 =
      GridGeometry.firstCell (.finite ((cx.min - h.place.west) / h.place.cellWidth) : Exact))
    (hhigh : g.high 0 = GridGeometry.lastReached (g.low 0)
      (.finite ((cx.max - h.place.west) / h.place.cellWidth) : Exact))
    (hin : (g.high 0).toInt ≤ (d.gridGeometry.high 0).toInt) :
    (g.columns.first : ℤ) = (g.low 0).toInt ∧
      CellSpan.reached r.width ((h.place.easting d.gridGeometry).fromMin r.width cx) =
        g.columns := by
  have hl := hr.liesOver h.liesOn
  have hwidth := h.width_eq hr
  have hcell : (h.place.easting d.gridGeometry).cell r.width = h.place.cellWidth := hr.cell_easting
  obtain ⟨h₁, h₂, h₃⟩ := Interval.fromMin_mem hl.width_pos hl.x_lt hwithin hle
  have hw := h.width_le
  rw [h.high_eq.1] at hin
  apply GridGeometry.reached_of_planned h₁ h₂ h₃ (by omega)
  · rw [hlow, Interval.fromMin, hcell, h.easting_min]
    rfl
  · rw [hhigh, Interval.fromMin, hcell, h.easting_min]
    rfl
  · omega

theorem LaidOver.kept_rows (hwithin : cy.Within (h.place.northing d.gridGeometry))
    (hle : cy.min ≤ cy.max)
    (hlow : g.low 1 =
      GridGeometry.firstCell (.finite ((h.place.north - cy.max) / h.place.cellHeight) : Exact))
    (hhigh : g.high 1 = GridGeometry.lastReached (g.low 1)
      (.finite ((h.place.north - cy.min) / h.place.cellHeight) : Exact))
    (hin : (g.high 1).toInt ≤ (d.gridGeometry.high 1).toInt) :
    (g.rows.first : ℤ) = (g.low 1).toInt ∧
      CellSpan.reached r.height ((h.place.northing d.gridGeometry).fromMax r.height cy) =
        g.rows := by
  have hl := hr.liesOver h.liesOn
  have hheight := h.height_eq hr
  have hcell : (h.place.northing d.gridGeometry).cell r.height = h.place.cellHeight :=
    hr.cell_northing
  obtain ⟨h₁, h₂, h₃⟩ := Interval.fromMax_mem hl.height_pos hl.y_lt hwithin hle
  have hh := h.height_le
  rw [h.high_eq.2] at hin
  apply GridGeometry.reached_of_planned h₁ h₂ h₃ (by omega)
  · rw [hlow, Interval.fromMax, hcell, h.northing_max]
    rfl
  · rw [hhigh, Interval.fromMax, hcell, h.northing_max]
    rfl
  · omega

theorem LaidOver.blockEnvelope_eq (ht : g.transform = h.place.affine.exact)
    (hcrs : g.crs = some d.nativeCrs.eastingFirst) (hcol : (g.columns.first : ℤ) = (g.low 0).toInt)
    (hrow : (g.rows.first : ℤ) = (g.low 1).toInt) :
    r.blockEnvelope g.columns g.rows = g.envelope := by
  have hl := hr.liesOver h.liesOn
  have hlex := g.low_le_high 0 (by decide)
  have hley := g.low_le_high 1 (by decide)
  have hcols : (g.columns.stop : ℤ) = (g.high 0).toInt + 1 := by
    simp only [GridGeometry.columns] at hcol ⊢
    omega
  have hrows : (g.rows.stop : ℤ) = (g.high 1).toInt + 1 := by
    simp only [GridGeometry.rows] at hrow ⊢
    omega
  have hx := NorthUp.groundUp_columns (n := h.place) (hr.cell_easting) g.columns
  have hy := NorthUp.groundDown_rows (n := h.place) (hr.cell_northing) g.rows
  simp only [hcol, hcols, h.low_zero.1, zero_add] at hx
  simp only [hrow, hrows, h.low_zero.2, zero_add] at hy
  rw [hl.spans.blockEnvelope_eq, NorthUp.envelope_eq ht, hcrs, hr.crs_eq h.liesOn]
  simp only [NorthUp.easting, NorthUp.northing, h.low_zero.1, h.low_zero.2] at hx hy ⊢
  rw [hx, hy]
  rfl

theorem LaidOver.resolves_easting
    (hx : 1e-9 * Interval.leastLength < (1 - CellSpan.margin) * x.cell width) :
    (h.place.easting d.gridGeometry).Resolves r.width := by
  have hl := hr.liesOver h.liesOn
  apply Interval.resolves_of_le hl.x_lt hl.width_pos
  · rw [h.width_eq hr]
    exact h.width_le
  · rw [hr.cell_easting]
    exact hx

theorem LaidOver.resolves_northing
    (hy : 1e-9 * Interval.leastLength < (1 - CellSpan.margin) * y.cell height) :
    (h.place.northing d.gridGeometry).Resolves r.height := by
  have hl := hr.liesOver h.liesOn
  apply Interval.resolves_of_le hl.y_lt hl.height_pos
  · rw [h.height_eq hr]
    exact h.height_le
  · rw [hr.cell_northing]
    exact hy

end Kept

end CoverageDescriptor

namespace Raster

variable {σ : Type} {r : Raster Exact σ} {x y : Interval ℚ} {q : Query Exact}

/-- A crop for the query keeps the planned cells, and they lie where the planned grid lies. -/
structure KeepsPlanned (r : Raster Exact σ) (q : Query Exact) : Prop where
  columns_fit : q.targetGrid.columns.Fits r.width
  rows_fit : q.targetGrid.rows.Fits r.height
  width_eq : q.targetGrid.columns.length = q.targetGrid.width
  height_eq : q.targetGrid.rows.length = q.targetGrid.height
  crop_eq : ∃ extent, (r.pick q.bands).crop q.envelope =
    .ok ((r.pick q.bands).part q.targetGrid.columns q.targetGrid.rows, extent)
  envelope_eq : r.blockEnvelope q.targetGrid.columns q.targetGrid.rows = q.targetGrid.envelope
  not_identity : q.targetGrid.transform.isIdentity = false

namespace KeepsPlanned

variable (hk : r.KeepsPlanned q)
include hk

/-- The kept cells pass all later stages as they are. -/
theorem run_eq [Scalar σ] [Narrowing Exact σ] [Atlas Exact] (hl : r.LiesOver x y)
    (hi : ∀ i ∈ q.bands, i < r.bands.length) (hcode : r.crs.code = q.nativeCrs.code)
    (hcrs : q.targetCrs.code = r.crs.code)
    (hcount : q.targetGrid.width * q.targetGrid.height ≤ maxCount) :
    r.run (Service.planOf q) =
      .ok ((r.pick q.bands).part q.targetGrid.columns q.targetGrid.rows) := by
  obtain ⟨extent, hcrop⟩ := hk.crop_eq
  have hp := (hl.pick q.bands).part_liesOver hk.columns_fit hk.rows_fit
  have hplaced : plannedExtent q.targetGrid extent =
      ((r.pick q.bands).part q.targetGrid.columns q.targetGrid.rows).envelope := by
    rw [plannedExtent, hk.not_identity]
    exact hk.envelope_eq.symm
  rw [Raster.run_eq hcode rfl (selectBands_eq hl hi) hcrop]
  refine Eq.trans (congrArg (deliver _ · (Service.planOf q)) hplaced) ?_
  apply hp.deliver_eq (show _ = (Service.planOf q).targetGrid.width from hk.width_eq) hk.height_eq
  · rw [← hk.width_eq, ← hk.height_eq] at hcount
    exact Nat.lt_of_le_of_lt hcount (by decide)
  · exact hcrs

theorem get?_eq (hl : r.LiesOver x y) (hi : ∀ i ∈ q.bands, i < r.bands.length) {k i col row : ℕ}
    (hki : q.bands[k]? = some i) (hcol : col < q.targetGrid.columns.length)
    (hrow : row < q.targetGrid.rows.length) :
    ∃ v, ((r.pick q.bands).part q.targetGrid.columns q.targetGrid.rows).get? k col row = some v ∧
      r.get? i (q.targetGrid.columns.first + col) (q.targetGrid.rows.first + row) = some v := by
  have hcol' : q.targetGrid.columns.first + col < r.width := by
    have := hk.columns_fit.stop_le
    simp only [CellSpan.length] at hcol
    omega
  have hrow' : q.targetGrid.rows.first + row < r.height := by
    have := hk.rows_fit.stop_le
    simp only [CellSpan.length] at hrow
    omega
  obtain ⟨v, hv⟩ := exists_get? hl.size_eq (hi i (List.mem_of_getElem? hki)) hcol' hrow'
  refine ⟨v, ?_, hv⟩
  rw [get?_part (hl.pick q.bands).size_eq hk.columns_fit hk.rows_fit hcol hrow, get?_pick hi hki, hv]

end KeepsPlanned

end Raster

namespace Service

section Copy

variable {σ : Type} [Atlas Exact] {d : CoverageDescriptor Exact} {e : Envelope Exact}
  {x y : Interval ℚ} {width height : ℕ} {r : Raster Exact σ} {s : Service Exact σ}
  {request : CoverageRequest Exact} {q : Query Exact}

/-- Native cells that are planned within the coverage are the cells that a crop keeps. -/
theorem keepsPlanned (h : d.LaidOver e x y width height) (hr : d.IsFull r)
    (hx : 1e-9 * Interval.leastLength < (1 - CellSpan.margin) * x.cell width)
    (hy : 1e-9 * Interval.leastLength < (1 - CellSpan.margin) * y.cell height)
    (ha : d.Accepts request q) (hg : CoverageDescriptor.WithoutGrid request)
    (hover : (d.nativeEnvelope.meet? q.envelope).isSome = true)
    (hin : q.targetGrid.RangeIn d.gridGeometry) : r.KeepsPlanned q := by
  have hd := h.liesOn
  have hl := hr.liesOver hd
  obtain ⟨hcrs, hvalid⟩ := CoverageDescriptor.envelopeFor_ok hd.crs_eq hd.isValid ha.envelope_eq
  obtain ⟨cx, cy, hb, hle⟩ := Envelope.exists_shows (some d.nativeCrs.eastingFirst)
    hl.x_lt hl.y_lt (by
      rw [← hd.nativeEnvelope_eq]
      exact Option.isSome_iff_ne_none.mp hover)
  obtain ⟨hlex, hley⟩ := hle hvalid
  have hcells := hd.nativeCells_of_accepts ha hg hb hcrs
  obtain ⟨htransform, hgcrs⟩ := GridGeometry.nativeCells_ok hcells
  obtain ⟨hl0, hl1, hh0, hh1⟩ := GridGeometry.nativeCells_northUp hd.transform_eq hlex hley hcells
  obtain ⟨⟨-, hin0⟩, -, hin1⟩ := hin
  obtain ⟨hfirst0, hcols⟩ := h.kept_columns hr hb.x_within hlex hl0 hh0 hin0
  obtain ⟨hfirst1, hrows⟩ := h.kept_rows hr hb.y_within hley hl1 hh1 hin1
  have hrx := h.resolves_easting hr hx
  have hry := h.resolves_northing hr hy
  refine ⟨?_, ?_, GridGeometry.length_columns ha.width_eq hfirst0,
    GridGeometry.length_rows ha.height_eq hfirst1, ?_, ?_, ?_⟩
  · rw [← hcols]
    exact CellSpan.fits_reached hl.width_pos _
  · rw [← hrows]
    exact CellSpan.fits_reached hl.height_pos _
  · rw [← hcols, ← hrows]
    exact ⟨_, (hl.pick q.bands).crop_resolved hrx hry hb⟩
  · exact h.blockEnvelope_eq hr (htransform.trans hd.transform_eq) hgcrs hfirst0 hfirst1
  · rw [htransform, hd.transform_eq]
    exact h.place.not_identity

variable [Scalar σ] [Narrowing Exact σ]

theorem call_nativeCells (h : d.LaidOver e x y width height) (hr : d.IsFull r)
    (hx : 1e-9 * Interval.leastLength < (1 - CellSpan.margin) * x.cell width)
    (hy : 1e-9 * Interval.leastLength < (1 - CellSpan.margin) * y.cell height)
    (hs : s.catalog.descriptor? request.coverageId = some d)
    (hq : d.validate s.registry s.settings request = .ok q)
    (hread : s.reader d.id q.envelope = .raster r)
    (hg : CoverageDescriptor.WithoutGrid request) (hcrs : q.targetCrs.code = d.nativeCrs.code)
    (hover : (d.nativeEnvelope.meet? q.envelope).isSome = true)
    (hin : q.targetGrid.RangeIn d.gridGeometry) :
    ∃ a, (s.call request false).outcome = .ok a ∧ a.raster.width = q.targetGrid.width ∧
      a.raster.height = q.targetGrid.height ∧ a.raster.envelope = q.targetGrid.envelope ∧
      a.raster.bands.length = q.bands.length ∧ a.gridGeometry = q.targetGrid ∧
      ∀ k i, q.bands[k]? = some i → ∀ col < a.raster.width, ∀ row < a.raster.height,
        ∃ v, a.raster.get? k col row = some v ∧
          r.get? i ((q.targetGrid.low 0).toInt.toNat + col)
            ((q.targetGrid.low 1).toInt.toNat + row) = some v := by
  have hl := hr.liesOver h.liesOn
  have ha := CoverageDescriptor.accepts_of_validate hq
  have hk := keepsPlanned h hr hx hy ha hg hover hin
  have hi := hr.band_lt ha
  have hcode := hr.code_eq h.liesOn
  have hnative := ha.code_eq
  have hrun := hk.run_eq hl hi (hcode.trans hnative.symm) (hcrs.trans hcode.symm) ha.count_le
  have hgrid : gridOf q ((r.pick q.bands).part q.targetGrid.columns q.targetGrid.rows) =
      .ok q.targetGrid := by
    apply gridOf_planned (hnative.trans hcrs.symm)
    rw [← hk.envelope_eq]
    exact ((hl.pick q.bands).part_liesOver hk.columns_fit hk.rows_fit).isNear_self
  have hcall := call_accepted hs hq (by rw [ha.id_eq]; exact hread)
  rw [finish_ok hrun hgrid] at hcall
  refine ⟨_, congrArg Call.outcome hcall, hk.width_eq, hk.height_eq, hk.envelope_eq, ?_, rfl, ?_⟩
  · show ((Band.pick r.bands q.bands).map _).length = _
    rw [List.length_map, Band.length_pick hi]
  · intro k i hki col hcol row hrow
    exact hk.get?_eq hl hi hki hcol hrow

end Copy

section Small

open scoped Geographic

def unalignedRequest : CoverageRequest Exact :=
  smallRequest (Envelope.planeBounds ⟨-7 / 2, 9 / 2⟩ ⟨-3, 11 / 3⟩) none

theorem small_laidOver (names : List String) :
    (CoverageDescriptor.small names).LaidOver
      (.ofCorners (-10.0, -10.0) (10.0, 10.0) (some (.ofCode .wgs84))) ⟨-10, 10⟩ ⟨-10, 10⟩ 10
      10 where
  grid_eq := rfl
  bounds_eq := by decide +kernel
  x_lt := by norm_num
  y_lt := by norm_num
  width_le := by norm_num
  height_le := by norm_num
  envelope_eq := rfl

def rampBand : Band Float32 := ⟨"a", Pattern.ramp 10 10, none⟩

theorem call_nativeCells_small :
    ∃ q a, (CoverageDescriptor.small ["a"]).validate Encoder.standard Settings.standard
        unalignedRequest = .ok q ∧
      ((small fun _ _ => .raster (CoverageDescriptor.smallRaster [rampBand])).call
        unalignedRequest false).outcome = .ok a ∧ a.raster.width = q.targetGrid.width ∧
      a.raster.height = q.targetGrid.height ∧ a.raster.envelope = q.targetGrid.envelope ∧
      a.raster.bands.length = q.bands.length ∧ a.gridGeometry = q.targetGrid ∧
      ∀ k i, q.bands[k]? = some i → ∀ col < a.raster.width, ∀ row < a.raster.height,
        ∃ v, a.raster.get? k col row = some v ∧
          (CoverageDescriptor.smallRaster [rampBand]).get? i
            ((q.targetGrid.low 0).toInt.toNat + col)
            ((q.targetGrid.low 1).toInt.toNat + row) = some v := by
  have hfull : (CoverageDescriptor.small ["a"]).IsFull
      (CoverageDescriptor.smallRaster [rampBand]) :=
    CoverageDescriptor.small_isFull rfl (by simp [rampBand, Pattern.ramp, Pattern.ofFn])
  have hplan : ((CoverageDescriptor.small ["a"]).validate Encoder.standard Settings.standard
      unalignedRequest).toOption.map (fun q => (decide (q.targetCrs.code = .wgs84),
        ((CoverageDescriptor.small ["a"]).nativeEnvelope.meet? q.envelope).isSome,
        decide (q.targetGrid.RangeIn (CoverageDescriptor.small ["a"]).gridGeometry))) =
      some (true, true, true) := by
    decide +kernel
  cases hq : (CoverageDescriptor.small ["a"]).validate Encoder.standard Settings.standard
      unalignedRequest with
  | error e =>
    rw [hq] at hplan
    exact absurd hplan (by simp [Except.toOption])
  | ok q =>
    rw [hq] at hplan
    obtain ⟨hcrs, hover, hin⟩ : q.targetCrs.code = .wgs84 ∧
        ((CoverageDescriptor.small ["a"]).nativeEnvelope.meet? q.envelope).isSome = true ∧
        q.targetGrid.RangeIn (CoverageDescriptor.small ["a"]).gridGeometry := by
      simpa [Except.toOption] using hplan
    obtain ⟨a, ha⟩ := call_nativeCells
      (s := small fun _ _ => .raster (CoverageDescriptor.smallRaster [rampBand]))
      (small_laidOver ["a"]) hfull (by decide +kernel) (by decide +kernel) rfl hq rfl
      (by simp [CoverageDescriptor.WithoutGrid, unalignedRequest, smallRequest]) hcrs hover hin
    exact ⟨q, a, rfl, ha⟩

def thinGrid : GridGeometry Exact where
  range := .ofSize 2 1
  transform := .ofBounds ⟨0.0, 0.0, 2e-320, 1.0⟩ 2 1
  crs := some (.ofCode .wgs84)
  planar := by decide

def thin : CoverageDescriptor Exact :=
  { (CoverageDescriptor.make "bands" (.ofCode .wgs84) thinGrid [.named "a"]).withInterpolations
      ["bilinear"] (some "bilinear") with
    supportedFormats := ["GeoTIFF"] }

def thinRaster : Raster Exact Float32 :=
  ⟨2, 1, [⟨"a", #[7.0, 0.0 / 0.0], none⟩], thin.nativeEnvelope, .ofCode .wgs84⟩

def thinService : Service Exact Float32 where
  catalog := ⟨[⟨thin, none⟩], List.nodup_singleton _⟩
  registry := Encoder.standard
  settings := Settings.standard
  reader := fun _ _ => .raster thinRaster

def thinRequest : CoverageRequest Exact :=
  smallRequest ⟨0.0, 0.0, 1e-320, 1.0⟩ none

theorem thin_laidOver : thin.LaidOver (.ofCorners (0.0, 0.0) (2e-320, 1.0) (some (.ofCode .wgs84)))
    ⟨0, 2e-320⟩ ⟨0, 1⟩ 2 1 where
  grid_eq := rfl
  bounds_eq := by decide +kernel
  x_lt := by decide +kernel
  y_lt := by norm_num
  width_le := by norm_num
  height_le := by norm_num
  envelope_eq := rfl

theorem thin_isFull : thin.IsFull thinRaster where
  wellFormed := ⟨by decide, by decide, by simp [thinRaster], rfl, rfl⟩
  size_lt := by simp [thinRaster]
  width_eq := by decide
  height_eq := by decide
  envelope_eq := rfl
  length_eq := rfl

/-- Cells too narrow to be told apart are not cut out, so that the kernel sees the neighbour. -/
theorem thin_not_copied :
    thin.LaidOver (.ofCorners (0.0, 0.0) (2e-320, 1.0) (some (.ofCode .wgs84))) ⟨0, 2e-320⟩ ⟨0, 1⟩
        2 1 ∧ thin.IsFull thinRaster ∧ CoverageDescriptor.WithoutGrid thinRequest ∧
      ∃ q a, thin.validate Encoder.standard Settings.standard thinRequest = .ok q ∧
        q.targetCrs.code = thin.nativeCrs.code ∧
        (thin.nativeEnvelope.meet? q.envelope).isSome = true ∧
        q.targetGrid.RangeIn thin.gridGeometry ∧
        (thinService.call thinRequest false).outcome = .ok a ∧ q.bands[0]? = some 0 ∧
        a.raster.get? 0 0 0 ≠
          thinRaster.get? 0 (q.targetGrid.low 0).toInt.toNat (q.targetGrid.low 1).toInt.toNat := by
  have hplan : (thin.validate Encoder.standard Settings.standard thinRequest).toOption.map
      (fun q => (decide (q.targetCrs.code = thin.nativeCrs.code),
        (thin.nativeEnvelope.meet? q.envelope).isSome,
        decide (q.targetGrid.RangeIn thin.gridGeometry), decide (q.bands[0]? = some 0),
        (thinRaster.get? 0 (q.targetGrid.low 0).toInt.toNat
          (q.targetGrid.low 1).toInt.toNat).map Scalar.isNaN)) =
      some (true, true, true, true, some false) := by
    decide +kernel
  have hcall : (thinService.call thinRequest false).outcome.toOption.map
      (fun a => (a.raster.get? 0 0 0).map Scalar.isNaN) = some (some true) := by
    decide +kernel
  refine ⟨thin_laidOver, thin_isFull, by simp [CoverageDescriptor.WithoutGrid, thinRequest,
    smallRequest], ?_⟩
  cases hq : thin.validate Encoder.standard Settings.standard thinRequest with
  | error e =>
    rw [hq] at hplan
    exact absurd hplan (by simp [Except.toOption])
  | ok q =>
    cases ha : (thinService.call thinRequest false).outcome with
    | error e =>
      rw [ha] at hcall
      exact absurd hcall (by simp [Except.toOption])
    | ok a =>
      rw [hq] at hplan
      rw [ha] at hcall
      simp only [Except.toOption, Option.map_some, Option.some.injEq, Prod.mk.injEq,
        decide_eq_true_eq] at hplan hcall
      obtain ⟨hcrs, hover, hin, hband, hsample⟩ := hplan
      refine ⟨q, a, rfl, hcrs, hover, hin, rfl, hband, ?_⟩
      intro heq
      rw [heq, hsample] at hcall
      exact absurd hcall (by simp)

end Small

end Service

end GeoRaster
