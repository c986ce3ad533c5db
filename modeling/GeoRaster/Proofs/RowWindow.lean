import GeoRaster.Proofs.FileRoundTrip

namespace GeoRaster

namespace RawFileEntry

/-- The layout is the one of a raster's file. -/
structure Describes (e : RawFileEntry Exact Float32) (r : Raster Exact Float32) : Prop where
  width_eq : e.width = r.width
  height_eq : e.height = r.height
  bandNames_eq : e.bandNames = r.bands.map Band.name
  noData_eq : e.noData = r.bands.map Band.noData
  envelope_eq : e.envelope = r.envelope
  crs_eq : e.crs = r.crs

namespace Describes

variable {e : RawFileEntry Exact Float32} {r : Raster Exact Float32} {x y : Interval ℚ}
  {rows : CellSpan} {box : Envelope Exact} (he : e.Describes r) (h : r.LiesOver x y)

include he in
theorem rowsOf_disjoint (hb : r.envelope.meet? box = none) : e.rowsOf box = ⟨0, r.height⟩ := by
  rw [← he.height_eq]
  exact rowsOf_eq_all (he.envelope_eq ▸ hb)

include he h

theorem rowHeight_eq : e.rowHeight = .finite (y.cell r.height) := by
  rw [rowHeight, he.envelope_eq, he.height_eq, ← h.spans.resolutionY_eq]
  rfl

theorem rowsEnvelope_eq (rows : CellSpan) :
    e.rowsEnvelope rows = r.blockEnvelope ⟨0, r.width⟩ rows := by
  rw [h.spans.blockEnvelope_eq, Interval.groundUp_all x h.width_pos, rowsEnvelope, he.envelope_eq,
    he.crs_eq, h.spans.bounds_eq, he.rowHeight_eq h]
  simp [Envelope.planeBounds, Envelope.ofCorners, Envelope.plane, Interval.exact,
    Interval.groundDown]

/-- The rows that are read are those that a crop would keep. -/
theorem rowsOf_eq {cx cy : Interval ℚ} (hb : box.Shows x y cx cy) :
    e.rowsOf box = .reached r.height (y.fromMax r.height cy) := by
  have hm : e.envelope.meet? box = some (.plane cx cy (some r.crs)) := by
    rw [he.envelope_eq, h.envelope_eq]
    exact hb.meet?_plane h.x_lt h.y_lt _
  have hp : (Envelope.plane cx cy (some r.crs)).bounds = Envelope.planeBounds cx cy :=
    Envelope.bounds_plane (.inl h.spans.crs_map)
  have hc : y.cell r.height ≠ 0 := (Interval.cell_pos h.y_lt h.height_pos).ne'
  rw [rowsOf, hm]
  simp only [hp, he.height_eq, he.envelope_eq, h.spans.bounds_eq, he.rowHeight_eq h,
    Envelope.planeBounds, Exact.finite_sub, Exact.finite_div _ hc]
  exact CellSpan.between_finite (h.height_lt.trans (by decide)) _ _

theorem laysOut : e.LaysOut r.bands where
  width_pos := he.width_eq ▸ h.width_pos
  height_pos := he.height_eq ▸ h.height_pos
  length_eq := by rw [he.bandNames_eq, List.length_map]
  size_eq := he.width_eq ▸ he.height_eq ▸ h.size_eq

theorem fits_rowsOf (box : Envelope Exact) : (e.rowsOf box).Fits r.height :=
  he.height_eq ▸ RawFileEntry.fits_rowsOf (he.laysOut h).height_pos box

theorem bandRows_eq (hr : rows.Fits r.height) :
    e.bandRows r.bands rows = r.bands.map (·.block r.width ⟨0, r.width⟩ rows) := by
  have hzip : e.bandNames.zip r.bands = r.bands.map fun b => (b.name, b) := by
    rw [he.bandNames_eq]
    simpa using List.zip_map' (f := Band.name) (g := id) (l := r.bands)
  apply List.ext_getElem?
  intro i
  rw [bandRows, hzip, List.getElem?_map, List.getElem?_zipIdx, List.getElem?_map,
    List.getElem?_map, he.noData_eq, he.width_eq]
  cases hi : r.bands[i]? with
  | none => rfl
  | some b =>
    have hrows := Band.block_rows (h.size_eq b (List.mem_of_getElem? hi)) hr.stop_le
    simp [hi, ← hrows]
    rfl

theorem rowsRaster_eq (hr : rows.Fits r.height) :
    e.rowsRaster r.bands rows = r.part ⟨0, r.width⟩ rows := by
  have hcrs : e.crs.eastingFirst = r.crs := by
    rw [he.crs_eq]
    exact Raster.eastingFirst_eq h.order_eq
  have henvelope := he.rowsEnvelope_eq h rows
  rw [rowsEnvelope, he.crs_eq] at henvelope
  rw [rowsRaster, Raster.part, he.width_eq, he.bandRows_eq h hr, hcrs, ← henvelope]
  rfl

theorem read_eq (hs : (encodeBands r.bands).size < 2 ^ 63) {task : ReadTask}
    (hbuild : task.build = .wrapping ∨ r.bands ≠ []) (id : String) (box : Envelope Exact) :
    e.read task id (.ok (encodeBands r.bands)) box =
      .ok (r.part ⟨0, r.width⟩ (e.rowsOf box)) := by
  have hlays := he.laysOut h
  have hr := RawFileEntry.fits_rowsOf hlays.height_pos box
  rw [hlays.read_eq (by omega) hbuild, if_pos fun i hi => hlays.place_lt hs.le hr hi,
    he.rowsRaster_eq h (he.fits_rowsOf h box)]

end Describes

end RawFileEntry

end GeoRaster
