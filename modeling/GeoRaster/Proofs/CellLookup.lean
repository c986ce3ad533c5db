import GeoRaster.Proofs.ScaleInPlace

namespace GeoRaster

theorem CellSpan.cellAt_mem {size : ℕ} {t : ℚ} (hn : 0 < size) (ht : 0 ≤ t) (hle : t ≤ size) :
    t ∈ Set.Icc (cellAt size t : ℚ) (cellAt size t + 1 : ℕ) := by
  have hfloor := Nat.floor_le ht
  have hnext := Nat.lt_floor_add_one t
  rcases Nat.lt_or_ge ⌊t⌋₊ size with h | h
  · have heq : cellAt size t = ⌊t⌋₊ := by
      rw [cellAt]
      omega
    rw [heq, Nat.cast_succ]
    exact ⟨hfloor, hnext.le⟩
  · -- only the far border itself falls behind the last cell
    have heq : cellAt size t + 1 = size := by
      rw [cellAt]
      omega
    have hlast : (cellAt size t : ℚ) ≤ ⌊t⌋₊ := by
      rw [Nat.cast_le]
      omega
    rw [heq]
    exact ⟨hlast.trans hfloor, hle⟩

def CellSpan.single (i : ℕ) : CellSpan :=
  ⟨i, i + 1⟩

namespace Interval

variable {e : Interval ℚ} {n i : ℕ} {p : ℚ}

theorem exists_of_exact_le {p : Exact} (hl : e.exact.min ≤ p) (hu : p ≤ e.exact.max) :
    ∃ q : ℚ, p = .finite q ∧ e.Has q := by
  cases p with
  | finite q => exact ⟨q, rfl, Exact.finite_le.mp hl, Exact.finite_le.mp hu⟩
  | nan => exact absurd hl Bool.false_ne_true
  | negInfinity => exact absurd hl Bool.false_ne_true
  | infinity => exact absurd hu Bool.false_ne_true

section Cell

variable (he : e.min < e.max)
include he

theorem cellAt_mul_cell_le (hn : 0 < n) {d : ℚ} (hd : 0 ≤ d) (hle : d ≤ e.length) :
    CellSpan.cellAt n (d / e.cell n) * e.cell n ≤ d ∧
      d ≤ (CellSpan.cellAt n (d / e.cell n) + 1 : ℕ) * e.cell n := by
  have hc := cell_pos he hn
  have hcells : d / e.cell n ≤ n := by
    rwa [div_le_iff₀ hc, mul_cell e hn]
  obtain ⟨hfirst, hnext⟩ := CellSpan.cellAt_mem hn (div_nonneg hd hc.le) hcells
  exact ⟨(le_div_iff₀ hc).mp hfirst, (div_le_iff₀ hc).mp hnext⟩

theorem has_groundUp_cellUp (hn : 0 < n) (hp : e.Has p) :
    (e.groundUp n (.single (e.cellUp n p))).Has p := by
  obtain ⟨hl, hu⟩ := hp
  obtain ⟨hfirst, hnext⟩ := cellAt_mul_cell_le he hn (sub_nonneg.mpr hl) (sub_le_sub_right hu _)
  constructor
  · exact le_sub_iff_add_le'.mp hfirst
  · exact sub_le_iff_le_add'.mp hnext

theorem has_groundDown_cellDown (hn : 0 < n) (hp : e.Has p) :
    (e.groundDown n (.single (e.cellDown n p))).Has p := by
  obtain ⟨hl, hu⟩ := hp
  obtain ⟨hfirst, hnext⟩ := cellAt_mul_cell_le he hn (sub_nonneg.mpr hu) (sub_le_sub_left hl _)
  constructor
  · exact sub_le_comm.mp hnext
  · exact le_sub_comm.mp hfirst

theorem half_cell_mem (hi : i < n) : ((i : ℚ) + 1 / 2) * e.cell n ∈ Set.Icc 0 e.length := by
  have hn : 0 < n := Nat.zero_lt_of_lt hi
  have hi' : (i : ℚ) + 1 ≤ n := by exact_mod_cast hi
  rw [← mul_cell e hn]
  constructor
  · exact mul_nonneg (by positivity) (cell_pos he hn).le
  · exact mul_le_mul_of_nonneg_right (by linarith) (cell_pos he hn).le

theorem has_centreUp (hi : i < n) : e.Has (e.centreUp n i) := by
  obtain ⟨hl, hu⟩ := half_cell_mem he hi
  rw [length] at hu
  constructor <;> rw [centreUp] <;> linarith

theorem has_centreDown (hi : i < n) : e.Has (e.centreDown n i) := by
  obtain ⟨hl, hu⟩ := half_cell_mem he hi
  rw [length] at hu
  constructor <;> rw [centreDown] <;> linarith

end Cell

end Interval

theorem SampleGrid.nearestIndex_sub_half {size : ℕ} (h : 0 < size) (hlt : size < 2 ^ 63) (t : ℚ) :
    nearestIndex size (Exact.finite (t - 1 / 2)) = CellSpan.cellAt size t :=
  clampIndex_round h hlt t

theorem Envelope.holdsPoint_plane {x y : Interval ℚ} {c : Crs} (h : c.order = .eastingFirst)
    {p q : ℚ} :
    (plane x y (some c)).holdsPoint ⟨.finite p, .finite q⟩ = true ↔ x.Has p ∧ y.Has q := by
  rw [holdsPoint, bounds_plane_of_order h]
  simp [Bounds.holds, planeBounds, Interval.Has, and_assoc]

theorem Envelope.exists_of_holdsPoint {x y : Interval ℚ} {c : Crs} (h : c.order = .eastingFirst)
    {p : Point Exact} (hp : (plane x y (some c)).holdsPoint p = true) :
    ∃ u v : ℚ, p = ⟨.finite u, .finite v⟩ ∧ x.Has u ∧ y.Has v := by
  rw [holdsPoint, bounds_plane_of_order h] at hp
  simp only [Bounds.holds, Bool.and_eq_true, decide_eq_true_eq] at hp
  obtain ⟨⟨⟨hwest, heast⟩, hsouth⟩, hnorth⟩ := hp
  obtain ⟨u, hu, hx⟩ := Interval.exists_of_exact_le (e := x) hwest heast
  obtain ⟨v, hv, hy⟩ := Interval.exists_of_exact_le (e := y) hsouth hnorth
  exact ⟨u, v, congrArg₂ Point.mk hu hv, hx, hy⟩

namespace Raster

section Position

variable {α σ : Type} [Scalar α]

/-- Where a place lies among the cell centres of a raster. -/
def position (r : Raster α σ) (p : Point α) : Point α :=
  positionIn r.envelope.bounds r.resolutionX r.resolutionY p

end Position

namespace LiesOver

variable {σ : Type} {r : Raster Exact σ} {x y : Interval ℚ} (h : r.LiesOver x y)
include h

theorem position_eq (p q : ℚ) :
    r.position ⟨.finite p, .finite q⟩ =
      ⟨.finite ((p - x.min) / x.cell r.width - 1 / 2),
        .finite ((y.max - q) / y.cell r.height - 1 / 2)⟩ := by
  have hx := (Interval.cell_pos h.x_lt h.width_pos).ne'
  have hy := (Interval.cell_pos h.y_lt h.height_pos).ne'
  rw [position, positionIn, h.spans.bounds_eq, h.spans.resolutionX_eq, h.spans.resolutionY_eq]
  simp only [Envelope.planeBounds, Exact.finite_sub, Exact.half_eq, Exact.finite_div _ hx,
    Exact.finite_div _ hy]

/-- The kernel looks at the cell in which a place is looked up. -/
theorem nearestIndex_position (p q : ℚ) :
    SampleGrid.nearestIndex r.width (r.position ⟨.finite p, .finite q⟩).x =
        r.columnOf ⟨.finite p, .finite q⟩ ∧
      SampleGrid.nearestIndex r.height (r.position ⟨.finite p, .finite q⟩).y =
        r.rowOf ⟨.finite p, .finite q⟩ := by
  rw [h.position_eq, h.columnOf_eq, h.rowOf_eq]
  exact ⟨SampleGrid.nearestIndex_sub_half h.width_pos h.width_lt _,
    SampleGrid.nearestIndex_sub_half h.height_pos h.height_lt _⟩

/-- The cell of a place has the place on its ground. -/
theorem holdsPoint_cell {p q : ℚ} (hp : x.Has p) (hq : y.Has q) :
    (r.blockEnvelope (.single (r.columnOf ⟨.finite p, .finite q⟩))
      (.single (r.rowOf ⟨.finite p, .finite q⟩))).holdsPoint ⟨.finite p, .finite q⟩ = true := by
  rw [h.spans.blockEnvelope_eq, Envelope.holdsPoint_plane h.order_eq, h.columnOf_eq, h.rowOf_eq]
  exact ⟨Interval.has_groundUp_cellUp h.x_lt h.width_pos hp,
    Interval.has_groundDown_cellDown h.y_lt h.height_pos hq⟩

theorem holdsPoint_centreOf {col row : ℕ} (hcol : col < r.width) (hrow : row < r.height) :
    r.envelope.holdsPoint (r.centreOf col row) = true := by
  rw [h.centreOf_eq, h.envelope_eq, Envelope.holdsPoint_plane h.order_eq]
  exact ⟨Interval.has_centreUp h.x_lt hcol, Interval.has_centreDown h.y_lt hrow⟩

theorem cell_centreOf {col row : ℕ} (hcol : col < r.width) (hrow : row < r.height) :
    r.columnOf (r.centreOf col row) = col ∧ r.rowOf (r.centreOf col row) = row := by
  rw [h.centreOf_eq, h.columnOf_eq, h.rowOf_eq]
  exact ⟨Interval.cellUp_centre h.x_lt hcol, Interval.cellDown_centre h.y_lt hrow⟩

end LiesOver

section Lookup

variable {σ : Type} {r : Raster Exact σ} {x y : Interval ℚ} {k : ℕ} {b : Band σ}

theorem WellFormed.liesOver (h : r.WellFormed) (haxes : r.envelope.axes = [x.exact, y.exact])
    (hx : x.min < x.max) (hy : y.min < y.max) (hb : b ∈ r.bands) (hn : b.data.size < 2 ^ 63) :
    r.LiesOver x y where
  width_pos := h.width_pos
  height_pos := h.height_pos
  width_lt := by
    rw [h.size_eq b hb] at hn
    exact (Nat.le_mul_of_pos_right _ h.height_pos).trans_lt hn
  height_lt := by
    rw [h.size_eq b hb] at hn
    exact (Nat.le_mul_of_pos_left _ h.width_pos).trans_lt hn
  size_eq := h.size_eq
  count_lt c hc := by
    rw [h.size_eq c hc, ← h.size_eq b hb]
    exact hn.trans (by decide)
  envelope_eq := h.envelope_eq haxes
  order_eq := h.order_eq
  x_lt := hx
  y_lt := hy

variable [Scalar σ] [Narrowing Exact σ]

/-- What is found at a place: the sample of the cell around it, which is also the one that the
nearest-neighbour kernel picks there. -/
structure Finds (r : Raster Exact σ) (k : ℕ) (b : Band σ) (p : Point Exact) (v : σ) : Prop where
  at?_eq : r.at? k p = some v
  sample_eq : (⟨b.data, r.width, r.height⟩ : SampleGrid σ).sample .nearest (r.position p).x
    (r.position p).y = v
  column_eq : SampleGrid.nearestIndex r.width (r.position p).x = r.columnOf p
  row_eq : SampleGrid.nearestIndex r.height (r.position p).y = r.rowOf p
  get?_eq : r.get? k (r.columnOf p) (r.rowOf p) = some v
  around : (r.blockEnvelope (.single (r.columnOf p)) (.single (r.rowOf p))).holdsPoint p = true

theorem LiesOver.exists_finds (h : r.LiesOver x y) (hb : r.bands[k]? = some b) {p : Point Exact}
    (hp : r.envelope.holdsPoint p = true) : ∃ v, r.Finds k b p v := by
  have hk : k < r.bands.length := (List.getElem?_eq_some_iff.mp hb).1
  rw [h.envelope_eq] at hp
  obtain ⟨u, w, rfl, hu, hw⟩ := Envelope.exists_of_holdsPoint h.order_eq hp
  obtain ⟨hcolumn, hrow⟩ := h.nearestIndex_position u w
  have hcell : r.columnOf ⟨.finite u, .finite w⟩ < r.width ∧
      r.rowOf ⟨.finite u, .finite w⟩ < r.height := by
    rw [← hcolumn, ← hrow]
    exact ⟨SampleGrid.nearestIndex_lt h.width_pos _, SampleGrid.nearestIndex_lt h.height_pos _⟩
  obtain ⟨v, hv⟩ := exists_get? h.size_eq hk hcell.1 hcell.2
  have hdata : b.data[r.rowOf ⟨.finite u, .finite w⟩ * r.width +
      r.columnOf ⟨.finite u, .finite w⟩]? = some v := by
    rw [get?, if_neg (by omega), hb] at hv
    exact hv
  refine ⟨v, ?_, ?_, hcolumn, hrow, hv, h.holdsPoint_cell hu hw⟩
  · rw [at?_eq, ← hv]
    rw [← h.envelope_eq] at hp
    exact if_pos hp
  · rw [SampleGrid.sample_nearest_eq, hcolumn, hrow, hdata]
    rfl

/-- Both ways from a place to a sample agree everywhere on the raster, its border included, and at
the centre of a cell they lead to that cell. -/
theorem at?_agrees (h : r.WellFormed) (haxes : r.envelope.axes = [x.exact, y.exact])
    (hx : x.min < x.max) (hy : y.min < y.max) (hb : r.bands[k]? = some b)
    (hn : b.data.size < 2 ^ 63) :
    (∀ p, r.envelope.holdsPoint p = true → ∃ v, r.Finds k b p v) ∧
      ∀ col < r.width, ∀ row < r.height, ∃ v,
        r.Finds k b (r.centreOf col row) v ∧ r.get? k col row = some v := by
  have hl := h.liesOver haxes hx hy (List.mem_of_getElem? hb) hn
  refine ⟨fun p hp => hl.exists_finds hb hp, ?_⟩
  intro col hcol row hrow
  obtain ⟨v, hv⟩ := hl.exists_finds hb (hl.holdsPoint_centreOf hcol hrow)
  obtain ⟨hcolumn, hrowOf⟩ := hl.cell_centreOf hcol hrow
  have hget := hv.get?_eq
  rw [hcolumn, hrowOf] at hget
  exact ⟨v, hv, hget⟩

theorem at?_agrees_oblong :
    oblongRaster.WellFormed ∧
      oblongRaster.at? 0 ⟨.finite (2 / 3), .finite 3⟩ = some (.finite 4) ∧
      oblongRaster.at? 0 ⟨.finite 2, .finite 1⟩ = some (.finite 5) ∧
      (⟨Pattern.ramp 3 2, 3, 2⟩ : SampleGrid Exact).sample .nearest
        (oblongRaster.position ⟨.finite 2, .finite 1⟩).x
        (oblongRaster.position ⟨.finite 2, .finite 1⟩).y = .finite 5 := by
  obtain ⟨hplaces, -⟩ := at?_agrees (k := 0) (b := ⟨"a", Pattern.ramp 3 2, none⟩)
    oblongRaster_wellFormed rfl (by norm_num) (by norm_num) rfl (by decide)
  obtain ⟨u, hu⟩ := hplaces ⟨.finite (2 / 3), .finite 3⟩ (by decide +kernel)
  obtain ⟨v, hv⟩ := hplaces ⟨.finite 2, .finite 1⟩ (by decide +kernel)
  have hmiddle : oblongRaster.get? 0 (oblongRaster.columnOf ⟨.finite (2 / 3), .finite 3⟩)
      (oblongRaster.rowOf ⟨.finite (2 / 3), .finite 3⟩) = some (.finite 4) := by decide +kernel
  have hcorner : oblongRaster.get? 0 (oblongRaster.columnOf ⟨.finite 2, .finite 1⟩)
      (oblongRaster.rowOf ⟨.finite 2, .finite 1⟩) = some (.finite 5) := by decide +kernel
  obtain rfl := Option.some.inj (hmiddle.symm.trans hu.get?_eq)
  obtain rfl := Option.some.inj (hcorner.symm.trans hv.get?_eq)
  exact ⟨oblongRaster_wellFormed, hu.at?_eq, hv.at?_eq, hv.sample_eq⟩

end Lookup

end Raster

end GeoRaster
