import GeoRaster.Coverage.Example
import GeoRaster.Proofs.Crop

namespace GeoRaster

variable {α : Type}

namespace Bounds

theorem hull_four (a b c d e f g h : ℚ) :
    hull [(⟨.finite a, .finite b⟩ : Point Exact), ⟨.finite c, .finite d⟩, ⟨.finite e, .finite f⟩,
      ⟨.finite g, .finite h⟩] =
      ⟨.finite (min (min (min a c) e) g), .finite (min (min (min b d) f) h),
        .finite (max (max (max a c) e) g), .finite (max (max (max b d) f) h)⟩ := by
  have hi : ∀ q : ℚ, Scalar.min Scalar.infinity (.finite q : Exact) = .finite q := fun q => rfl
  have hn : ∀ q : ℚ, Scalar.max (-Scalar.infinity) (.finite q : Exact) = .finite q := fun q => rfl
  simp [hull, insert, empty, hi, hn]

end Bounds

namespace Interval

def between (a b : ℚ) : Interval ℚ :=
  ⟨Min.min a b, Max.max a b⟩

theorem between_of_le {a b : ℚ} (h : a ≤ b) : between a b = ⟨a, b⟩ := by
  simp [between, h]

theorem between_of_ge {a b : ℚ} (h : b ≤ a) : between a b = ⟨b, a⟩ := by
  simp [between, h]

end Interval

namespace Affine

def exact (t : Affine ℚ) : Affine Exact :=
  ⟨.finite t.scaleX, .finite t.shearX, .finite t.translateX, .finite t.shearY, .finite t.scaleY,
    .finite t.translateY⟩

def easting (t : Affine ℚ) (col row : ℚ) : ℚ :=
  t.scaleX * col + t.shearX * row + t.translateX

def northing (t : Affine ℚ) (col row : ℚ) : ℚ :=
  t.shearY * col + t.scaleY * row + t.translateY

theorem apply_exact (t : Affine ℚ) (col row : ℚ) :
    t.exact.apply (.finite col) (.finite row) =
      ⟨.finite (t.easting col row), .finite (t.northing col row)⟩ := by
  simp [apply, exact, easting, northing]

/-- Cells of one size from the upper left corner of a box on. -/
theorem ofBounds_exact (x y : Interval ℚ) {width height : ℕ} (hw : 0 < width) (hh : 0 < height) :
    ofBounds (Envelope.planeBounds x y) width height =
      exact ⟨x.cell width, 0, x.min, 0, -y.cell height, y.max⟩ := by
  have hw₀ : (width : ℚ) ≠ 0 := Nat.cast_ne_zero.mpr hw.ne'
  have hh₀ : (height : ℚ) ≠ 0 := Nat.cast_ne_zero.mpr hh.ne'
  rw [ofBounds, max_eq_left hw, max_eq_left hh]
  simp [ofOrigin, Envelope.planeBounds, Bounds.width, Bounds.height, exact,
    Exact.finite_div _ hw₀, Exact.finite_div _ hh₀, Interval.cell, Interval.length]
  ring

end Affine

namespace GridRange

theorem toInt_sub_one {i : Int64} (h : -2 ^ 63 < i.toInt) : (i - 1).toInt = i.toInt - 1 := by
  have hone : (1 : Int64).toInt = 1 := by decide
  have hlt := i.toInt_lt
  rw [Int64.toInt_sub, hone]
  exact Int.bmod_eq_of_le (by omega) (by omega)

theorem toInt_lastIndex (size : ℕ) :
    (lastIndex size).toInt = min (size : ℤ) Int64.maxValue.toInt - 1 := by
  have hmax : Int64.maxValue.toInt = 2 ^ 63 - 1 := by decide
  have hword : (Int64.ofInt (min (size : ℤ) Int64.maxValue.toInt)).toInt =
      min (size : ℤ) Int64.maxValue.toInt := Int64.toInt_ofInt_of_le (by omega) (by omega)
  rw [lastIndex, toInt_sub_one (by omega), hword]

theorem isPlanar_ofSize {width height : ℕ} (hw : 0 < width) (hh : 0 < height) :
    (ofSize width height).IsPlanar := by
  have hmax : Int64.maxValue.toInt = 2 ^ 63 - 1 := by decide
  have hzero : (0 : Int64).toInt = 0 := by decide
  refine ⟨rfl, rfl, ?_⟩
  simp only [isValid, ofSize, List.zip_cons_cons, List.zip_nil_left, List.all_cons, List.all_nil,
    Int64.le_iff_toInt_le, toInt_lastIndex, hzero]
  simp
  omega

theorem toInt_lastIndex_add_one (size : ℕ) :
    (lastIndex size).toInt + 1 = (min size (2 ^ 63 - 1) : ℕ) := by
  have hmax : Int64.maxValue.toInt = 2 ^ 63 - 1 := by decide
  rw [toInt_lastIndex]
  omega

theorem cellsBetween_lastIndex_min {size : ℕ} (h : 0 < size) :
    cellsBetween 0 (lastIndex size) = some (min size (2 ^ 63 - 1)) := by
  have hmin : Int64.minValue.toInt = -2 ^ 63 := by decide
  have hmax : Int64.maxValue.toInt = 2 ^ 63 - 1 := by decide
  have hlast := toInt_lastIndex_add_one size
  rw [cellsBetween, Int64.toInt_zero, if_pos (by omega)]
  congr 1
  omega

theorem cellsBetween_lastIndex {size : ℕ} (h : 0 < size) (hs : size < 2 ^ 63) :
    cellsBetween 0 (lastIndex size) = some size := by
  rw [cellsBetween_lastIndex_min h, min_eq_left (by omega)]

end GridRange

namespace GridGeometry

variable {g : GridGeometry Exact} {t : Affine ℚ}

theorem corners_exact (h : g.transform = t.exact) :
    g.corners =
      [t.exact.apply (.finite (g.low 0).toInt) (.finite (g.low 1).toInt),
        t.exact.apply (.finite ((g.high 0).toInt + 1)) (.finite (g.low 1).toInt),
        t.exact.apply (.finite (g.low 0).toInt) (.finite ((g.high 1).toInt + 1)),
        t.exact.apply (.finite ((g.high 0).toInt + 1)) (.finite ((g.high 1).toInt + 1))] := by
  simp [corners, h]

/-- Without shear, the ground of a grid is the rectangle between two of its corners. -/
theorem envelope_unsheared (h : g.transform = t.exact) (hx : t.shearX = 0) (hy : t.shearY = 0) :
    g.envelope = .plane
      (.between (t.scaleX * (g.low 0).toInt + t.translateX)
        (t.scaleX * ((g.high 0).toInt + 1) + t.translateX))
      (.between (t.scaleY * (g.low 1).toInt + t.translateY)
        (t.scaleY * ((g.high 1).toInt + 1) + t.translateY))
      (g.crs.map Crs.eastingFirst) := by
  rw [envelope, corners_exact h]
  simp only [Affine.apply_exact, Bounds.hull_four, Affine.easting, Affine.northing, hx, hy,
    zero_mul, zero_add, add_zero, min_assoc, max_assoc]
  simp [Envelope.ofCorners, Envelope.plane, Interval.exact, Interval.between]

theorem low_eq (g : GridGeometry α) (axis : ℕ) (h : axis < 2) :
    g.range.low[axis]? = some (g.low axis) := by
  have := g.planar.1
  rw [low, List.getD_eq_getElem?_getD, List.getElem?_eq_getElem (by omega)]
  rfl

theorem high_eq (g : GridGeometry α) (axis : ℕ) (h : axis < 2) :
    g.range.high[axis]? = some (g.high axis) := by
  have := g.planar.2.1
  rw [high, List.getD_eq_getElem?_getD, List.getElem?_eq_getElem (by omega)]
  rfl

theorem low_le_high (g : GridGeometry α) (axis : ℕ) (h : axis < 2) :
    (g.low axis).toInt ≤ (g.high axis).toInt := by
  obtain ⟨⟨l, u⟩, transform, crs, hl, hu, hv⟩ := g
  match l, u, hl, hu with
  | [l₀, l₁], [u₀, u₁], _, _ =>
    simp only [GridRange.isValid, List.zip_cons_cons, List.all_cons, Bool.and_eq_true,
      decide_eq_true_eq] at hv
    match axis, h with
    | 0, _ => exact Int64.le_iff_toInt_le.mp hv.2.1
    | 1, _ => exact Int64.le_iff_toInt_le.mp hv.2.2.1

theorem span_eq {g : GridGeometry α} {axis n : ℕ} (ha : axis < 2)
    (h : g.range.span axis = some n) :
    (n : ℤ) = (g.high axis).toInt - (g.low axis).toInt + 1 ∧ 0 < n ∧ n < 2 ^ 63 := by
  have hle := g.low_le_high axis ha
  rw [GridRange.span, low_eq g axis ha, high_eq g axis ha] at h
  simp only [cellsBetween] at h
  split at h
  · rename_i hd
    obtain rfl := Option.some.inj h
    have : Int64.maxValue.toInt = 2 ^ 63 - 1 := by decide
    omega
  · exact absurd h (by simp)

end GridGeometry

/-- Where a grid lies whose rows run from north to south: the corner of the cell with indices zero
and the size of cells. -/
structure NorthUp where
  west : ℚ
  north : ℚ
  cellWidth : ℚ
  cellHeight : ℚ
  cellWidth_pos : 0 < cellWidth
  cellHeight_pos : 0 < cellHeight

namespace NorthUp

variable {n : NorthUp}

def affine (n : NorthUp) : Affine ℚ :=
  ⟨n.cellWidth, 0, n.west, 0, -n.cellHeight, n.north⟩

def columns (n : NorthUp) (first stop : ℤ) : Interval ℚ :=
  ⟨n.cellWidth * first + n.west, n.cellWidth * stop + n.west⟩

def rows (n : NorthUp) (first stop : ℤ) : Interval ℚ :=
  ⟨-n.cellHeight * stop + n.north, -n.cellHeight * first + n.north⟩

theorem columns_lt {first stop : ℤ} (h : first < stop) :
    (n.columns first stop).min < (n.columns first stop).max := by
  have : (first : ℚ) < stop := Int.cast_lt.mpr h
  have := mul_lt_mul_of_pos_left this n.cellWidth_pos
  simpa [columns] using this

theorem rows_lt {first stop : ℤ} (h : first < stop) :
    (n.rows first stop).min < (n.rows first stop).max := by
  have : (first : ℚ) < stop := Int.cast_lt.mpr h
  have := mul_lt_mul_of_pos_left this n.cellHeight_pos
  simp only [rows]
  linarith

theorem cell_columns {first stop : ℤ} {k : ℕ} (hk : (k : ℤ) = stop - first) (h : 0 < k) :
    (n.columns first stop).cell k = n.cellWidth := by
  have hq : (k : ℚ) = stop - first := by exact_mod_cast hk
  have hz : (k : ℚ) ≠ 0 := Nat.cast_ne_zero.mpr h.ne'
  rw [Interval.cell, div_eq_iff hz, Interval.length, columns, hq]
  ring

theorem cell_rows {first stop : ℤ} {k : ℕ} (hk : (k : ℤ) = stop - first) (h : 0 < k) :
    (n.rows first stop).cell k = n.cellHeight := by
  have hq : (k : ℚ) = stop - first := by exact_mod_cast hk
  have hz : (k : ℚ) ≠ 0 := Nat.cast_ne_zero.mpr h.ne'
  rw [Interval.cell, div_eq_iff hz, Interval.length, rows, hq]
  ring

theorem groundUp_columns {first stop : ℤ} {k : ℕ} (hc : (n.columns first stop).cell k = n.cellWidth)
    (s : CellSpan) :
    (n.columns first stop).groundUp k s = n.columns (first + s.first) (first + s.stop) := by
  rw [Interval.groundUp, hc]
  simp only [columns, Int.cast_add, Int.cast_natCast, Interval.mk.injEq]
  constructor <;> ring

theorem groundDown_rows {first stop : ℤ} {k : ℕ} (hc : (n.rows first stop).cell k = n.cellHeight)
    (s : CellSpan) :
    (n.rows first stop).groundDown k s = n.rows (first + s.first) (first + s.stop) := by
  rw [Interval.groundDown, hc]
  simp only [rows, Int.cast_add, Int.cast_natCast, Interval.mk.injEq]
  constructor <;> ring

def easting (n : NorthUp) (g : GridGeometry α) : Interval ℚ :=
  n.columns (g.low 0).toInt ((g.high 0).toInt + 1)

def northing (n : NorthUp) (g : GridGeometry α) : Interval ℚ :=
  n.rows (g.low 1).toInt ((g.high 1).toInt + 1)

theorem easting_lt (n : NorthUp) (g : GridGeometry α) : (n.easting g).min < (n.easting g).max :=
  columns_lt (Int.lt_add_one_iff.mpr (g.low_le_high 0 (by decide)))

theorem northing_lt (n : NorthUp) (g : GridGeometry α) : (n.northing g).min < (n.northing g).max :=
  rows_lt (Int.lt_add_one_iff.mpr (g.low_le_high 1 (by decide)))

theorem envelope_eq {g : GridGeometry Exact} (h : g.transform = n.affine.exact) :
    g.envelope = .plane (n.easting g) (n.northing g) (g.crs.map Crs.eastingFirst) := by
  have hx := n.easting_lt g
  have hy := n.northing_lt g
  rw [GridGeometry.envelope_unsheared h rfl rfl]
  simp only [easting, northing, columns, rows, Int.cast_add, Int.cast_one] at hx hy ⊢
  rw [← Interval.between_of_le hx.le, ← Interval.between_of_ge hy.le]
  rfl

end NorthUp

section Coverage

variable {σ : Type}

/-- The coverage lies on a grid that is laid north up, and its envelope is the grid's ground. -/
structure CoverageDescriptor.LiesOn (d : CoverageDescriptor Exact) (n : NorthUp) : Prop where
  transform_eq : d.gridGeometry.transform = n.affine.exact
  envelope_eq : d.nativeEnvelope =
    { d.gridGeometry.envelope with crs := some d.nativeCrs.eastingFirst }

/-- The raster has a sample for every cell and band of the coverage. Arrays have sizes that are
64-bit words. -/
structure CoverageDescriptor.IsFull (d : CoverageDescriptor Exact) (r : Raster Exact σ) :
    Prop where
  wellFormed : r.WellFormed
  size_lt : ∀ b ∈ r.bands, b.data.size < 2 ^ 64
  width_eq : d.gridGeometry.range.span 0 = some r.width
  height_eq : d.gridGeometry.range.span 1 = some r.height
  envelope_eq : r.envelope = d.nativeEnvelope
  length_eq : r.bands.length = d.bands.length

namespace CoverageDescriptor

variable {d : CoverageDescriptor Exact} {n : NorthUp} {r : Raster Exact σ}

theorem LiesOn.nativeEnvelope_eq (h : d.LiesOn n) :
    d.nativeEnvelope = .plane (n.easting d.gridGeometry) (n.northing d.gridGeometry)
      (some d.nativeCrs.eastingFirst) := by
  rw [h.envelope_eq, NorthUp.envelope_eq h.transform_eq]
  rfl

theorem IsFull.crs_eq (hr : d.IsFull r) (h : d.LiesOn n) : r.crs = d.nativeCrs.eastingFirst := by
  have := hr.wellFormed.crs_eq
  rw [hr.envelope_eq, h.nativeEnvelope_eq] at this
  exact (Option.some.inj this).symm

theorem IsFull.code_eq (hr : d.IsFull r) (h : d.LiesOn n) : r.crs.code = d.nativeCrs.code := by
  rw [hr.crs_eq h]
  rfl

/-- A full raster covers the ground of the grid. -/
theorem IsFull.liesOver (hr : d.IsFull r) (h : d.LiesOn n) :
    r.LiesOver (n.easting d.gridGeometry) (n.northing d.gridGeometry) where
  width_pos := hr.wellFormed.width_pos
  height_pos := hr.wellFormed.height_pos
  width_lt := (GridGeometry.span_eq (by decide) hr.width_eq).2.2
  height_lt := (GridGeometry.span_eq (by decide) hr.height_eq).2.2
  size_eq := hr.wellFormed.size_eq
  count_lt := hr.size_lt
  envelope_eq := by
    rw [hr.envelope_eq, h.nativeEnvelope_eq, hr.crs_eq h]
  order_eq := hr.wellFormed.order_eq
  x_lt := n.easting_lt _
  y_lt := n.northing_lt _

theorem IsFull.cell_easting (hr : d.IsFull r) :
    (n.easting d.gridGeometry).cell r.width = n.cellWidth := by
  obtain ⟨hw, hpos, -⟩ := GridGeometry.span_eq (by decide) hr.width_eq
  exact NorthUp.cell_columns (by omega) hpos

theorem IsFull.cell_northing (hr : d.IsFull r) :
    (n.northing d.gridGeometry).cell r.height = n.cellHeight := by
  obtain ⟨hh, hpos, -⟩ := GridGeometry.span_eq (by decide) hr.height_eq
  exact NorthUp.cell_rows (by omega) hpos

def smallPlace : NorthUp := ⟨-10, 10, 2, 2, by norm_num, by norm_num⟩

theorem small_liesOn (names : List String) : (small names).LiesOn smallPlace where
  transform_eq := by
    show smallGrid.transform = _
    decide +kernel
  envelope_eq := rfl

def smallRaster (bands : List (Band σ)) : Raster Exact σ where
  width := 10
  height := 10
  bands := bands
  envelope := (small []).nativeEnvelope
  crs := .ofCode .wgs84

theorem small_isFull {names : List String} {bands : List (Band σ)}
    (hl : bands.length = names.length) (hs : ∀ b ∈ bands, b.data.size = 100) :
    (small names).IsFull (smallRaster bands) where
  wellFormed := ⟨Nat.zero_lt_succ 9, Nat.zero_lt_succ 9, hs, rfl, rfl⟩
  size_lt b hb := by
    rw [hs b hb]
    decide
  width_eq := by
    show GridRange.span (.ofSize 10 10) 0 = some 10
    decide
  height_eq := by
    show GridRange.span (.ofSize 10 10) 1 = some 10
    decide
  envelope_eq := rfl
  length_eq := by
    rw [smallRaster, hl]
    simp [small, make]

end CoverageDescriptor

end Coverage

end GeoRaster
