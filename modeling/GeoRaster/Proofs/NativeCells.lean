import GeoRaster.Proofs.OutputSize

namespace GeoRaster

namespace Affine

variable {t : Affine ℚ}

def det (t : Affine ℚ) : ℚ :=
  t.scaleX * t.scaleY - t.shearX * t.shearY

def inverse (t : Affine ℚ) : Affine ℚ where
  scaleX := t.scaleY / t.det
  shearX := -t.shearX / t.det
  translateX := (t.shearX * t.translateY - t.scaleY * t.translateX) / t.det
  shearY := -t.shearY / t.det
  scaleY := t.scaleX / t.det
  translateY := (t.translateX * t.shearY - t.translateY * t.scaleX) / t.det

theorem easting_inverse (h : t.det ≠ 0) (col row : ℚ) :
    t.inverse.easting (t.easting col row) (t.northing col row) = col := by
  simp only [inverse, easting, northing]
  field_simp
  simp only [det]
  ring

theorem northing_inverse (h : t.det ≠ 0) (col row : ℚ) :
    t.inverse.northing (t.easting col row) (t.northing col row) = row := by
  simp only [inverse, easting, northing]
  field_simp
  simp only [det]
  ring

theorem inverse?_exact (h : t.det ≠ 0) : t.exact.inverse? = some t.inverse.exact := by
  have hdet : t.scaleX * t.scaleY - t.shearX * t.shearY ≠ 0 := h
  simp [inverse?, exact, inverse, det, Exact.finite_div _ hdet, hdet]

end Affine

def Affine.positionsOf {α : Type} [Scalar α] (inverse : Affine α) (b : Bounds α) : Bounds α :=
  .hull [inverse.apply b.minX b.minY, inverse.apply b.minX b.maxY, inverse.apply b.maxX b.minY,
    inverse.apply b.maxX b.maxY]

/-- The interval from the least to the greatest of four corner values. -/
def Interval.overCorners (f : ℚ → ℚ → ℚ) (x y : Interval ℚ) : Interval ℚ where
  min := Min.min (Min.min (Min.min (f x.min y.min) (f x.min y.max)) (f x.max y.min)) (f x.max y.max)
  max := Max.max (Max.max (Max.max (f x.min y.min) (f x.min y.max)) (f x.max y.min)) (f x.max y.max)

theorem Affine.positionsOf_exact (u : Affine ℚ) (x y : Interval ℚ) :
    u.exact.positionsOf (Envelope.planeBounds x y) =
      Envelope.planeBounds (.overCorners u.easting x y) (.overCorners u.northing x y) := by
  simp only [positionsOf, Envelope.planeBounds, apply_exact, Bounds.hull_four]
  rfl

namespace GridGeometry

def nearestIndex (k : ℤ) : ℤ :=
  max (-2 ^ 63) (min k (2 ^ 63 - 1))

/-- The last position lies above the least index, so that a cell before it can be counted. -/
def EndsInRange (a : Interval ℚ) : Prop :=
  -2 ^ 63 < ⌈a.max - CellSpan.margin⌉

instance (a : Interval ℚ) : Decidable (EndsInRange a) :=
  inferInstanceAs (Decidable (_ < _))

def reachedBy (a : Interval ℚ) : ℕ :=
  let first := nearestIndex ⌊a.min + CellSpan.margin⌋
  (max (nearestIndex ⌈a.max - CellSpan.margin⌉ - 1) first - first + 1).toNat

theorem toInt_firstCell_eq (q : ℚ) :
    (firstCell (.finite q : Exact)).toInt = nearestIndex ⌊q + CellSpan.margin⌋ := by
  rw [firstCell, snap_exact, Exact.finite_add, Exact.floor_finite, Exact.toInt_toInt64]
  rfl

theorem toInt_lastReached_eq {q : ℚ} (first : Int64) (h : -2 ^ 63 < ⌈q - CellSpan.margin⌉) :
    (lastReached first (.finite q : Exact)).toInt =
      max (nearestIndex ⌈q - CellSpan.margin⌉ - 1) first.toInt := by
  have hword := Exact.toInt_toInt64 ⌈q - CellSpan.margin⌉
  rw [lastReached, cellBehind, snap_exact, Exact.finite_sub, Exact.ceil_finite, toInt_max,
    GridRange.toInt_sub_one (by omega), hword, nearestIndex]

theorem plan_eq {α : Type} {range : GridRange} {transform : Affine α} {crs : Option Crs}
    (h : range.IsPlanar) : plan range transform crs = .ok ⟨range, transform, crs, h⟩ := by
  rw [plan, ofRange, dif_pos h]

theorem le_lastReached {α : Type} [Scalar α] (first : Int64) (upper : α) :
    first ≤ lastReached first upper := by
  rw [Int64.le_iff_toInt_le, lastReached, toInt_max]
  exact le_max_right _ _

section Ends

variable {α : Type} [Scalar α] {upper : α}

/-- The first index after the positions up to `upper` is the least one, or would lie before it. -/
def EndsAtLeast (upper : α) : Prop :=
  cellBehind upper = Int64.minValue

instance : Decidable (EndsAtLeast upper) :=
  inferInstanceAs (Decidable (_ = _))

theorem endsAtLeast_exact {q : ℚ} :
    EndsAtLeast (.finite q : Exact) ↔ ⌈q - CellSpan.margin⌉ ≤ -2 ^ 63 := by
  have hmin : Int64.minValue.toInt = -2 ^ 63 := by decide
  rw [EndsAtLeast, cellBehind, snap_exact, Exact.finite_sub, Exact.ceil_finite, ← Int64.toInt_inj,
    Exact.toInt_toInt64, hmin]
  omega

theorem lastReached_eq_maxValue (h : EndsAtLeast upper) (first : Int64) :
    lastReached first upper = Int64.maxValue := by
  have hwrap : Int64.minValue - 1 = Int64.maxValue := by decide
  have hmax : Int64.maxValue.toInt = 2 ^ 63 - 1 := by decide
  have hfirst := first.toInt_lt
  rw [lastReached, h, hwrap, ← Int64.toInt_inj, toInt_max]
  omega

theorem lastCell_checked (first : Int64) (upper : α) : lastCell .checked first upper =
    if EndsAtLeast upper then .error (.overflow .subtract)
    else .ok (lastReached first upper) := by
  by_cases h : cellBehind upper = Int64.minValue
  · have hends : EndsAtLeast upper := h
    rw [if_pos hends, lastCell, Build.predecessor, if_pos h]
  · have hends : ¬ EndsAtLeast upper := h
    rw [if_neg hends, lastCell, Build.predecessor, if_neg h]
    rfl

variable {native : GridGeometry α} {inverse : Affine α}

theorem nativeCells_of_none (h : native.transform.inverse? = none) (build : Build) (b : Bounds α)
    (crs : Option Crs) : native.nativeCells build b crs = .error .singular := by
  rw [nativeCells, h]

theorem nativeCells_wrapping (h : native.transform.inverse? = some inverse) (b : Bounds α)
    (crs : Option Crs) :
    native.nativeCells .wrapping b crs =
      plan ⟨[firstCell (inverse.positionsOf b).minX, firstCell (inverse.positionsOf b).minY],
        [lastReached (firstCell (inverse.positionsOf b).minX) (inverse.positionsOf b).maxX,
          lastReached (firstCell (inverse.positionsOf b).minY) (inverse.positionsOf b).maxY]⟩
        native.transform crs := by
  rw [nativeCells, h]
  rfl

theorem nativeCells_checked (h : native.transform.inverse? = some inverse) (b : Bounds α)
    (crs : Option Crs) :
    native.nativeCells .checked b crs =
      if EndsAtLeast (inverse.positionsOf b).maxX ∨ EndsAtLeast (inverse.positionsOf b).maxY then
        .error (.overflow .subtract)
      else native.nativeCells .wrapping b crs := by
  have hcells : native.nativeCells .checked b crs = (do
      let lastCol ← lastCell .checked (firstCell (inverse.positionsOf b).minX)
        (inverse.positionsOf b).maxX
      let lastRow ← lastCell .checked (firstCell (inverse.positionsOf b).minY)
        (inverse.positionsOf b).maxY
      plan ⟨[firstCell (inverse.positionsOf b).minX, firstCell (inverse.positionsOf b).minY],
        [lastCol, lastRow]⟩ native.transform crs) := by
    rw [nativeCells, h]
    rfl
  rw [hcells, nativeCells_wrapping h, lastCell_checked, lastCell_checked]
  by_cases hx : EndsAtLeast (inverse.positionsOf b).maxX
  · simp only [hx, true_or, if_true]
    rfl
  · by_cases hy : EndsAtLeast (inverse.positionsOf b).maxY
    · simp only [hx, hy, or_true, if_true, if_false]
      rfl
    · simp only [hx, hy, or_self, if_false]
      rfl

/-- Native cells are planned over any box, once there is a way back to grid positions. -/
theorem exists_nativeCells_of_inverse (h : native.transform.inverse? = some inverse) (b : Bounds α)
    (crs : Option Crs) : ∃ g, native.nativeCells .wrapping b crs = .ok g ∧
      g.low 0 = firstCell (inverse.positionsOf b).minX ∧
      g.low 1 = firstCell (inverse.positionsOf b).minY ∧
      g.high 0 = lastReached (g.low 0) (inverse.positionsOf b).maxX ∧
      g.high 1 = lastReached (g.low 1) (inverse.positionsOf b).maxY := by
  have hplanar : GridRange.IsPlanar ⟨[firstCell (inverse.positionsOf b).minX,
      firstCell (inverse.positionsOf b).minY],
      [lastReached (firstCell (inverse.positionsOf b).minX) (inverse.positionsOf b).maxX,
        lastReached (firstCell (inverse.positionsOf b).minY) (inverse.positionsOf b).maxY]⟩ :=
    ⟨rfl, rfl, by simp [GridRange.isValid, le_lastReached]⟩
  exact ⟨_, (nativeCells_wrapping h b crs).trans (plan_eq hplanar), rfl, rfl, rfl, rfl⟩

end Ends

variable {native g : GridGeometry Exact} {t : Affine ℚ} {x y : Interval ℚ}

theorem exists_nativeCells (ht : native.transform = t.exact) (hdet : t.det ≠ 0)
    (crs : Option Crs) :
    ∃ g, native.nativeCells .wrapping (Envelope.planeBounds x y) crs = .ok g ∧
      g.low 0 = firstCell (.finite (Interval.overCorners t.inverse.easting x y).min : Exact) ∧
      g.low 1 = firstCell (.finite (Interval.overCorners t.inverse.northing x y).min : Exact) ∧
      g.high 0 =
        lastReached (g.low 0) (.finite (Interval.overCorners t.inverse.easting x y).max : Exact) ∧
      g.high 1 =
        lastReached (g.low 1) (.finite (Interval.overCorners t.inverse.northing x y).max : Exact) := by
  have hback : native.transform.inverse? = some t.inverse.exact := by
    rw [ht, Affine.inverse?_exact hdet]
  have hcells := exists_nativeCells_of_inverse hback (Envelope.planeBounds x y) crs
  rw [Affine.positionsOf_exact] at hcells
  exact hcells

theorem cells_reached {axis : ℕ} {a : Interval ℚ}
    (hl : g.low axis = firstCell (.finite a.min : Exact))
    (hh : g.high axis = lastReached (g.low axis) (.finite a.max : Exact)) (hc : EndsInRange a) :
    g.cells axis = reachedBy a := by
  rw [cells, hh, toInt_lastReached_eq _ hc, hl, toInt_firstCell_eq, reachedBy]

end GridGeometry

end GeoRaster
