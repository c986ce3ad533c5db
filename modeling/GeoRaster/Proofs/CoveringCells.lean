import GeoRaster.Proofs.NativeCells

namespace GeoRaster

namespace Interval

def WithinBy (t : ℚ) (a b : Interval ℚ) : Prop :=
  b.min - t ≤ a.min ∧ a.max ≤ b.max + t

/-- The cells from `first` to `last`, both included, are just those that an interval needs: they are
among the cells from `low` to `high`, they reach over the interval up to `t` at each end, and
without the first or the last of several a part of it is left uncovered. -/
structure Needs (a : Interval ℚ) (ground : ℤ → ℤ → Interval ℚ) (t : ℚ) (low high first last : ℤ) :
    Prop where
  low_le : low ≤ first
  le_high : last ≤ high
  covered : a.WithinBy t (ground first (last + 1))
  first_needed : first < last → ¬ a.Within (ground (first + 1) (last + 1))
  last_needed : first < last → ¬ a.Within (ground first last)

def positions (first stop : ℤ) : Interval ℚ :=
  ⟨first, stop⟩

/-- Where an interval of positions has to lie among indices up to `high` for its cells to be planned
there. The far edge lets no interval begin in the margin before it, and an end at which a cell is
counted has to be a word. -/
structure Plannable (a : Interval ℚ) (high : ℤ) : Prop where
  begins : a.min + CellSpan.margin < high + 1 ∨ high = 2 ^ 63 - 1
  ends_above : GridGeometry.EndsInRange a
  ends_below : a.max - CellSpan.margin ≤ 2 ^ 63 - 1 ∨ 2 ^ 63 - 1 ≤ a.min + CellSpan.margin

variable {a : Interval ℚ} {high p q : ℤ}

theorem within_iff_withinBy {b : Interval ℚ} : a.Within b ↔ a.WithinBy 0 b := by
  simp [Within, WithinBy]

/-- Between indices, an interval counts by the index before its beginning and the one after its
end. -/
theorem withinBy_positions :
    a.WithinBy CellSpan.margin (.positions p q) ↔
      p ≤ ⌊a.min + CellSpan.margin⌋ ∧ ⌈a.max - CellSpan.margin⌉ ≤ q := by
  rw [Int.le_floor, Int.ceil_le, WithinBy, positions, sub_le_iff_le_add, sub_le_iff_le_add]

theorem not_within_of_floor_lt (h : ⌊a.min + CellSpan.margin⌋ < p) :
    ¬ a.Within (.positions p q) := by
  have hlt := Int.floor_lt.mp h
  have hm := CellSpan.margin_pos
  rintro ⟨hp, -⟩
  simp only [positions] at hp
  linarith

theorem not_within_of_lt_ceil (h : q < ⌈a.max - CellSpan.margin⌉) :
    ¬ a.Within (.positions p q) := by
  have hlt := Int.lt_ceil.mp h
  have hm := CellSpan.margin_pos
  rintro ⟨-, hq⟩
  simp only [positions] at hq
  linarith

theorem plannable_iff :
    a.Plannable high ↔
      (⌊a.min + CellSpan.margin⌋ ≤ high ∨ high = 2 ^ 63 - 1) ∧
        -2 ^ 63 < ⌈a.max - CellSpan.margin⌉ ∧
        (⌈a.max - CellSpan.margin⌉ ≤ 2 ^ 63 - 1 ∨ 2 ^ 63 - 1 ≤ ⌊a.min + CellSpan.margin⌋) := by
  have hbegins : a.min + CellSpan.margin < high + 1 ↔ ⌊a.min + CellSpan.margin⌋ ≤ high := by
    rw [← Int.lt_add_one_iff, Int.floor_lt]
    push_cast
    rfl
  have hends : a.max - CellSpan.margin ≤ 2 ^ 63 - 1 ↔
      ⌈a.max - CellSpan.margin⌉ ≤ 2 ^ 63 - 1 := by
    rw [Int.ceil_le]
    norm_num
  have hfull : 2 ^ 63 - 1 ≤ a.min + CellSpan.margin ↔
      2 ^ 63 - 1 ≤ ⌊a.min + CellSpan.margin⌋ := by
    rw [Int.le_floor]
    norm_num
  rw [← hbegins, ← hends, ← hfull]
  exact ⟨fun h => ⟨h.begins, h.ends_above, h.ends_below⟩, fun ⟨h₁, h₂, h₃⟩ => ⟨h₁, h₂, h₃⟩⟩

end Interval

namespace NorthUp

variable {n : NorthUp} {x y : Interval ℚ} {t : ℚ} {low high first last stop : ℤ}

def columnPositions (n : NorthUp) (x : Interval ℚ) : Interval ℚ :=
  ⟨(x.min - n.west) / n.cellWidth, (x.max - n.west) / n.cellWidth⟩

def rowPositions (n : NorthUp) (y : Interval ℚ) : Interval ℚ :=
  ⟨(n.north - y.max) / n.cellHeight, (n.north - y.min) / n.cellHeight⟩

theorem columnPositions_le (h : x.min ≤ x.max) :
    (n.columnPositions x).min ≤ (n.columnPositions x).max :=
  div_le_div_of_nonneg_right (sub_le_sub_right h _) n.cellWidth_pos.le

theorem rowPositions_le (h : y.min ≤ y.max) :
    (n.rowPositions y).min ≤ (n.rowPositions y).max :=
  div_le_div_of_nonneg_right (sub_le_sub_left h _) n.cellHeight_pos.le

theorem withinBy_columns :
    x.WithinBy (t * n.cellWidth) (n.columns first stop) ↔
      (n.columnPositions x).WithinBy t (.positions first stop) := by
  simp only [Interval.WithinBy, columns, columnPositions, Interval.positions,
    le_div_iff₀ n.cellWidth_pos, div_le_iff₀ n.cellWidth_pos]
  constructor <;> rintro ⟨h₁, h₂⟩ <;> constructor <;> linarith

theorem withinBy_rows :
    y.WithinBy (t * n.cellHeight) (n.rows first stop) ↔
      (n.rowPositions y).WithinBy t (.positions first stop) := by
  simp only [Interval.WithinBy, rows, rowPositions, Interval.positions,
    le_div_iff₀ n.cellHeight_pos, div_le_iff₀ n.cellHeight_pos]
  constructor <;> rintro ⟨h₁, h₂⟩ <;> constructor <;> linarith

theorem within_columns :
    x.Within (n.columns first stop) ↔
      (n.columnPositions x).Within (.positions first stop) := by
  rw [Interval.within_iff_withinBy, Interval.within_iff_withinBy, ← withinBy_columns, zero_mul]

theorem within_rows :
    y.Within (n.rows first stop) ↔ (n.rowPositions y).Within (.positions first stop) := by
  rw [Interval.within_iff_withinBy, Interval.within_iff_withinBy, ← withinBy_rows, zero_mul]

theorem needs_columns :
    x.Needs n.columns (t * n.cellWidth) low high first last ↔
      (n.columnPositions x).Needs .positions t low high first last := by
  constructor
  · rintro ⟨h₁, h₂, h₃, h₄, h₅⟩
    exact ⟨h₁, h₂, withinBy_columns.mp h₃, fun h => mt within_columns.mpr (h₄ h),
      fun h => mt within_columns.mpr (h₅ h)⟩
  · rintro ⟨h₁, h₂, h₃, h₄, h₅⟩
    exact ⟨h₁, h₂, withinBy_columns.mpr h₃, fun h => mt within_columns.mp (h₄ h),
      fun h => mt within_columns.mp (h₅ h)⟩

theorem needs_rows :
    y.Needs n.rows (t * n.cellHeight) low high first last ↔
      (n.rowPositions y).Needs .positions t low high first last := by
  constructor
  · rintro ⟨h₁, h₂, h₃, h₄, h₅⟩
    exact ⟨h₁, h₂, withinBy_rows.mp h₃, fun h => mt within_rows.mpr (h₄ h),
      fun h => mt within_rows.mpr (h₅ h)⟩
  · rintro ⟨h₁, h₂, h₃, h₄, h₅⟩
    exact ⟨h₁, h₂, withinBy_rows.mpr h₃, fun h => mt within_rows.mp (h₄ h),
      fun h => mt within_rows.mp (h₅ h)⟩

end NorthUp

namespace GridGeometry

section Axis

variable {a : Interval ℚ} {low high : ℤ} {first last : Int64}

theorem toInt_lastReached_of_le {q : ℚ} (first : Int64) (h : ⌈q - CellSpan.margin⌉ ≤ -2 ^ 63) :
    (lastReached first (.finite q : Exact)).toInt = 2 ^ 63 - 1 := by
  rw [lastReached_eq_maxValue (endsAtLeast_exact.mpr h)]
  decide

/-- The planned cells of an interval within the grid are those that it needs if and only if it is
plannable. -/
theorem needs_positions_iff (hlow : -2 ^ 63 ≤ low) (hlh : low ≤ high) (hhigh : high < 2 ^ 63)
    (hle : a.min ≤ a.max) (hin : a.Within (.positions low (high + 1)))
    (hf : first = firstCell (.finite a.min : Exact))
    (hl : last = lastReached first (.finite a.max : Exact)) :
    a.Needs .positions CellSpan.margin low high first.toInt last.toInt ↔ a.Plannable high := by
  have hm := CellSpan.margin_pos
  have hm' : CellSpan.margin < 1 / 2 := by norm_num [CellSpan.margin]
  obtain ⟨hmin, hmax⟩ := hin
  simp only [Interval.positions] at hmin hmax
  have hfirst := toInt_firstCell_eq a.min
  rw [← hf, nearestIndex] at hfirst
  rw [Interval.plannable_iff]
  have hlowfloor : low ≤ ⌊a.min + CellSpan.margin⌋ := Int.le_floor.mpr (by linarith)
  have hceilhigh : ⌈a.max - CellSpan.margin⌉ ≤ high + 1 := Int.ceil_le.mpr (by linarith)
  have hfloorceil : ⌊a.min + CellSpan.margin⌋ ≤ ⌈a.max - CellSpan.margin⌉ := by
    rw [← Int.sub_one_lt_iff, Int.lt_ceil]
    have := Int.floor_le (a.min + CellSpan.margin)
    push_cast
    linarith
  by_cases hc : -2 ^ 63 < ⌈a.max - CellSpan.margin⌉
  · have hlast := toInt_lastReached_eq first hc
    rw [← hl, nearestIndex] at hlast
    constructor
    · rintro ⟨-, hhi, hcov, -, -⟩
      obtain ⟨-, hceil⟩ := Interval.withinBy_positions.mp hcov
      omega
    · rintro ⟨hb, -, he⟩
      refine ⟨by omega, by omega, Interval.withinBy_positions.mpr (by omega), fun h => ?_,
        fun h => ?_⟩
      · exact Interval.not_within_of_floor_lt (by omega)
      · exact Interval.not_within_of_lt_ceil (by omega)
  · -- the count of the last cell has wrapped, so the cells reach to the greatest index
    have hlast := toInt_lastReached_of_le first (not_lt.mp hc)
    rw [← hl] at hlast
    refine iff_of_false (fun h => ?_) (fun h => hc h.2.1)
    have hend : a.max ≤ -2 ^ 63 + 1 := by
      have := Int.ceil_le.mp (not_lt.mp hc)
      push_cast at this
      linarith
    have hfirstlow : first.toInt = low := by omega
    refine h.last_needed (by omega) ⟨?_, ?_⟩
    · rw [Interval.positions, hfirstlow]
      exact hmin
    · rw [Interval.positions, hlast]
      norm_num
      linarith

end Axis

variable {native : GridGeometry Exact} {n : NorthUp} {target : Envelope Exact} {x y : Interval ℚ}

theorem positionsOf_northUp (hx : x.min ≤ x.max) (hy : y.min ≤ y.max) {inverse : Affine Exact}
    (h : n.affine.exact.inverse? = some inverse) :
    inverse.positionsOf (Envelope.planeBounds x y) =
      Envelope.planeBounds (n.columnPositions x) (n.rowPositions y) :=
  NorthUp.hull_inverse hx hy h

theorem nativeCells_checked_northUp (ht : native.transform = n.affine.exact) (hx : x.min ≤ x.max)
    (hy : y.min ≤ y.max) (crs : Option Crs) :
    native.nativeCells .checked (Envelope.planeBounds x y) crs =
      if EndsInRange (n.columnPositions x) ∧ EndsInRange (n.rowPositions y) then
        native.nativeCells .wrapping (Envelope.planeBounds x y) crs
      else .error (.overflow .subtract) := by
  have hi := n.inverse?_affine
  have hends : EndsAtLeast (Envelope.planeBounds (n.columnPositions x) (n.rowPositions y)).maxX ∨
      EndsAtLeast (Envelope.planeBounds (n.columnPositions x) (n.rowPositions y)).maxY ↔
        ¬ (EndsInRange (n.columnPositions x) ∧ EndsInRange (n.rowPositions y)) := by
    simp only [Envelope.planeBounds, endsAtLeast_exact, EndsInRange, not_and_or, not_lt]
  rw [nativeCells_checked (ht ▸ hi), positionsOf_northUp hx hy hi]
  by_cases h : EndsInRange (n.columnPositions x) ∧ EndsInRange (n.rowPositions y)
  · rw [if_pos h, if_neg (mt hends.mp (not_not.mpr h))]
  · rw [if_neg h, if_pos (hends.mpr h)]

/-- Over a box within a grid that is laid north up, native cells are planned, with the map of the
grid. Along each axis they are the cells that the box needs if and only if it is plannable there;
the tolerance is the margin of a cell. With overflow checks the same cells are planned, unless the
box ends at the least index of an axis or before it. -/
theorem planned_needs (ht : native.transform = n.affine.exact)
    (hb : target.bounds = Envelope.planeBounds x y) (hx : x.min ≤ x.max) (hy : y.min ≤ y.max)
    (hxin : x.Within (n.easting native)) (hyin : y.Within (n.northing native)) :
    ∃ g, planned .wrapping none native target = .ok g ∧
      planned .checked none native target =
        (if EndsInRange (n.columnPositions x) ∧ EndsInRange (n.rowPositions y) then .ok g
          else .error (.overflow .subtract)) ∧
      g.transform = native.transform ∧ g.crs = target.crs.map Crs.eastingFirst ∧
      (x.Needs n.columns (CellSpan.margin * n.cellWidth) (native.low 0).toInt (native.high 0).toInt
          (g.low 0).toInt (g.high 0).toInt ↔
        (n.columnPositions x).Plannable (native.high 0).toInt) ∧
      (y.Needs n.rows (CellSpan.margin * n.cellHeight) (native.low 1).toInt (native.high 1).toInt
          (g.low 1).toInt (g.high 1).toInt ↔
        (n.rowPositions y).Plannable (native.high 1).toInt) := by
  have hdet : n.affine.det ≠ 0 := by
    have := (mul_pos n.cellWidth_pos n.cellHeight_pos).ne'
    simpa [Affine.det, NorthUp.affine] using this
  obtain ⟨g, hg, -⟩ := exists_nativeCells (x := x) (y := y) ht hdet
    (target.crs.map Crs.eastingFirst)
  obtain ⟨htransform, hcrs⟩ := nativeCells_ok hg
  obtain ⟨hl₀, hl₁, hh₀, hh₁⟩ := nativeCells_northUp ht hx hy hg
  have hchecked := nativeCells_checked_northUp ht hx hy (target.crs.map Crs.eastingFirst)
  rw [hg, ← hb] at hchecked
  rw [← hb] at hg
  refine ⟨g, hg, hchecked, htransform, hcrs, ?_, ?_⟩
  · rw [NorthUp.needs_columns]
    exact needs_positions_iff (native.low 0).le_toInt (native.low_le_high 0 (by decide))
      (native.high 0).toInt_lt (NorthUp.columnPositions_le hx) (NorthUp.within_columns.mp hxin)
      hl₀ hh₀
  · rw [NorthUp.needs_rows]
    exact needs_positions_iff (native.low 1).le_toInt (native.low_le_high 1 (by decide))
      (native.high 1).toInt_lt (NorthUp.rowPositions_le hy) (NorthUp.within_rows.mp hyin)
      hl₁ hh₁

section Small

open CoverageDescriptor

def edgeBox : Envelope Exact :=
  .plane ⟨-7 / 2, 10⟩ ⟨3, 3⟩ (some (.ofCode .wgs84))

theorem planned_needs_small :
    Interval.Within ⟨-7 / 2, 10⟩ (smallPlace.easting (smallGrid : GridGeometry Exact)) ∧
      Interval.Within ⟨3, 3⟩ (smallPlace.northing (smallGrid : GridGeometry Exact)) ∧
      ∃ g, planned .checked none smallGrid edgeBox = .ok g ∧
        g.transform = (smallGrid : GridGeometry Exact).transform ∧
        Interval.Needs ⟨-7 / 2, 10⟩ smallPlace.columns (CellSpan.margin * smallPlace.cellWidth) 0 9
          (g.low 0).toInt (g.high 0).toInt ∧
        Interval.Needs ⟨3, 3⟩ smallPlace.rows (CellSpan.margin * smallPlace.cellHeight) 0 9
          (g.low 1).toInt (g.high 1).toInt := by
  have hx : Interval.Within ⟨-7 / 2, 10⟩ (smallPlace.easting (smallGrid : GridGeometry Exact)) := by
    constructor <;> decide +kernel
  have hy : Interval.Within ⟨3, 3⟩ (smallPlace.northing (smallGrid : GridGeometry Exact)) := by
    constructor <;> decide +kernel
  have hbox : edgeBox.bounds = Envelope.planeBounds ⟨-7 / 2, 10⟩ ⟨3, 3⟩ :=
    Envelope.bounds_plane_of_order rfl
  obtain ⟨g, -, hg, htransform, -, hcols, hrows⟩ :=
    planned_needs (small_liesOn []).transform_eq hbox (by norm_num) le_rfl hx hy
  rw [if_pos (by constructor <;> decide +kernel)] at hg
  refine ⟨hx, hy, g, hg, htransform, hcols.mpr ⟨.inl ?_, ?_, .inl ?_⟩,
    hrows.mpr ⟨.inl ?_, ?_, .inl ?_⟩⟩
  all_goals decide +kernel

example : (planned .checked none smallGrid (.plane ⟨10, 10⟩ ⟨3, 3⟩ none)).toOption.map
    (fun g : GridGeometry Exact => (g.low 0, g.high 0)) = some (10, 10) := by
  decide +kernel

end Small

end GridGeometry

end GeoRaster
