import GeoRaster.Proofs.FirstFault
import GeoRaster.Proofs.GridExtent

namespace GeoRaster

namespace Interval

variable {x : Interval ℚ} {n k : ℕ}

/-- So many cells of a given size reach as far as the interval, up to half a cell. A single cell may
reach farther. -/
def FilledBy (x : Interval ℚ) (size : ℚ) (n : ℕ) : Prop :=
  |n * size - x.length| ≤ size / 2 ∨ n = 1 ∧ x.length < size / 2

theorem mul_cell_eq_iff (hx : x.min < x.max) (hn : 0 < n) : k * x.cell n = x.length ↔ k = n := by
  rw [← x.mul_cell hn, mul_left_inj' (cell_pos hx hn).ne', Nat.cast_inj]

theorem groundUp_eq_iff (hx : x.min < x.max) (hn : 0 < n) : x.groundUp n ⟨0, k⟩ = x ↔ k = n := by
  constructor
  · intro h
    have hmax : x.min + k * x.cell n = x.max := congrArg Interval.max h
    exact (mul_cell_eq_iff hx hn).mp (eq_sub_of_add_eq' hmax)
  · rintro rfl
    exact groundUp_all x hn

theorem groundDown_eq_iff (hx : x.min < x.max) (hn : 0 < n) :
    x.groundDown n ⟨0, k⟩ = x ↔ k = n := by
  constructor
  · intro h
    have hmin : x.max - k * x.cell n = x.min := congrArg Interval.min h
    exact (mul_cell_eq_iff hx hn).mp (sub_eq_iff_comm.mp hmin).symm
  · rintro rfl
    exact groundDown_all x hn

theorem filledBy_of_ratio {size : ℚ} (hsize : 0 < size)
    (h : |n - x.length / size| ≤ 1 / 2 ∨ n = 1 ∧ x.length / size < 1 / 2) :
    x.FilledBy size n := by
  have hmul : x.length / size * size = x.length := div_mul_cancel₀ _ hsize.ne'
  refine h.imp (fun hnear => ?_) (And.imp_right fun hless => ?_)
  · have hscaled := mul_le_mul_of_nonneg_right hnear hsize.le
    rw [← abs_of_pos hsize, ← abs_mul, abs_of_pos hsize, sub_mul, hmul] at hscaled
    linarith
  · have hscaled := mul_lt_mul_of_pos_right hless hsize
    linarith

end Interval

namespace NorthUp

theorem columns_zero (n : NorthUp) (k : ℕ) :
    n.columns 0 (0 + k) = ⟨n.west, n.west + k * n.cellWidth⟩ := by
  simp [columns, add_comm, mul_comm]

theorem rows_zero (n : NorthUp) (k : ℕ) :
    n.rows 0 (0 + k) = ⟨n.north - k * n.cellHeight, n.north⟩ := by
  simp [rows, mul_comm, sub_eq_neg_add]

end NorthUp

theorem Exact.abs_count_sub_le {q : ℚ} (hq : 0 ≤ q) {n : ℕ}
    (hn : n = max (min (roundRat q).toNat (2 ^ 64 - 1)) 1) (hle : n ≤ GridGeometry.maxCells) :
    |n - q| ≤ 1 / 2 ∨ n = 1 ∧ q < 1 / 2 := by
  rw [GridGeometry.maxCells_eq] at hle
  obtain ⟨hfloor, hlt⟩ : (roundRat q : ℚ) ≤ q + 1 / 2 ∧ q + 1 / 2 < roundRat q + 1 := by
    rw [roundRat, if_pos hq]
    exact Int.floor_eq_iff.mp rfl
  generalize roundRat q = r at *
  have hr : 0 ≤ r := by
    have : (-1 : ℚ) < r := by linarith
    exact Int.lt_iff_add_one_le.mp (by exact_mod_cast this)
  obtain rfl | hpos := hr.eq_or_lt
  · refine .inr ⟨hn, ?_⟩
    push_cast at hlt
    linarith
  · have hcount : (n : ℤ) = r := by omega
    have hcast : (n : ℚ) = r := by exact_mod_cast hcount
    rw [hcast]
    exact .inl (abs_le.mpr ⟨by linarith, by linarith⟩)

namespace GridGeometry

variable {x : Interval ℚ} {a : ℚ}

theorem cellsFor_exact (ha : a ≠ 0) (span : ℚ) : cellsFor (.finite span : Exact) (.finite a) =
    max (min (Exact.roundRat (span / |a|)).toNat (2 ^ 64 - 1)) 1 := by
  rw [cellsFor, Exact.abs_finite, Exact.finite_div _ (abs_pos.mpr ha).ne', Exact.round_finite,
    Exact.toCount_finite, ← Int.floor_toNat, Int.floor_intCast]

theorem filledBy_cellsFor (hx : x.min < x.max) (ha : a ≠ 0)
    (hn : cellsFor (.finite x.length : Exact) (.finite a) ≤ maxCells) :
    x.FilledBy |a| (cellsFor (.finite x.length : Exact) (.finite a)) := by
  have hsize := abs_pos.mpr ha
  have hq : 0 ≤ x.length / |a| := div_nonneg (sub_nonneg.mpr hx.le) hsize.le
  exact Interval.filledBy_of_ratio hsize (Exact.abs_count_sub_le hq (cellsFor_exact ha _) hn)

section Counted

variable {α : Type} {g : GridGeometry α}

/-- The number of cells along an axis is what it is taken for; beyond the numbers of a word it is
taken for the greatest count. -/
def IsCounted (g : GridGeometry α) (axis : ℕ) : Prop :=
  g.cells axis ≤ maxCells ∨ g.cells axis = maxCount

instance (g : GridGeometry α) (axis : ℕ) : Decidable (g.IsCounted axis) :=
  inferInstanceAs (Decidable (_ ∨ _))

theorem cells_eq_width_iff : g.cells 0 = g.width ↔ g.IsCounted 0 := by
  rw [IsCounted]
  by_cases h : g.cells 0 ≤ maxCells
  · exact iff_of_true (width_eq_cells h).symm (Or.inl h)
  · rw [width, GridRange.width, span_of_lt (by decide) (not_le.mp h), Option.getD_none,
      or_iff_right h]

theorem cells_eq_height_iff : g.cells 1 = g.height ↔ g.IsCounted 1 := by
  rw [IsCounted]
  by_cases h : g.cells 1 ≤ maxCells
  · exact iff_of_true (height_eq_cells h).symm (Or.inl h)
  · rw [height, GridRange.height, span_of_lt (by decide) (not_le.mp h), Option.getD_none,
      or_iff_right h]

end Counted

variable {native g : GridGeometry Exact} {target : Envelope Exact} {grid : RequestGrid Exact}
  {x y : Interval ℚ} {a b : ℚ} {r : GridRange} {crs : Option Crs}

theorem overRange_eq (hr : r.IsPlanar) (hx : x.min < x.max) (hy : y.min < y.max)
    (hw : 0 < r.width) (hh : 0 < r.height) :
    overRange r (Envelope.planeBounds x y) crs = .ok ⟨r, (NorthUp.filling hx hy
      (r.low.getD 0 0).toInt (r.low.getD 1 0).toInt hw hh).affine.exact, crs, hr⟩ := by
  have hw₀ : (r.width : ℚ) ≠ 0 := Nat.cast_ne_zero.mpr hw.ne'
  have hh₀ : (r.height : ℚ) ≠ 0 := Nat.cast_ne_zero.mpr hh.ne'
  -- rows run from north to south, so their scale is less than zero
  have hdown : (y.min - y.max) / r.height = -y.cell r.height := by
    rw [Interval.cell, Interval.length, ← neg_div, neg_sub]
  rw [overRange, plan_eq hr]
  simp [Affine.ofOrigin, Affine.exact, Envelope.planeBounds, Bounds.width, Bounds.height,
    Exact.finite_div _ hw₀, Exact.finite_div _ hh₀, NorthUp.affine, NorthUp.filling, hdown,
    Interval.cell, Interval.length]

theorem envelope_eq_iff {w h : ℕ} (hx : x.min < x.max) (hy : y.min < y.max) (hw : 0 < w)
    (hh : 0 < h) (ht : g.transform =
      (NorthUp.filling hx hy (g.low 0).toInt (g.low 1).toInt hw hh).affine.exact) :
    g.envelope = .plane x y (g.crs.map Crs.eastingFirst) ↔ g.cells 0 = w ∧ g.cells 1 = h := by
  rw [envelope_of_filling hx hy hw hh ht, Envelope.plane_inj, Interval.groundUp_eq_iff hx hw,
    Interval.groundDown_eq_iff hy hh]

theorem exists_overRange (crs : Option Crs) (hr : r.IsPlanar) (hx : x.min < x.max)
    (hy : y.min < y.max) :
    ∃ g, overRange r (Envelope.planeBounds x y) crs = .ok g ∧ g.range = r ∧
      (g.envelope = .plane x y (crs.map Crs.eastingFirst) ↔ g.IsCounted 0 ∧ g.IsCounted 1) := by
  have hw : 0 < r.width := width_pos ⟨r, (default : Affine ℚ), none, hr⟩
  have hh : 0 < r.height := height_pos ⟨r, (default : Affine ℚ), none, hr⟩
  refine ⟨_, overRange_eq hr hx hy hw hh, rfl, ?_⟩
  rw [← cells_eq_width_iff, ← cells_eq_height_iff]
  exact envelope_eq_iff hx hy hw hh rfl

/-- Cells of a given size lie north up from the upper left corner of a box on. On each axis they
reach as far as the box, up to half a cell or with a single cell. -/
structure FillsFromCorner (g : GridGeometry Exact) (x y : Interval ℚ) (width height : ℚ) :
    Prop where
  low_eq : g.range.low = [0, 0]
  transform_eq : g.transform = Affine.exact ⟨width, 0, x.min, 0, -height, y.max⟩
  envelope_eq : g.envelope = .plane ⟨x.min, x.min + g.width * width⟩
    ⟨y.max - g.height * height, y.max⟩ (g.crs.map Crs.eastingFirst)
  x_filled : x.FilledBy width g.width
  y_filled : y.FilledBy height g.height

theorem exists_overOffsets (crs : Option Crs) (hx : x.min < x.max) (hy : y.min < y.max)
    (ha : a ≠ 0) (hb : b ≠ 0)
    (hcols : cellsFor (.finite x.length : Exact) (.finite a) ≤ maxCells)
    (hrows : cellsFor (.finite y.length : Exact) (.finite b) ≤ maxCells) :
    ∃ g, overOffsets (.finite a) (.finite b) none (Envelope.planeBounds x y) crs = .ok g ∧
      g.crs = crs ∧ g.FillsFromCorner x y |a| |b| := by
  have hwords : maxCells < 2 ^ 63 := by decide
  let n : NorthUp := ⟨x.min, y.max, |a|, |b|, abs_pos.mpr ha, abs_pos.mpr hb⟩
  let w := cellsFor (.finite x.length : Exact) (.finite a)
  let h := cellsFor (.finite y.length : Exact) (.finite b)
  let g : GridGeometry Exact := ⟨.ofSize w h, n.affine.exact, crs,
    GridRange.isPlanar_ofSize (cellsFor_pos ..) (cellsFor_pos ..)⟩
  have hg : overOffsets (.finite a) (.finite b) none (Envelope.planeBounds x y) crs = .ok g := by
    rw [← plan_eq g.planar]
    simp [overOffsets, g, w, h, n, NorthUp.affine, Affine.exact, Affine.ofOrigin,
      Envelope.planeBounds, Bounds.width, Bounds.height, Interval.length]
  have hcols' : g.cells 0 = w := GridRange.cells_lastIndex (by omega)
  have hrows' : g.cells 1 = h := GridRange.cells_lastIndex (by omega)
  have hw : g.width = w := hcols' ▸ width_eq_cells (by omega)
  have hh : g.height = h := hrows' ▸ height_eq_cells (by omega)
  refine ⟨g, hg, rfl, rfl, rfl, ?_, ?_, ?_⟩
  · have hlow : (g.low 0).toInt = 0 ∧ (g.low 1).toInt = 0 := ⟨Int64.toInt_zero, Int64.toInt_zero⟩
    rw [NorthUp.envelope_eq (n := n) rfl, NorthUp.easting, NorthUp.northing,
      ← low_add_cells (by decide), ← low_add_cells (by decide), hlow.1, hlow.2, hcols', hrows', hw,
      hh, NorthUp.columns_zero, NorthUp.rows_zero]
  · exact hw ▸ filledBy_cellsFor hx ha hcols
  · exact hh ▸ filledBy_cellsFor hy hb hrows

section Requested

variable {build : Build} (hcheck : grid.check = .ok ())
include hcheck

theorem planned_of_range (hr : grid.range = some r) : planned build (some grid) native target =
    overRange r target.bounds (target.crs.map Crs.eastingFirst) := by
  rw [planned, hcheck, hr]
  rfl

theorem planned_of_offsets {a b : Exact} (hr : grid.range = none)
    (ho : grid.offsets = some (a, b)) : planned build (some grid) native target =
      overOffsets a b grid.origin target.bounds (target.crs.map Crs.eastingFirst) := by
  rw [planned, hcheck, hr, ho]
  rfl

theorem isPlanar_of_check (hr : grid.range = some r) : r.IsPlanar := by
  have hsound := RequestGrid.errorOf?_check grid ▸ errorOf?_eq_none.mpr ⟨_, hcheck⟩
  exact RequestGrid.errorOf?_checkRange.mp (Option.or_eq_none_iff.mp hsound).1 r hr

theorem ne_zero_of_check (ho : grid.offsets = some (.finite a, .finite b)) : a ≠ 0 ∧ b ≠ 0 := by
  have hsound := RequestGrid.errorOf?_check grid ▸ errorOf?_eq_none.mpr ⟨_, hcheck⟩
  have hoffsets := (Option.or_eq_none_iff.mp (Option.or_eq_none_iff.mp hsound).2).1
  simpa using RequestGrid.errorOf?_checkOffsets.mp hoffsets _ ho

end Requested

/-- What a request's own grid comes to over a box. A range is kept as it is, and its cells fill the
box exactly if they can be counted on both axes. Without a range and an origin, cells of a given
size start at the upper left corner, and as many are laid as fit each axis best. -/
theorem planned_requested (build : Build) (native : GridGeometry Exact)
    (ht : target.bounds = Envelope.planeBounds x y) (hx : x.min < x.max) (hy : y.min < y.max) :
    (∀ (grid : RequestGrid Exact) (r : GridRange), grid.check = .ok () → grid.range = some r →
      ∃ g, planned build (some grid) native target = .ok g ∧ g.range = r ∧
        (g.envelope = target.eastingFirst ↔ g.IsCounted 0 ∧ g.IsCounted 1)) ∧
      ∀ (grid : RequestGrid Exact) (a b : ℚ), grid.check = .ok () → grid.range = none →
        grid.origin = none → grid.offsets = some (.finite a, .finite b) →
        cellsFor (.finite x.length : Exact) (.finite a) ≤ maxCells →
        cellsFor (.finite y.length : Exact) (.finite b) ≤ maxCells →
          ∃ g, planned build (some grid) native target = .ok g ∧
            g.crs = target.crs.map Crs.eastingFirst ∧ g.FillsFromCorner x y |a| |b| := by
  constructor
  · intro grid r hcheck hr
    obtain ⟨g, hg, hrange, hfills⟩ := exists_overRange (target.crs.map Crs.eastingFirst)
      (isPlanar_of_check hcheck hr) hx hy
    rw [Crs.map_eastingFirst_twice, ← Envelope.eastingFirst_eq_plane ht] at hfills
    exact ⟨g, by rw [planned_of_range hcheck hr, ht, hg], hrange, hfills⟩
  · intro grid a b hcheck hr ho hoffsets hcols hrows
    obtain ⟨ha, hb⟩ := ne_zero_of_check hcheck hoffsets
    obtain ⟨g, hg, hcrs, hfills⟩ := exists_overOffsets (target.crs.map Crs.eastingFirst)
      hx hy ha hb hcols hrows
    exact ⟨g, by rw [planned_of_offsets hcheck hr hoffsets, ho, ht, hg], hcrs, hfills⟩

def endlessRow : RequestGrid Exact :=
  ⟨some ⟨[0, 0], [Int64.maxValue, 0]⟩, none, none⟩

def squareBox : Envelope Exact :=
  .plane ⟨0, 4⟩ ⟨0, 4⟩ (some (.ofCode .webMercator))

/-- One column more than is counted, and the cells end half way through the box. -/
theorem envelope_endlessRow_ne : endlessRow.check = .ok () ∧
    ∃ g, planned .checked (some endlessRow) CoverageDescriptor.smallGrid squareBox = .ok g ∧
      g.range = ⟨[0, 0], [Int64.maxValue, 0]⟩ ∧ g.envelope ≠ squareBox := by
  have hplanned : (planned .checked (some endlessRow) CoverageDescriptor.smallGrid
      squareBox).toOption.map (fun g => (g.range, g.envelope)) =
        some (⟨[0, 0], [Int64.maxValue, 0]⟩, .plane ⟨0, 4 * 2 ^ 63 / (2 ^ 64 - 1)⟩ ⟨0, 4⟩
          squareBox.crs) := by
    decide +kernel
  obtain ⟨g, hg, hboth⟩ := exists_of_toOption_map hplanned
  obtain ⟨hrange, henvelope⟩ := Prod.mk.inj hboth
  refine ⟨rfl, g, hg, hrange, ?_⟩
  rw [henvelope]
  decide +kernel

theorem planned_requested_square :
    squareBox.bounds = Envelope.planeBounds ⟨0, 4⟩ ⟨0, 4⟩ ∧
      (∃ g, planned .checked (some ⟨some ⟨[-3, 7], [4, 9]⟩, none, none⟩)
        CoverageDescriptor.smallGrid squareBox = .ok g ∧ g.envelope = squareBox.eastingFirst) ∧
      ∃ g, planned .checked (some ⟨none, none, some (.finite (-3), .finite 9)⟩)
        CoverageDescriptor.smallGrid squareBox = .ok g ∧
          g.FillsFromCorner ⟨0, 4⟩ ⟨0, 4⟩ |(-3)| |9| := by
  have hb : squareBox.bounds = Envelope.planeBounds ⟨0, 4⟩ ⟨0, 4⟩ :=
    Envelope.bounds_plane_of_order rfl
  obtain ⟨hranges, hoffsets⟩ := planned_requested .checked CoverageDescriptor.smallGrid hb
    (by norm_num) (by norm_num)
  obtain ⟨g, hg, hrange, hfills⟩ := hranges ⟨some ⟨[-3, 7], [4, 9]⟩, none, none⟩ _ rfl rfl
  obtain ⟨g', hg', -, hcells⟩ := hoffsets ⟨none, none, some (.finite (-3), .finite 9)⟩ (-3) 9
    (by decide +kernel) rfl rfl rfl (by decide +kernel) (by decide +kernel)
  refine ⟨hb, ⟨g, hg, hfills.mpr ⟨.inl ?_, .inl ?_⟩⟩, g', hg', hcells⟩
  all_goals
    rw [cells, low, high, hrange]
    decide

end GridGeometry

end GeoRaster
