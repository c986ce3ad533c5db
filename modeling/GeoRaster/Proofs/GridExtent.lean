import GeoRaster.Proofs.GridOfAnswer
import GeoRaster.Proofs.NativeCells
import Mathlib.Algebra.Order.Group.Pointwise.Interval

namespace GeoRaster

namespace Interval

variable {f : ℚ → ℚ → ℚ} {x y : Interval ℚ} {c r : ℚ}

theorem bound_mem (h : x.min ≤ x.max) (i : Bool) : x.bound i ∈ Set.Icc x.min x.max := by
  cases i
  · exact Set.left_mem_Icc.mpr h
  · exact Set.right_mem_Icc.mpr h

/-- A linear function takes its values between those at the ends. -/
theorem mul_add_mem_uIcc (hc : c ∈ Set.Icc x.min x.max) (a b : ℚ) :
    a * c + b ∈ Set.uIcc (a * x.min + b) (a * x.max + b) := by
  rw [← Set.image_add_const_uIcc, ← Set.image_const_mul_uIcc]
  exact Set.mem_image_of_mem _ (Set.mem_image_of_mem _ (Set.Icc_subset_uIcc hc))

theorem mem_overCorners (hcol : ∀ r, f c r ∈ Set.uIcc (f x.min r) (f x.max r))
    (hrow : ∀ c, f c r ∈ Set.uIcc (f c y.min) (f c y.max)) :
    (overCorners f x y).min ≤ f c r ∧ f c r ≤ (overCorners f x y).max := by
  -- from the place to the sides along its row, and from there to the corners
  obtain ⟨hlow, hhigh⟩ := hcol r
  obtain ⟨hlow₀, hhigh₀⟩ := hrow x.min
  obtain ⟨hlow₁, hhigh₁⟩ := hrow x.max
  simp only [inf_le_iff, le_sup_iff] at hlow hhigh hlow₀ hhigh₀ hlow₁ hhigh₁
  simp only [overCorners, min_le_iff, le_max_iff]
  grind

theorem exists_min_overCorners (f : ℚ → ℚ → ℚ) (x y : Interval ℚ) :
    ∃ i j : Bool, f (x.bound i) (y.bound j) = (overCorners f x y).min := by
  simp only [Bool.exists_bool, bound, overCorners]
  grind

theorem exists_max_overCorners (f : ℚ → ℚ → ℚ) (x y : Interval ℚ) :
    ∃ i j : Bool, f (x.bound i) (y.bound j) = (overCorners f x y).max := by
  simp only [Bool.exists_bool, bound, overCorners]
  grind

end Interval

namespace Affine

variable {t : Affine ℚ} {cols rows : Interval ℚ} {col row : ℚ}

section Corners

variable (t) (hcol : col ∈ Set.Icc cols.min cols.max) (hrow : row ∈ Set.Icc rows.min rows.max)
include hcol hrow

theorem easting_mem :
    (Interval.overCorners t.easting cols rows).min ≤ t.easting col row ∧
      t.easting col row ≤ (Interval.overCorners t.easting cols rows).max := by
  refine Interval.mem_overCorners (fun r => ?_) fun c => ?_
  · simpa only [easting, add_assoc] using Interval.mul_add_mem_uIcc hcol t.scaleX _
  · have hswap : ∀ r, t.easting c r = t.shearX * r + (t.scaleX * c + t.translateX) := by
      intro r
      rw [easting]
      ring
    simpa only [hswap] using Interval.mul_add_mem_uIcc hrow t.shearX _

theorem northing_mem :
    (Interval.overCorners t.northing cols rows).min ≤ t.northing col row ∧
      t.northing col row ≤ (Interval.overCorners t.northing cols rows).max := by
  refine Interval.mem_overCorners (fun r => ?_) fun c => ?_
  · simpa only [northing, add_assoc] using Interval.mul_add_mem_uIcc hcol t.shearY _
  · have hswap : ∀ r, t.northing c r = t.scaleY * r + (t.shearY * c + t.translateY) := by
      intro r
      rw [northing]
      ring
    simpa only [hswap] using Interval.mul_add_mem_uIcc hrow t.scaleY _

end Corners

end Affine

namespace Bounds

/-- The box holds all places, and each of its bounds is a coordinate of one of them. -/
structure IsLeastAround {α : Type} [Scalar α] (b : Bounds α) (places : Set (Point α)) : Prop where
  holds : ∀ p ∈ places, b.holds p = true
  west : ∃ p ∈ places, p.x = b.minX
  south : ∃ p ∈ places, p.y = b.minY
  east : ∃ p ∈ places, p.x = b.maxX
  north : ∃ p ∈ places, p.y = b.maxY

end Bounds

namespace GridGeometry

variable {g : GridGeometry Exact} {t : Affine ℚ}

def positions (g : GridGeometry Exact) (axis : ℕ) : Interval ℚ :=
  ⟨(g.low axis).toInt, (g.high axis).toInt + 1⟩

def ground (g : GridGeometry Exact) : Set (Point Exact) :=
  {p | ∃ col ∈ Set.Icc (g.positions 0).min (g.positions 0).max,
    ∃ row ∈ Set.Icc (g.positions 1).min (g.positions 1).max,
      p = g.transform.apply (.finite col) (.finite row)}

theorem positions_le {axis : ℕ} (h : axis < 2) :
    (g.positions axis).min ≤ (g.positions axis).max := by
  have : ((g.low axis).toInt : ℚ) ≤ (g.high axis).toInt := Int.cast_le.mpr (g.low_le_high axis h)
  exact this.trans (le_add_of_nonneg_right zero_le_one)

/-- The envelope of a grid spans the coordinates of its four corners. -/
theorem envelope_eq_plane (ht : g.transform = t.exact) :
    g.envelope = .plane (.overCorners t.easting (g.positions 0) (g.positions 1))
      (.overCorners t.northing (g.positions 0) (g.positions 1)) (g.crs.map Crs.eastingFirst) := by
  rw [envelope, corners_exact ht]
  simp only [Affine.apply_exact, Bounds.hull_four, Envelope.ofCorners, Envelope.plane,
    Interval.exact, Interval.overCorners, positions]
  -- the corners are listed row by row there and column by column here
  rw [min_right_comm (t.easting _ _), max_right_comm (t.easting _ _),
    min_right_comm (t.northing _ _), max_right_comm (t.northing _ _)]

theorem corner_mem_ground (ht : g.transform = t.exact) (i j : Bool) :
    (⟨.finite (t.easting ((g.positions 0).bound i) ((g.positions 1).bound j)),
      .finite (t.northing ((g.positions 0).bound i) ((g.positions 1).bound j))⟩ : Point Exact) ∈
      g.ground := by
  have hcol := Interval.bound_mem (g.positions_le (show 0 < 2 by decide)) i
  have hrow := Interval.bound_mem (g.positions_le (show 1 < 2 by decide)) j
  exact ⟨_, hcol, _, hrow, by rw [ht, Affine.apply_exact]⟩

theorem isLeastAround_ground (ht : g.transform = t.exact) :
    (Envelope.planeBounds (.overCorners t.easting (g.positions 0) (g.positions 1))
      (.overCorners t.northing (g.positions 0) (g.positions 1))).IsLeastAround g.ground where
  holds := by
    rintro p ⟨col, hcol, row, hrow, rfl⟩
    obtain ⟨hwest, heast⟩ := t.easting_mem hcol hrow
    obtain ⟨hsouth, hnorth⟩ := t.northing_mem hcol hrow
    simp [ht, Affine.apply_exact, Bounds.holds, Envelope.planeBounds, hwest, heast, hsouth, hnorth]
  west := by
    obtain ⟨i, j, h⟩ := Interval.exists_min_overCorners t.easting (g.positions 0) (g.positions 1)
    exact ⟨_, corner_mem_ground ht i j, congrArg Exact.finite h⟩
  south := by
    obtain ⟨i, j, h⟩ := Interval.exists_min_overCorners t.northing (g.positions 0) (g.positions 1)
    exact ⟨_, corner_mem_ground ht i j, congrArg Exact.finite h⟩
  east := by
    obtain ⟨i, j, h⟩ := Interval.exists_max_overCorners t.easting (g.positions 0) (g.positions 1)
    exact ⟨_, corner_mem_ground ht i j, congrArg Exact.finite h⟩
  north := by
    obtain ⟨i, j, h⟩ := Interval.exists_max_overCorners t.northing (g.positions 0) (g.positions 1)
    exact ⟨_, corner_mem_ground ht i j, congrArg Exact.finite h⟩

end GridGeometry

namespace NorthUp

variable {x y : Interval ℚ} {w h : ℕ}

section Filling

variable (hx : x.min < x.max) (hy : y.min < y.max) (col row : ℤ) (hw : 0 < w) (hh : 0 < h)

/-- A box filled with `w × h` cells that are counted from `col` and `row` on. -/
def filling : NorthUp where
  west := x.min - col * x.cell w
  north := y.max + row * y.cell h
  cellWidth := x.cell w
  cellHeight := y.cell h
  cellWidth_pos := Interval.cell_pos hx hw
  cellHeight_pos := Interval.cell_pos hy hh

theorem columns_filling (n : ℕ) :
    (filling hx hy col row hw hh).columns col (col + n) = x.groundUp w ⟨0, n⟩ := by
  simp only [columns, filling, Interval.groundUp, Int.cast_add, Int.cast_natCast, Nat.cast_zero]
  congr 1 <;> ring

theorem rows_filling (n : ℕ) :
    (filling hx hy col row hw hh).rows row (row + n) = y.groundDown h ⟨0, n⟩ := by
  simp only [rows, filling, Interval.groundDown, Int.cast_add, Int.cast_natCast, Nat.cast_zero]
  congr 1 <;> ring

theorem ofBounds_eq_filling :
    Affine.ofBounds (Envelope.planeBounds x y) w h = (filling hx hy 0 0 hw hh).affine.exact := by
  rw [Affine.ofBounds_exact x y hw hh]
  simp [filling, affine]

end Filling

end NorthUp

theorem GridRange.cells_lastIndex {n : ℕ} (hn : n < 2 ^ 63) :
    ((lastIndex n).toInt - (0 : Int64).toInt + 1).toNat = n := by
  have hlast := toInt_lastIndex_add_one n
  rw [Int64.toInt_zero]
  omega

theorem Crs.map_eastingFirst_twice (crs : Option Crs) :
    (crs.map eastingFirst).map eastingFirst = crs.map eastingFirst := by
  rw [Option.map_map]
  rfl

theorem Envelope.eastingFirst_eq_plane {e : Envelope Exact} {x y : Interval ℚ}
    (he : e.bounds = planeBounds x y) :
    e.eastingFirst = .plane x y (e.crs.map Crs.eastingFirst) := by
  obtain ⟨hwest, hsouth, heast, hnorth⟩ := Bounds.mk.inj he
  rw [eastingFirst, hwest, hsouth, heast, hnorth]
  rfl

namespace GridGeometry

variable {g : GridGeometry Exact} {e : Envelope Exact} {x y : Interval ℚ} {w h : ℕ}

theorem low_add_cells {axis : ℕ} (ha : axis < 2) :
    (g.low axis).toInt + g.cells axis = (g.high axis).toInt + 1 := by
  have hle := g.low_le_high axis ha
  rw [cells]
  omega

section Filling

variable (hx : x.min < x.max) (hy : y.min < y.max) (hw : 0 < w) (hh : 0 < h)
include hx hy hw hh

/-- A grid covers a box as far as its cells go, counted from the west and from the north. -/
theorem envelope_of_filling (ht : g.transform =
      (NorthUp.filling hx hy (g.low 0).toInt (g.low 1).toInt hw hh).affine.exact) :
    g.envelope = .plane (x.groundUp w ⟨0, g.cells 0⟩) (y.groundDown h ⟨0, g.cells 1⟩)
      (g.crs.map Crs.eastingFirst) := by
  rw [NorthUp.envelope_eq ht, NorthUp.easting, NorthUp.northing, ← low_add_cells (by decide),
    ← low_add_cells (by decide), NorthUp.columns_filling, NorthUp.rows_filling]

theorem exists_ofEnvelope (he : e.bounds = Envelope.planeBounds x y) (hw' : w < 2 ^ 63)
    (hh' : h < 2 ^ 63) :
    ∃ g, ofEnvelope e w h = .ok g ∧ g.width = w ∧ g.height = h ∧ g.envelope = e.eastingFirst := by
  let g : GridGeometry Exact := ⟨.ofSize w h, .ofBounds e.bounds w h, e.crs.map Crs.eastingFirst,
    GridRange.isPlanar_ofSize hw hh⟩
  have hzero : (0 : Int64).toInt = 0 := Int64.toInt_zero
  have hcols : g.cells 0 = w := GridRange.cells_lastIndex hw'
  have hrows : g.cells 1 = h := GridRange.cells_lastIndex hh'
  have ht : g.transform =
      (NorthUp.filling hx hy (g.low 0).toInt (g.low 1).toInt hw hh).affine.exact := by
    rw [show (g.low 0).toInt = 0 from hzero, show (g.low 1).toInt = 0 from hzero,
      ← NorthUp.ofBounds_eq_filling, ← he]
  refine ⟨g, dif_pos g.planar, ?_, ?_, ?_⟩
  · rw [width_eq_cells (by rw [hcols, maxCells_eq]; omega), hcols]
  · rw [height_eq_cells (by rw [hrows, maxCells_eq]; omega), hrows]
  · have hcrs : g.crs.map Crs.eastingFirst = e.crs.map Crs.eastingFirst :=
      Crs.map_eastingFirst_twice e.crs
    rw [envelope_of_filling hx hy hw hh ht, hcols, hrows, Interval.groundUp_all x hw,
      Interval.groundDown_all y hh, Envelope.eastingFirst_eq_plane he, hcrs]

end Filling

/-- The envelope of a grid is the least box around the ground of its cells, for every rational map.
A grid of so many cells over a box, whichever axis its system puts first, has that many cells and
the box as its envelope. -/
theorem envelope_isLeastAround :
    (∀ (g : GridGeometry Exact) (t : Affine ℚ), g.transform = t.exact →
      g.envelope.dimension = 2 ∧ g.envelope.crs = g.crs.map Crs.eastingFirst ∧
        g.envelope.bounds.IsLeastAround g.ground) ∧
      ∀ (e : Envelope Exact) (x y : Interval ℚ) (w h : ℕ), e.bounds = Envelope.planeBounds x y →
        x.min < x.max → y.min < y.max → 0 < w → w < 2 ^ 63 → 0 < h → h < 2 ^ 63 →
          ∃ g, ofEnvelope e w h = .ok g ∧ g.width = w ∧ g.height = h ∧
            g.envelope = e.eastingFirst := by
  refine ⟨fun g t ht => ?_, fun e x y w h he hx hy hw hw' hh hh' =>
    exists_ofEnvelope hx hy hw hh he hw' hh'⟩
  have henvelope := envelope_eq_plane ht
  rw [bounds_ground henvelope, henvelope]
  exact ⟨rfl, rfl, isLeastAround_ground ht⟩

def turnedGrid : GridGeometry Exact where
  range := ⟨[-1, 2], [3, 4]⟩
  transform := Affine.exact ⟨1, 2, 3, -1 / 2, 1, 0⟩
  crs := none
  planar := by decide

def northingFirstBox : Envelope Exact :=
  .ofCorners (.finite 0, .finite 10) (.finite 5, .finite 30) (some (.inRegistryOrder .wgs84))

theorem envelope_isLeastAround_turned :
    turnedGrid.envelope.bounds.IsLeastAround turnedGrid.ground ∧
      northingFirstBox.bounds = Envelope.planeBounds ⟨10, 30⟩ ⟨0, 5⟩ ∧
      ∃ g, ofEnvelope northingFirstBox 4 5 = .ok g ∧
        g.envelope = northingFirstBox.eastingFirst := by
  obtain ⟨hleast, hover⟩ := envelope_isLeastAround
  have hb : northingFirstBox.bounds = Envelope.planeBounds ⟨10, 30⟩ ⟨0, 5⟩ := by decide +kernel
  obtain ⟨g, hg, -, -, henvelope⟩ := hover northingFirstBox ⟨10, 30⟩ ⟨0, 5⟩ 4 5 hb (by norm_num)
    (by norm_num) (by decide) (by decide) (by decide) (by decide)
  exact ⟨(hleast turnedGrid _ rfl).2.2, hb, g, hg, henvelope⟩

end GridGeometry

end GeoRaster
