import GeoRaster.Proofs.Ground
import GeoRaster.Proofs.Validation
import Mathlib.Tactic.FieldSimp

namespace GeoRaster

theorem RequestGrid.checkOffsets_ok {a b : Exact} (h : checkOffsets (some (a, b)) = .ok ()) :
    (∃ p : ℚ, a = .finite p) ∧ ∃ q : ℚ, b = .finite q := by
  simp only [checkOffsets] at h
  split at h
  · rename_i hab
    simp only [Bool.and_eq_true] at hab
    exact ⟨Exact.isFinite_iff.mp hab.1.1.1, Exact.isFinite_iff.mp hab.1.2⟩
  · exact absurd h (by simp)

namespace GridGeometry

section Plan

variable {α : Type} {range : GridRange} {transform : Affine α} {crs : Option Crs}
  {g : GridGeometry α}

theorem ofRange_ok (h : ofRange range transform crs = .ok g) :
    g.range = range ∧ g.transform = transform ∧ g.crs = crs := by
  rw [ofRange] at h
  split at h
  · obtain rfl := Except.ok.inj h
    exact ⟨rfl, rfl, rfl⟩
  · split at h <;> exact absurd h (by simp)

theorem plan_ok (h : plan range transform crs = .ok g) :
    g.range = range ∧ g.transform = transform ∧ g.crs = crs := by
  rw [plan] at h
  split at h
  · rename_i hg
    obtain rfl := Except.ok.inj h
    exact ofRange_ok hg
  · exact absurd h (by simp)

theorem width_pos (g : GridGeometry α) : 0 < g.width := by
  have hle := g.low_le_high 0 (by decide)
  rw [width, GridRange.width, GridRange.span, low_eq g 0 (by decide), high_eq g 0 (by decide)]
  simp only [cellsBetween]
  split
  · simp only [Option.getD_some]
    omega
  · decide

theorem height_pos (g : GridGeometry α) : 0 < g.height := by
  have hle := g.low_le_high 1 (by decide)
  rw [height, GridRange.height, GridRange.span, low_eq g 1 (by decide), high_eq g 1 (by decide)]
  simp only [cellsBetween]
  split
  · simp only [Option.getD_some]
    omega
  · decide

end Plan

variable {native g : GridGeometry Exact} {t : Affine ℚ} {x y : Interval ℚ} {crs : Option Crs}

theorem overRange_exact {r : GridRange} (h : overRange r (Envelope.planeBounds x y) crs = .ok g) :
    ∃ t : Affine ℚ, g.transform = t.exact ∧ t.shearX = 0 ∧ t.shearY = 0 ∧ g.crs = crs := by
  obtain ⟨hrange, htransform, hcrs⟩ := plan_ok h
  have hw : (r.width : ℚ) ≠ 0 := Nat.cast_ne_zero.mpr (hrange ▸ g.width_pos.ne')
  have hh : (r.height : ℚ) ≠ 0 := Nat.cast_ne_zero.mpr (hrange ▸ g.height_pos.ne')
  rw [htransform]
  refine ⟨⟨x.length / r.width, 0, x.min - (r.low.getD 0 0).toInt * (x.length / r.width), 0,
    -y.length / r.height, y.max - (r.low.getD 1 0).toInt * (-y.length / r.height)⟩, ?_, rfl, rfl,
    hcrs⟩
  simp [Affine.ofOrigin, Affine.exact, Envelope.planeBounds, Bounds.width, Bounds.height,
    Exact.finite_div _ hw, Exact.finite_div _ hh, Interval.length]

theorem overOffsets_exact {a b : ℚ} {origin : Option (Exact × Exact)}
    (ho : RequestGrid.checkOrigin origin = .ok ())
    (h : overOffsets (.finite a) (.finite b) origin (Envelope.planeBounds x y) crs = .ok g) :
    ∃ t : Affine ℚ, g.transform = t.exact ∧ t.shearX = 0 ∧ t.shearY = 0 ∧ g.crs = crs := by
  cases origin with
  | none =>
    obtain ⟨-, htransform, hcrs⟩ := plan_ok h
    rw [htransform]
    refine ⟨⟨|a|, 0, x.min, 0, -|b|, y.max⟩, ?_, rfl, rfl, hcrs⟩
    simp [Affine.ofOrigin, Affine.exact, Envelope.planeBounds]
  | some origin =>
    obtain ⟨u, v⟩ := origin
    have hf : Scalar.isFinite u = true ∧ Scalar.isFinite v = true := by
      simpa [RequestGrid.checkOrigin] using ho
    obtain ⟨u, rfl⟩ := Exact.isFinite_iff.mp hf.1
    obtain ⟨v, rfl⟩ := Exact.isFinite_iff.mp hf.2
    obtain ⟨-, htransform, hcrs⟩ := plan_ok h
    rw [htransform]
    refine ⟨⟨a, 0, u, 0, b, v⟩, ?_, rfl, rfl, hcrs⟩
    simp [Affine.ofOrigin, Affine.exact]

theorem nativeCells_ok {build : Build} {b : Bounds Exact}
    (h : native.nativeCells build b crs = .ok g) :
    g.transform = native.transform ∧ g.crs = crs := by
  rw [nativeCells] at h
  split at h
  · exact absurd h (by simp)
  · obtain ⟨_, -, h⟩ := bind_eq_ok.mp h
    obtain ⟨_, -, h⟩ := bind_eq_ok.mp h
    exact (plan_ok h).2

theorem identity_exact : (Affine.identity : Affine Exact) = Affine.exact ⟨1, 0, 0, 0, 1, 0⟩ := by
  simp [Affine.identity, Affine.exact]

/-- The map of a planned grid is rational, and without shear unless it is the native one. -/
theorem planned_exact {request : Option (RequestGrid Exact)} {target : Envelope Exact}
    (ht : native.transform = t.exact) (hb : target.bounds = Envelope.planeBounds x y)
    {build : Build} (h : planned build request native target = .ok g) :
    ∃ u : Affine ℚ, g.transform = u.exact ∧ (u = t ∨ u.shearX = 0 ∧ u.shearY = 0) ∧
      g.crs = target.crs.map Crs.eastingFirst := by
  cases request with
  | none =>
    obtain ⟨htransform, hcrs⟩ := nativeCells_ok h
    exact ⟨t, htransform.trans ht, .inl rfl, hcrs⟩
  | some grid =>
    obtain ⟨range, origin, offsets⟩ := grid
    rw [planned, hb] at h
    obtain ⟨_, hcheck, h⟩ := bind_eq_ok.mp h
    obtain ⟨_, -, hcheck⟩ := bind_eq_ok.mp hcheck
    obtain ⟨_, hoffsets, horigin⟩ := bind_eq_ok.mp hcheck
    cases range with
    | some r =>
      obtain ⟨u, hu, hx, hy, hcrs⟩ := overRange_exact h
      exact ⟨u, hu, .inr ⟨hx, hy⟩, hcrs⟩
    | none =>
      cases offsets with
      | some o =>
        obtain ⟨a, b⟩ := o
        obtain ⟨⟨a, rfl⟩, b, rfl⟩ := RequestGrid.checkOffsets_ok hoffsets
        obtain ⟨u, hu, hx, hy, hcrs⟩ := overOffsets_exact horigin h
        exact ⟨u, hu, .inr ⟨hx, hy⟩, hcrs⟩
      | none =>
        dsimp only at h
        split at h
        · obtain ⟨-, htransform, hcrs⟩ := plan_ok h
          exact ⟨_, htransform.trans identity_exact, .inr ⟨rfl, rfl⟩, hcrs⟩
        · obtain ⟨htransform, hcrs⟩ := nativeCells_ok h
          exact ⟨t, htransform.trans ht, .inl rfl, hcrs⟩

end GridGeometry

namespace NorthUp

variable {n : NorthUp} {x y : Interval ℚ}

theorem inverse?_affine (n : NorthUp) :
    n.affine.exact.inverse? = some (Affine.exact
      ⟨1 / n.cellWidth, 0, -n.west / n.cellWidth, 0, -1 / n.cellHeight,
        n.north / n.cellHeight⟩) := by
  have hw := n.cellWidth_pos.ne'
  have hh := n.cellHeight_pos.ne'
  have hd : -(n.cellWidth * n.cellHeight) ≠ 0 := neg_ne_zero.mpr (mul_ne_zero hw hh)
  have hx : -n.cellHeight / -(n.cellWidth * n.cellHeight) = n.cellWidth⁻¹ := by
    field_simp
  have hwest : n.cellHeight * n.west / -(n.cellWidth * n.cellHeight) = -n.west / n.cellWidth := by
    field_simp
  have hy : n.cellWidth / -(n.cellWidth * n.cellHeight) = -1 / n.cellHeight := by
    field_simp
  have hnorth : -(n.north * n.cellWidth) / -(n.cellWidth * n.cellHeight) =
      n.north / n.cellHeight := by
    field_simp
  simp [Affine.inverse?, affine, Affine.exact, Exact.finite_div _ hd, hw, hh, hx, hwest, hy, hnorth]

theorem hull_inverse (hx : x.min ≤ x.max) (hy : y.min ≤ y.max) {inverse : Affine Exact}
    (hi : n.affine.exact.inverse? = some inverse) :
    Bounds.hull [inverse.apply (.finite x.min) (.finite y.min),
      inverse.apply (.finite x.min) (.finite y.max), inverse.apply (.finite x.max) (.finite y.min),
      inverse.apply (.finite x.max) (.finite y.max)] =
      ⟨.finite ((x.min - n.west) / n.cellWidth), .finite ((n.north - y.max) / n.cellHeight),
        .finite ((x.max - n.west) / n.cellWidth), .finite ((n.north - y.min) / n.cellHeight)⟩ := by
  obtain rfl := Option.some.inj (n.inverse?_affine.symm.trans hi)
  have hx' : (x.min - n.west) / n.cellWidth ≤ (x.max - n.west) / n.cellWidth :=
    div_le_div_of_nonneg_right (sub_le_sub_right hx _) n.cellWidth_pos.le
  have hy' : (n.north - y.max) / n.cellHeight ≤ (n.north - y.min) / n.cellHeight :=
    div_le_div_of_nonneg_right (sub_le_sub_left hy _) n.cellHeight_pos.le
  have hcol : ∀ a b : ℚ, 1 / n.cellWidth * a + 0 * b + -n.west / n.cellWidth =
      (a - n.west) / n.cellWidth := by
    intro a b
    ring
  have hrow : ∀ a b : ℚ, 0 * a + -1 / n.cellHeight * b + n.north / n.cellHeight =
      (n.north - b) / n.cellHeight := by
    intro a b
    ring
  simp only [Affine.apply_exact, Bounds.hull_four, Affine.easting, Affine.northing, hcol, hrow]
  simp [hx', hy']

end NorthUp

namespace GridGeometry

variable {native g : GridGeometry Exact} {n : NorthUp} {x y : Interval ℚ} {crs : Option Crs}

theorem snap_exact : (snap : Exact) = .finite CellSpan.margin :=
  CellSpan.snap_exact

theorem toInt_max (a b : Int64) : (max a b).toInt = max a.toInt b.toInt := by
  show (if a ≤ b then b else a).toInt = _
  split
  · rename_i h
    exact (max_eq_right (Int64.le_iff_toInt_le.mp h)).symm
  · rename_i h
    have := mt Int64.le_iff_toInt_le.mpr h
    omega

theorem toInt_firstCell {q : ℚ} (h : 0 ≤ q) (hq : q ≤ 2 ^ 32) :
    (firstCell (.finite q : Exact)).toInt = ⌊q + CellSpan.margin⌋₊ := by
  have hm := CellSpan.margin_pos
  have hm' := CellSpan.margin_lt_one
  have hn : 0 ≤ ⌊q + CellSpan.margin⌋ := Int.floor_nonneg.mpr (by linarith)
  have hle : ⌊q + CellSpan.margin⌋ < 2 ^ 32 + 1 := by
    apply Int.floor_lt.mpr
    push_cast
    linarith
  rw [firstCell, snap_exact, Exact.finite_add, Exact.floor_finite,
    Exact.toInt_toInt64_of_mem (by omega) (by omega), Int.natCast_floor_eq_floor (by linarith)]

/-- The last cell in a build that wraps: one less than the least index is the greatest one. -/
def lastReached {α : Type} [Scalar α] (first : Int64) (upper : α) : Int64 :=
  max (cellBehind upper - 1) first

theorem toInt_lastReached {q : ℚ} (first : Int64) (h : 0 ≤ q) (hq : q ≤ 2 ^ 32) :
    (lastReached first (.finite q : Exact)).toInt =
      max ((⌈q - CellSpan.margin⌉₊ : ℤ) - 1) first.toInt := by
  have hm := CellSpan.margin_pos
  have hm' := CellSpan.margin_lt_one
  have hn : -1 < ⌈q - CellSpan.margin⌉ := by
    apply Int.lt_ceil.mpr
    push_cast
    linarith
  have hle : ⌈q - CellSpan.margin⌉ ≤ 2 ^ 32 := by
    apply Int.ceil_le.mpr
    push_cast
    linarith
  have hnat : (⌈q - CellSpan.margin⌉₊ : ℤ) = ⌈q - CellSpan.margin⌉ := by
    rw [← Int.ceil_toNat, Int.toNat_of_nonneg (by omega)]
  have hword : (Scalar.toInt64 (.finite ⌈q - CellSpan.margin⌉ : Exact)).toInt =
      ⌈q - CellSpan.margin⌉ := Exact.toInt_toInt64_of_mem (by omega) (by omega)
  rw [lastReached, cellBehind, snap_exact, Exact.finite_sub, Exact.ceil_finite, hnat, toInt_max,
    GridRange.toInt_sub_one (by omega), hword]

theorem reached_of_planned {w : ℕ} {a : Interval ℚ} {first last : Int64} (hl : 0 ≤ a.min)
    (hle : a.min ≤ a.max) (hu : a.max ≤ w) (hw : w ≤ 2 ^ 32)
    (hfirst : first = firstCell (.finite a.min : Exact))
    (hlast : last = lastReached first (.finite a.max : Exact)) (hin : last.toInt < w) :
    (first.toInt.toNat : ℤ) = first.toInt ∧
      CellSpan.reached w a = ⟨first.toInt.toNat, (last.toInt + 1).toNat⟩ := by
  have hq : (w : ℚ) ≤ 2 ^ 32 := by exact_mod_cast hw
  have hf := toInt_firstCell hl (hle.trans (hu.trans hq))
  have hs := toInt_lastReached first (hl.trans hle) (hu.trans hq)
  rw [← hfirst] at hf
  rw [← hlast] at hs
  simp only [CellSpan.reached, CellSpan.mk.injEq]
  omega

theorem nativeCells_northUp (ht : native.transform = n.affine.exact) (hx : x.min ≤ x.max)
    (hy : y.min ≤ y.max)
    (h : native.nativeCells .wrapping (Envelope.planeBounds x y) crs = .ok g) :
    g.low 0 = firstCell (.finite ((x.min - n.west) / n.cellWidth) : Exact) ∧
      g.low 1 = firstCell (.finite ((n.north - y.max) / n.cellHeight) : Exact) ∧
      g.high 0 = lastReached (g.low 0) (.finite ((x.max - n.west) / n.cellWidth) : Exact) ∧
      g.high 1 = lastReached (g.low 1) (.finite ((n.north - y.min) / n.cellHeight) : Exact) := by
  have hi := n.inverse?_affine
  have hhull := NorthUp.hull_inverse hx hy hi
  rw [nativeCells, ht, hi] at h
  simp only [Envelope.planeBounds, hhull] at h
  obtain ⟨hrange, -, -⟩ := plan_ok h
  simp only [low, high, hrange]
  exact ⟨rfl, rfl, rfl, rfl⟩

end GridGeometry

namespace CoverageDescriptor

variable {d : CoverageDescriptor Exact} {n : NorthUp} {x y cx cy : Interval ℚ} {crs : Option Crs}
  {box : Envelope Exact} {grid : Option (RequestGrid Exact)} {g : GridGeometry Exact}

theorem gridFor_clipped (hn : d.nativeEnvelope = .plane x y crs) (hx : x.min < x.max)
    (hy : y.min < y.max) (hb : box.Shows x y cx cy) (h : d.gridFor box grid = .ok g) :
    GridGeometry.planned .wrapping grid d.gridGeometry (.plane cx cy box.crs) = .ok g := by
  rw [gridFor, hn, hb.meet?_comm hx hy crs] at h
  simp only [Option.getD_some] at h
  split at h
  · rename_i g' hg
    obtain rfl := Except.ok.inj h
    exact hg
  · exact absurd h (by simp)

theorem LiesOn.isValid (hd : d.LiesOn n) : d.nativeEnvelope.isValid = true := by
  have hx := (n.easting_lt d.gridGeometry).le
  have hy := (n.northing_lt d.gridGeometry).le
  rw [hd.nativeEnvelope_eq]
  simp [Envelope.isValid, Envelope.plane, Interval.exact, hx, hy]

theorem LiesOn.crs_eq (hd : d.LiesOn n) :
    d.nativeEnvelope.crs = some d.nativeCrs.eastingFirst := by
  rw [hd.nativeEnvelope_eq]
  rfl

theorem IsFull.band_lt [Atlas Exact] {σ : Type} {r : Raster Exact σ}
    {request : CoverageRequest Exact} {q : Query Exact} (hr : d.IsFull r)
    (ha : d.Accepts request q) : ∀ i ∈ q.bands, i < r.bands.length := by
  intro i hi
  rw [hr.length_eq]
  exact ha.band_lt i hi

end CoverageDescriptor

end GeoRaster
