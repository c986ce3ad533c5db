import GeoRaster.Coverage.Example
import GeoRaster.Proofs.Single
import GeoRaster.Proofs.Stages

namespace GeoRaster

/-- The cell among `size` that a distance in cells falls into; the last one from its far end on. -/
def CellSpan.cellAt (size : ℕ) (t : ℚ) : ℕ :=
  min ⌊t⌋₊ (size - 1)

def CellSpan.nearest (s : CellSpan) (i : ℕ) : ℕ :=
  max s.first (min i (s.stop - 1))

def CellSpan.Has (s : CellSpan) (i : ℕ) : Prop :=
  s.first ≤ i ∧ i < s.stop

instance (s : CellSpan) (i : ℕ) : Decidable (s.Has i) :=
  inferInstanceAs (Decidable (_ ∧ _))

namespace CellSpan

variable {s : CellSpan} {size i : ℕ}

theorem cellAt_lt (h : 0 < size) (t : ℚ) : cellAt size t < size := by
  rw [cellAt]
  omega

theorem nearest_of_has (h : s.Has i) : s.nearest i = i := by
  obtain ⟨h₁, h₂⟩ := h
  rw [nearest]
  omega

theorem has_nearest (h : s.Fits size) (i : ℕ) : s.Has (s.nearest i) := by
  have := h.first_lt
  rw [nearest, Has]
  omega

/-- Counted from its first cell, a span has the nearest of its cells where the whole has the cell
itself. -/
theorem first_add_cellAt (h : s.Fits size) (t : ℚ) :
    s.first + cellAt s.length (t - s.first) = s.nearest (cellAt size t) := by
  have h₁ := h.first_lt
  have h₂ := h.stop_le
  have hf : ⌊t - s.first⌋₊ = ⌊t⌋₊ - s.first := Nat.floor_sub_natCast t s.first
  rw [cellAt, cellAt, nearest, hf, length]
  omega

theorem cellAt_half (h : i < size) : cellAt size (i + 1 / 2) = i := by
  have hf : ⌊(i : ℚ) + 1 / 2⌋₊ = i := by
    rw [Nat.floor_eq_iff (by positivity)]
    constructor <;> linarith
  rw [cellAt, hf]
  omega

end CellSpan

namespace Interval

variable {e : Interval ℚ} {n i : ℕ} {s : CellSpan}

def centreUp (e : Interval ℚ) (n i : ℕ) : ℚ :=
  e.min + (i + 1 / 2) * e.cell n

def centreDown (e : Interval ℚ) (n i : ℕ) : ℚ :=
  e.max - (i + 1 / 2) * e.cell n

def cellUp (e : Interval ℚ) (n : ℕ) (p : ℚ) : ℕ :=
  CellSpan.cellAt n ((p - e.min) / e.cell n)

def cellDown (e : Interval ℚ) (n : ℕ) (p : ℚ) : ℕ :=
  CellSpan.cellAt n ((e.max - p) / e.cell n)

theorem centreUp_sub_div (he : e.min < e.max) (hn : 0 < n) (i : ℕ) :
    (e.centreUp n i - e.min) / e.cell n = i + 1 / 2 := by
  rw [centreUp, add_sub_cancel_left, mul_div_cancel_right₀ _ (cell_pos he hn).ne']

theorem sub_centreDown_div (he : e.min < e.max) (hn : 0 < n) (i : ℕ) :
    (e.max - e.centreDown n i) / e.cell n = i + 1 / 2 := by
  rw [centreDown, sub_sub_cancel, mul_div_cancel_right₀ _ (cell_pos he hn).ne']

theorem cellUp_centre (he : e.min < e.max) (hi : i < n) : e.cellUp n (e.centreUp n i) = i := by
  rw [cellUp, centreUp_sub_div he (Nat.zero_lt_of_lt hi)]
  exact CellSpan.cellAt_half hi

theorem cellDown_centre (he : e.min < e.max) (hi : i < n) :
    e.cellDown n (e.centreDown n i) = i := by
  rw [cellDown, sub_centreDown_div he (Nat.zero_lt_of_lt hi)]
  exact CellSpan.cellAt_half hi

theorem cellUp_groundUp (he : e.min < e.max) (hs : s.Fits n) (p : ℚ) :
    s.first + (e.groundUp n s).cellUp s.length p = s.nearest (e.cellUp n p) := by
  have hn : 0 < n := (Nat.zero_le _).trans_lt (hs.first_lt.trans_le hs.stop_le)
  have hc := (cell_pos he hn).ne'
  have ht : (p - (e.groundUp n s).min) / e.cell n = (p - e.min) / e.cell n - s.first := by
    rw [groundUp, div_eq_iff hc, sub_mul, div_mul_cancel₀ _ hc]
    ring
  rw [cellUp, cell_groundUp e n hs.first_lt, ht]
  exact CellSpan.first_add_cellAt hs _

theorem cellDown_groundDown (he : e.min < e.max) (hs : s.Fits n) (p : ℚ) :
    s.first + (e.groundDown n s).cellDown s.length p = s.nearest (e.cellDown n p) := by
  have hn : 0 < n := (Nat.zero_le _).trans_lt (hs.first_lt.trans_le hs.stop_le)
  have hc := (cell_pos he hn).ne'
  have ht : ((e.groundDown n s).max - p) / e.cell n = (e.max - p) / e.cell n - s.first := by
    rw [groundDown, div_eq_iff hc, sub_mul, div_mul_cancel₀ _ hc]
    ring
  rw [cellDown, cell_groundDown e n hs.first_lt, ht]
  exact CellSpan.first_add_cellAt hs _

end Interval

namespace Exact

theorem roundRat_clamp (t : ℚ) (m : ℕ) :
    roundRat (min (max (t - 1 / 2) 0) m) = (min ⌊t⌋₊ m : ℕ) := by
  have hnonneg : 0 ≤ min (max (t - 1 / 2) 0) (m : ℚ) :=
    le_min (le_max_right _ _) (Nat.cast_nonneg m)
  have hfloor : ∀ q : ℚ, q.floor = ⌊q⌋ := fun _ => rfl
  rw [roundRat, if_pos hnonneg, hfloor, Int.floor_eq_iff]
  push_cast
  rcases le_or_gt t (1 / 2) with ht | ht
  · have hz : ⌊t⌋₊ = 0 := by
      rw [Nat.floor_eq_zero]
      linarith
    have hm : (0 : ℚ) ≤ m := Nat.cast_nonneg m
    rw [max_eq_right (by linarith), min_eq_left hm, hz, Nat.cast_zero, min_eq_left hm]
    norm_num
  · have hl := Nat.floor_le (show 0 ≤ t by linarith)
    have hu := Nat.lt_floor_add_one t
    rw [max_eq_left (by linarith)]
    rcases le_or_gt m ⌊t⌋₊ with hm | hm
    · have hq : (m : ℚ) ≤ ⌊t⌋₊ := Nat.cast_le.mpr hm
      rw [min_eq_right hq]
      rcases min_cases (t - 1 / 2) (m : ℚ) with ⟨h, h'⟩ | ⟨h, h'⟩ <;> rw [h] <;>
        constructor <;> linarith
    · have hq : ((⌊t⌋₊ + 1 : ℕ) : ℚ) ≤ m := Nat.cast_le.mpr hm
      push_cast at hq
      rw [min_eq_left (by linarith), min_eq_left (by linarith)]
      constructor <;> linarith

end Exact

namespace SampleGrid

variable {σ : Type} [Scalar σ]

theorem clampIndex_eq_min (size : ℕ) (i : Int64) :
    clampIndex size i = min i.toInt.toNat (size - 1) := by
  have hneg : i < 0 ↔ i.toInt < 0 := Int64.lt_iff_toInt_lt
  rw [clampIndex]
  split
  · have := hneg.mp ‹_›
    omega
  · rfl

theorem clampIndex_eq {size k : ℕ} {i : Int64} (hi : i.toInt = k) (hk : k < size) :
    clampIndex size i = k := by
  rw [clampIndex_eq_min, hi]
  omega

/-- The index that the kernel takes for a position among cell centres. -/
theorem clampIndex_round {size : ℕ} (h : 0 < size) (hlt : size < 2 ^ 63) (t : ℚ) :
    clampIndex size (Scalar.toInt64 (Scalar.round (Scalar.clamp 0.0 (Scalar.ofNat (size - 1))
      (.finite (t - 1 / 2) : Exact)))) = CellSpan.cellAt size t := by
  have hle : min ⌊t⌋₊ (size - 1) < 2 ^ 63 := by omega
  apply clampIndex_eq
  · rw [Exact.zero_eq, Exact.ofNat_eq, Exact.clamp_finite, Exact.round_finite,
      Exact.roundRat_clamp, Exact.toInt_toInt64_of_mem (by omega) (by omega)]
    rfl
  · exact CellSpan.cellAt_lt h t

theorem sample_nearest [Narrowing Exact σ] (g : SampleGrid σ) (hw : 0 < g.width)
    (hwidth : g.width < 2 ^ 63) (hh : 0 < g.height) (hheight : g.height < 2 ^ 63) (s t : ℚ) :
    g.sample .nearest (.finite (s - 1 / 2) : Exact) (.finite (t - 1 / 2)) =
      (g.data[CellSpan.cellAt g.height t * g.width + CellSpan.cellAt g.width s]?).getD
        Scalar.nan := by
  show g.tap _ _ = _
  rw [tap, clampIndex_round hw hwidth, clampIndex_round hh hheight]

end SampleGrid

namespace Band

variable {b : Band Float32}

/-- Two samples of a band are equal, or both count as missing. -/
def Agree (b : Band Float32) (u v : Float32) : Prop :=
  u = v ∨ b.isMissing u = true ∧ b.isMissing v = true

theorem Agree.eq_of_present {b : Band Float32} {u v : Float32} (h : b.Agree u v)
    (hv : b.isMissing v = false) : u = v := by
  obtain h | ⟨-, hm⟩ := h
  · exact h
  · rw [hv] at hm
    exact absurd hm Bool.false_ne_true

def maskedSample (b : Band Float32) (v : Float32) : Float32 :=
  match b.noData with
  | some nd => if v == nd then Scalar.nan else v
  | none => v

theorem getElem?_masked (b : Band Float32) (i : ℕ) :
    b.masked[i]? = b.data[i]?.map b.maskedSample := by
  obtain ⟨name, data, noData⟩ := b
  cases noData with
  | none =>
    show data[i]? = data[i]?.map fun v => v
    rw [Option.map_id']
  | some nd => exact Array.getElem?_map

theorem isMissing_fill (b : Band Float32) : b.isMissing b.fill = true := by
  cases h : b.noData with
  | none => simp [isMissing, fill, h, Single.isNaN_nan]
  | some nd =>
    by_cases hnd : Scalar.isNaN nd = true
    · simp [isMissing, fill, h, hnd]
    · have := Single.beq_self nd (Bool.eq_false_iff.mpr hnd)
      simp [isMissing, fill, h, this]

theorem isNaN_maskedSample (b : Band Float32) (v : Float32) :
    Scalar.isNaN (b.maskedSample v) = b.isMissing v := by
  cases h : b.noData with
  | none => simp [maskedSample, isMissing, h]
  | some nd =>
    by_cases hv : (v == nd) = true
    · simp [maskedSample, isMissing, h, hv, Single.beq_comm nd v, Single.isNaN_nan]
    · simp [maskedSample, isMissing, h, hv, Single.beq_comm nd v]

theorem maskedSample_of_present {v : Float32} (hv : b.isMissing v = false) :
    b.maskedSample v = v := by
  cases h : b.noData with
  | none => simp only [maskedSample, h]
  | some nd =>
    have hne : ¬ (v == nd) = true := by
      rw [Single.beq_comm]
      simp [isMissing, h] at hv
      simp [hv.2]
    simp only [maskedSample, h, if_neg hne]

theorem agree_fill (b : Band Float32) (v : Float32) :
    b.Agree (if Scalar.isNaN (b.maskedSample v) then b.fill else b.maskedSample v) v := by
  rw [isNaN_maskedSample]
  split
  · rename_i hm
    exact .inr ⟨isMissing_fill b, hm⟩
  · rename_i hm
    exact .inl (maskedSample_of_present (Bool.eq_false_iff.mpr hm))

end Band

theorem Pattern.getElem?_ofFn {σ : Type} {width height col row : ℕ} (f : ℕ → ℕ → σ)
    (hcol : col < width) (hrow : row < height) :
    (ofFn width height f)[row * width + col]? = some (f col row) := by
  have hlt := cellIndex_lt hcol hrow
  have hmod : (row * width + col) % width = col := by
    rw [Nat.mul_add_mod_self_right, Nat.mod_eq_of_lt hcol]
  have hdiv : (row * width + col) / width = row := by
    rw [Nat.mul_comm, Nat.mul_add_div (Nat.zero_lt_of_lt hcol), Nat.div_eq_of_lt hcol, add_zero]
  rw [ofFn, Array.getElem?_ofFn, dif_pos hlt, hmod, hdiv]

theorem Band.getElem?_resample {α σ : Type} [Scalar α] [Scalar σ] [Narrowing α σ] (b : Band σ)
    (sourceWidth sourceHeight : ℕ) {width height col row : ℕ} (method : Interpolation)
    (locate : ℕ → ℕ → Option (Point α)) (hcol : col < width) (hrow : row < height) :
    (b.resample sourceWidth sourceHeight width height method locate).data[row * width + col]? =
      some ((⟨b.masked, sourceWidth, sourceHeight⟩ : SampleGrid σ).cell method b.fill
        (locate col row)) :=
  Pattern.getElem?_ofFn
    (fun col row => SampleGrid.cell ⟨b.masked, sourceWidth, sourceHeight⟩ method b.fill
      (locate col row)) hcol hrow

namespace Raster

section Place

variable {α σ : Type} [Scalar α] {r : Raster α σ}

def centreOf (r : Raster α σ) (col row : ℕ) : Point α :=
  cellCentre r.envelope.bounds r.resolutionX r.resolutionY col row

def columnOf (r : Raster α σ) (p : Point α) : ℕ :=
  min (Scalar.toCount (Scalar.floor ((p.x - r.envelope.bounds.minX) / r.resolutionX))) (r.width - 1)

def rowOf (r : Raster α σ) (p : Point α) : ℕ :=
  min (Scalar.toCount (Scalar.floor ((r.envelope.bounds.maxY - p.y) / r.resolutionY)))
    (r.height - 1)

theorem at?_eq (r : Raster α σ) (k : ℕ) (p : Point α) :
    r.at? k p = if r.envelope.bounds.holds p then r.get? k (r.columnOf p) (r.rowOf p) else none :=
  rfl

end Place

/-- A cell of a raster holds what a cell of another one does. -/
def Repeats (a : Raster Exact Float32) (k col row : ℕ) (r : Raster Exact Float32) (i c j : ℕ) :
    Prop :=
  ∃ b u v, r.bands[i]? = some b ∧ a.get? k col row = some u ∧ r.get? i c j = some v ∧ b.Agree u v

theorem Spans.positionOf_eq {σ : Type} {r : Raster Exact σ} {x y ex ey : Interval ℚ}
    (h : r.Spans x y) {extent : Envelope Exact} {width height : ℕ}
    (he : extent.bounds = Envelope.planeBounds ex ey) (hw : 0 < width) (hh : 0 < height)
    (col row : ℕ) :
    r.positionOf extent width height col row =
      ⟨.finite ((ex.centreUp width col - x.min) / x.cell r.width - 1 / 2),
        .finite ((y.max - ey.centreDown height row) / y.cell r.height - 1 / 2)⟩ := by
  have hx := (Interval.cell_pos h.x_lt h.width_pos).ne'
  have hy := (Interval.cell_pos h.y_lt h.height_pos).ne'
  have hw' : (width : ℚ) ≠ 0 := Nat.cast_ne_zero.mpr hw.ne'
  have hh' : (height : ℚ) ≠ 0 := Nat.cast_ne_zero.mpr hh.ne'
  rw [positionOf, positionIn, cellCentre, h.bounds_eq, h.resolutionX_eq,
    h.resolutionY_eq, he]
  simp only [Envelope.planeBounds, Bounds.width, Bounds.height, Exact.finite_sub, Exact.ofNat_eq,
    Exact.half_eq, Exact.finite_add, Exact.finite_mul, Exact.finite_div _ hw',
    Exact.finite_div _ hh', Exact.finite_div _ hx, Exact.finite_div _ hy]
  rfl

namespace LiesOver

variable {σ : Type} {r : Raster Exact σ} {x y : Interval ℚ} (h : r.LiesOver x y)
include h

theorem centreOf_eq (col row : ℕ) :
    r.centreOf col row =
      ⟨.finite (x.centreUp r.width col), .finite (y.centreDown r.height row)⟩ := by
  rw [centreOf, cellCentre, h.spans.bounds_eq, h.spans.resolutionX_eq, h.spans.resolutionY_eq]
  simp [Envelope.planeBounds, Interval.centreUp, Interval.centreDown]

theorem columnOf_eq (p : ℚ) (q : Exact) : r.columnOf ⟨.finite p, q⟩ = x.cellUp r.width p := by
  have hc := (Interval.cell_pos h.x_lt h.width_pos).ne'
  have hlt := h.width_lt
  rw [columnOf, h.spans.bounds_eq, h.spans.resolutionX_eq, Interval.cellUp, CellSpan.cellAt]
  simp only [Envelope.planeBounds, Exact.finite_sub, Exact.finite_div _ hc, Exact.toCount_floor]
  omega

theorem rowOf_eq (p : Exact) (q : ℚ) : r.rowOf ⟨p, .finite q⟩ = y.cellDown r.height q := by
  have hc := (Interval.cell_pos h.y_lt h.height_pos).ne'
  have hlt := h.height_lt
  rw [rowOf, h.spans.bounds_eq, h.spans.resolutionY_eq, Interval.cellDown, CellSpan.cellAt]
  simp only [Envelope.planeBounds, Exact.finite_sub, Exact.finite_div _ hc, Exact.toCount_floor]
  omega

end LiesOver

section Scaled

variable {r : Raster Exact Float32} {x y ex ey : Interval ℚ} {extent : Envelope Exact}
  {width height k col row : ℕ}

theorem LiesOver.scaled_repeats [Narrowing Exact Float32] (h : r.LiesOver x y)
    (he : extent.bounds = Envelope.planeBounds ex ey) (hk : k < r.bands.length)
    (hcol : col < width) (hrow : row < height) :
    (r.scaled extent width height .nearest).Repeats k col row r k
      (x.cellUp r.width (ex.centreUp width col))
      (y.cellDown r.height (ey.centreDown height row)) := by
  obtain ⟨c, hc⟩ : ∃ c, c = x.cellUp r.width (ex.centreUp width col) := ⟨_, rfl⟩
  obtain ⟨j, hj⟩ : ∃ j, j = y.cellDown r.height (ey.centreDown height row) := ⟨_, rfl⟩
  have hclt : c < r.width := hc ▸ CellSpan.cellAt_lt h.width_pos _
  have hjlt : j < r.height := hj ▸ CellSpan.cellAt_lt h.height_pos _
  obtain ⟨v, hv⟩ := exists_get? h.size_eq hk hclt hjlt
  have hdata : r.bands[k].data[j * r.width + c]? = some v := by
    rw [get?, if_neg (by omega), List.getElem?_eq_getElem hk] at hv
    exact hv
  have hsample : (⟨r.bands[k].masked, r.width, r.height⟩ : SampleGrid Float32).sample .nearest
      (r.positionOf extent width height col row).x (r.positionOf extent width height col row).y =
      r.bands[k].maskedSample v := by
    rw [h.spans.positionOf_eq he (Nat.zero_lt_of_lt hcol) (Nat.zero_lt_of_lt hrow),
      SampleGrid.sample_nearest _ h.width_pos h.width_lt h.height_pos h.height_lt]
    show (r.bands[k].masked[y.cellDown r.height (ey.centreDown height row) * r.width +
      x.cellUp r.width (ex.centreUp width col)]?).getD _ = _
    rw [← hc, ← hj, Band.getElem?_masked, hdata]
    rfl
  rw [← hc, ← hj]
  refine ⟨r.bands[k], _, v, List.getElem?_eq_getElem hk, ?_, hv, Band.agree_fill _ v⟩
  rw [get?, if_neg]
  · simp only [scaled, List.getElem?_map, List.getElem?_eq_getElem hk]
    refine (r.bands[k].getElem?_resample _ _ _ _ hcol hrow).trans ?_
    simp only [SampleGrid.cell, hsample]
  · simp only [scaled]
    omega

end Scaled

end Raster

end GeoRaster
