import GeoRaster.Proofs.Answer
import GeoRaster.Proofs.KernelTaps

namespace GeoRaster

section Cells

variable {α σ : Type} [Scalar α] [Scalar σ] [Narrowing α σ]

theorem SampleGrid.cell_filled_or (g : SampleGrid σ) (method : Interpolation)
    (position : Option (Point α)) :
    (∀ fill, g.cell method fill position = fill) ∨
      ∃ v, Scalar.isNaN v = false ∧ ∀ fill, g.cell method fill position = v := by
  cases position with
  | none => exact .inl fun _ => rfl
  | some p =>
    by_cases hv : Scalar.isNaN (g.sample method p.x p.y) = true
    · exact .inl fun _ => if_pos hv
    · exact .inr ⟨_, Bool.eq_false_iff.mpr hv, fun _ => if_neg hv⟩

variable [Narrowing α Float32] (g : SampleGrid Float32)

theorem SampleGrid.sample_bilinear_of_missing {x y : α} {i j : Int64}
    (hi : i = base g.width x ∨ i = base g.width x + 1)
    (hj : j = base g.height y ∨ j = base g.height y + 1)
    (h : Scalar.isNaN (g.tap i j) = true) : g.sample .bilinear x y = Scalar.nan := by
  rw [g.sample_bilinear_eq x y rfl rfl rfl rfl]
  apply if_pos
  obtain rfl | rfl := hi <;> obtain rfl | rfl := hj <;> simp [h]

end Cells

namespace Band

/-- The band with another value in place of its marker and of the samples equal to it. -/
def remarked (b : Band Float32) (old new : Float32) : Band Float32 where
  name := b.name
  data := b.data.map fun v => if v == old then new else v
  noData := some new

def Lacks (b : Band Float32) (width col row : ℕ) : Prop :=
  ∃ v, b.data[row * width + col]? = some v ∧ b.isMissing v = true

section Definition

variable {α : Type} [Scalar α] [Narrowing α Float32]

/-- The marker of a band comes into the resampled band as what cells are filled with, and in no
other way. -/
structure HidesMarker (b : Band Float32) (nd : Float32) (sourceWidth sourceHeight width height : ℕ)
    (locate : ℕ → ℕ → Option (Point α)) : Prop where
  /-- With another marker that no other sample uses, a cell holds the number that it held, or it is
  filled as it was. -/
  remarked : ∀ new, Scalar.isNaN new = false →
    (∀ v ∈ b.data, (v == nd) = false → (v == new) = false) →
    ∀ method, ∀ col < width, ∀ row < height, ∃ u v,
      (b.resample sourceWidth sourceHeight width height method locate).data[row * width + col]? =
        some u ∧
      ((b.remarked nd new).resample sourceWidth sourceHeight width height method
        locate).data[row * width + col]? = some v ∧
      (u = nd ∧ v = new ∨ u = v ∧ Scalar.isNaN u = false)
  /-- A marker that is a number leaves no cell undefined. -/
  defined : Scalar.isNaN nd = false → ∀ method,
    ∀ v ∈ (b.resample sourceWidth sourceHeight width height method locate).data,
      Scalar.isNaN v = false
  /-- A nearest cell holds the marker just if it has no position or takes a missing sample. -/
  nearest : 0 < sourceWidth → 0 < sourceHeight → b.data.size = sourceWidth * sourceHeight →
    ∀ col < width, ∀ row < height,
      ((b.resample sourceWidth sourceHeight width height .nearest
        locate).data[row * width + col]? = some nd ↔
        locate col row = none ∨ ∃ p, locate col row = some p ∧
          b.Lacks sourceWidth (SampleGrid.nearestIndex sourceWidth p.x)
            (SampleGrid.nearestIndex sourceHeight p.y))
  /-- A bilinear cell holds the marker if one of the four samples around it is missing. -/
  bilinear : ∀ col < width, ∀ row < height, ∀ p, locate col row = some p →
    ∀ i j, (i = SampleGrid.base sourceWidth p.x ∨ i = SampleGrid.base sourceWidth p.x + 1) →
      (j = SampleGrid.base sourceHeight p.y ∨ j = SampleGrid.base sourceHeight p.y + 1) →
      b.Lacks sourceWidth (SampleGrid.clampIndex sourceWidth i)
        (SampleGrid.clampIndex sourceHeight j) →
      (b.resample sourceWidth sourceHeight width height .bilinear
        locate).data[row * width + col]? = some nd

end Definition

variable {b : Band Float32} {nd : Float32}

theorem fill_of_noData (hb : b.noData = some nd) : b.fill = nd := by
  rw [fill, hb]
  rfl

/-- The kernel does not see which value marks the missing samples. -/
theorem masked_remarked (hb : b.noData = some nd) {new : Float32} (hnew : Scalar.isNaN new = false)
    (hunused : ∀ v ∈ b.data, (v == nd) = false → (v == new) = false) :
    (b.remarked nd new).masked = b.masked := by
  rw [masked, masked, hb]
  simp only [remarked, Array.map_map]
  apply Array.map_congr_left
  intro v hv
  by_cases hvn : (v == nd) = true
  · simp [hvn, Single.beq_self new hnew]
  · simp [hvn, hunused v hv (Bool.eq_false_iff.mpr hvn)]

theorem filled_eq_fill_iff (b : Band Float32) (v : Float32) :
    (if Scalar.isNaN (b.maskedSample v) then b.fill else b.maskedSample v) = b.fill ↔
      b.isMissing v = true := by
  rw [isNaN_maskedSample]
  split
  · rename_i hm
    exact iff_of_true rfl hm
  · rename_i hm
    rw [maskedSample_of_present (Bool.eq_false_iff.mpr hm)]
    refine iff_of_false ?_ hm
    rintro rfl
    exact hm b.isMissing_fill

variable {α : Type} [Scalar α] [Narrowing α Float32] {width height : ℕ}

/-- A nearest cell is filled if it has no position, or if the sample that it takes is missing. -/
theorem cell_nearest_eq_fill_iff (hw : 0 < width) (hh : 0 < height)
    (hsize : b.data.size = width * height) (position : Option (Point α)) :
    (⟨b.masked, width, height⟩ : SampleGrid Float32).cell .nearest b.fill position = b.fill ↔
      position = none ∨ ∃ p, position = some p ∧
        b.Lacks width (SampleGrid.nearestIndex width p.x) (SampleGrid.nearestIndex height p.y) := by
  cases position with
  | none => exact iff_of_true rfl (.inl rfl)
  | some p =>
    have hcol := SampleGrid.nearestIndex_lt hw p.x
    have hrow := SampleGrid.nearestIndex_lt hh p.y
    obtain ⟨v, hv⟩ := exists_getElem? hsize hcol hrow
    have hcell : (⟨b.masked, width, height⟩ : SampleGrid Float32).cell .nearest b.fill (some p) =
        if Scalar.isNaN (b.maskedSample v) then b.fill else b.maskedSample v := by
      rw [SampleGrid.cell, SampleGrid.sample_nearest_eq, getElem?_masked, hv]
      rfl
    rw [hcell, filled_eq_fill_iff]
    constructor
    · intro hm
      exact .inr ⟨p, rfl, v, hv, hm⟩
    · rintro (h | ⟨q, hq, w, hw, hm⟩)
      · exact absurd h (by simp)
      · obtain rfl := Option.some.inj hq
        obtain rfl := Option.some.inj (hv.symm.trans hw)
        exact hm

/-- A bilinear cell is filled if a single one of the samples around it is missing. -/
theorem cell_bilinear_eq_fill {p : Point α} {i j : Int64}
    (hi : i = SampleGrid.base width p.x ∨ i = SampleGrid.base width p.x + 1)
    (hj : j = SampleGrid.base height p.y ∨ j = SampleGrid.base height p.y + 1)
    (h : b.Lacks width (SampleGrid.clampIndex width i) (SampleGrid.clampIndex height j)) :
    (⟨b.masked, width, height⟩ : SampleGrid Float32).cell .bilinear b.fill (some p) = b.fill := by
  obtain ⟨v, hv, hm⟩ := h
  have htap : Scalar.isNaN ((⟨b.masked, width, height⟩ : SampleGrid Float32).tap i j) = true := by
    rw [SampleGrid.tap, getElem?_masked, hv]
    exact (b.isNaN_maskedSample v).trans hm
  show (if Scalar.isNaN _ then _ else _) = _
  rw [SampleGrid.sample_bilinear_of_missing _ hi hj htap, if_pos Single.isNaN_nan]

/-- Resampling keeps the marker of a band apart from its values, for every kernel and wherever the
positions lie. -/
theorem resample_hides_marker (hb : b.noData = some nd) (sourceWidth sourceHeight width height : ℕ)
    (locate : ℕ → ℕ → Option (Point α)) :
    b.HidesMarker nd sourceWidth sourceHeight width height locate := by
  have hfill := fill_of_noData hb
  constructor
  case remarked =>
    intro new hnew hunused method col hcol row hrow
    refine ⟨_, _, getElem?_resample _ _ _ _ _ hcol hrow, getElem?_resample _ _ _ _ _ hcol hrow, ?_⟩
    -- both bands are the same grid to the kernel, with another value to fill cells with
    rw [masked_remarked hb hnew hunused, hfill, fill_of_noData (b := b.remarked nd new) rfl]
    obtain h | ⟨v, hv, h⟩ :=
      (⟨b.masked, sourceWidth, sourceHeight⟩ : SampleGrid Float32).cell_filled_or method
        (locate col row)
    · exact .inl ⟨h nd, h new⟩
    · rw [h, h]
      exact .inr ⟨rfl, hv⟩
  case defined =>
    intro hnd method v hv
    obtain ⟨i, rfl⟩ := Array.mem_ofFn.mp hv
    rw [hfill]
    obtain h | ⟨v, hv, h⟩ :=
      (⟨b.masked, sourceWidth, sourceHeight⟩ : SampleGrid Float32).cell_filled_or method
        (locate (i.val % width) (i.val / width))
    · rw [h]
      exact hnd
    · rw [h]
      exact hv
  case nearest =>
    intro hw hh hsize col hcol row hrow
    rw [getElem?_resample _ _ _ _ _ hcol hrow, Option.some.injEq, ← hfill]
    exact cell_nearest_eq_fill_iff hw hh hsize _
  case bilinear =>
    intro col hcol row hrow p hp i j hi hj hlacks
    rw [getElem?_resample _ _ _ _ _ hcol hrow, hp, cell_bilinear_eq_fill hi hj hlacks, hfill]

section Gap

def gapped : Band Float32 :=
  ⟨"b", #[1, -9999, 3, 4], some (-9999)⟩

def halfColumns (col row : ℕ) : Option (Point Exact) :=
  if row = 0 then some ⟨.finite (col / 2), .finite 0⟩ else none

open scoped Geographic

theorem resample_hides_marker_gapped :
    gapped.noData = some (-9999) ∧ gapped.HidesMarker (-9999) 2 2 2 2 halfColumns ∧
      (gapped.resample 2 2 2 2 .nearest halfColumns).data.toList = [1, -9999, -9999, -9999] ∧
      ((gapped.remarked (-9999) 7).resample 2 2 2 2 .nearest halfColumns).data.toList =
        [1, 7, 7, 7] := by
  refine ⟨rfl, resample_hides_marker rfl 2 2 2 2 halfColumns, ?_, ?_⟩ <;> decide +kernel

end Gap

end Band

end GeoRaster
