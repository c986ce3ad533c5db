import GeoRaster.Pipeline
import GeoRaster.Proofs.Crop
import Mathlib.Data.List.Induction

namespace GeoRaster

section Bands

variable {σ : Type} {bands : List (Band σ)} {indices : List ℕ}

def Band.pick (bands : List (Band σ)) (indices : List ℕ) : List (Band σ) :=
  indices.filterMap (bands[·]?)

theorem Band.pick_cons {i : ℕ} (h : i < bands.length) :
    pick bands (i :: indices) = bands[i] :: pick bands indices := by
  rw [pick, List.filterMap_cons, List.getElem?_eq_getElem h, pick]

theorem Band.pick_range (bands : List (Band σ)) : pick bands (List.range bands.length) = bands := by
  induction bands using List.reverseRecOn with
  | nil => rfl
  | append_singleton bands b ih =>
    have hl : ∀ i ∈ List.range bands.length, (bands ++ [b])[i]? = bands[i]? := fun i hi =>
      List.getElem?_append_left (List.mem_range.mp hi)
    rw [pick] at ih ⊢
    rw [List.length_append, List.length_singleton, List.range_succ, List.filterMap_append,
      List.filterMap_congr hl, ih]
    simp

theorem Band.mapM_pick (h : ∀ i ∈ indices, i < bands.length) :
    (indices.mapM fun i => match bands[i]? with
      | some b => Except.ok b
      | none => .error (RasterFault.missingBand bands.length (i + 1))) =
      .ok (pick bands indices) := by
  induction indices with
  | nil => rfl
  | cons i indices ih =>
    have hi := h i (List.mem_cons_self ..)
    have := ih fun j hj => h j (List.mem_cons_of_mem _ hj)
    rw [List.mapM_cons, this, pick_cons hi, List.getElem?_eq_getElem hi]
    rfl

theorem Band.select_eq (h : ∀ i ∈ indices, i < bands.length) :
    select bands indices = .ok (pick bands indices) := by
  rw [select]
  split
  · rename_i hr
    rw [hr, pick_range]
  · exact mapM_pick h

theorem Band.getElem?_pick (h : ∀ i ∈ indices, i < bands.length) (k : ℕ) :
    (pick bands indices)[k]? = indices[k]? >>= fun i => bands[i]? := by
  induction indices generalizing k with
  | nil => simp [pick]
  | cons i indices ih =>
    have hi := h i (List.mem_cons_self ..)
    have := ih fun j hj => h j (List.mem_cons_of_mem _ hj)
    rw [pick_cons hi]
    cases k with
    | zero => simp [hi]
    | succ k => exact this k

theorem Band.length_pick (h : ∀ i ∈ indices, i < bands.length) :
    (pick bands indices).length = indices.length := by
  induction indices with
  | nil => rfl
  | cons i indices ih =>
    rw [pick_cons (h i (List.mem_cons_self ..)), List.length_cons, List.length_cons,
      ih fun j hj => h j (List.mem_cons_of_mem _ hj)]

theorem Band.mem_of_mem_pick {b : Band σ} (h : b ∈ pick bands indices) : b ∈ bands := by
  obtain ⟨i, -, hi⟩ := List.mem_filterMap.mp h
  exact List.mem_of_getElem? hi

theorem Band.pick_map (f : Band σ → Band σ) (bands : List (Band σ)) (indices : List ℕ) :
    pick (bands.map f) indices = (pick bands indices).map f := by
  simp [pick, List.map_filterMap]

end Bands

namespace Raster

section Selected

variable {σ : Type} {r : Raster Exact σ} {x y : Interval ℚ} {indices : List ℕ}
  {cols rows : CellSpan}

def pick {α : Type} (r : Raster α σ) (indices : List ℕ) : Raster α σ :=
  { r with bands := Band.pick r.bands indices }

theorem LiesOver.pick (h : r.LiesOver x y) (indices : List ℕ) : (r.pick indices).LiesOver x y where
  width_pos := h.width_pos
  height_pos := h.height_pos
  width_lt := h.width_lt
  height_lt := h.height_lt
  size_eq b hb := h.size_eq b (Band.mem_of_mem_pick hb)
  count_lt b hb := h.count_lt b (Band.mem_of_mem_pick hb)
  envelope_eq := h.envelope_eq
  order_eq := h.order_eq
  x_lt := h.x_lt
  y_lt := h.y_lt

theorem WellFormed.pick {α : Type} {r : Raster α σ} (h : r.WellFormed) (indices : List ℕ) :
    (r.pick indices).WellFormed where
  width_pos := h.width_pos
  height_pos := h.height_pos
  size_eq b hb := h.size_eq b (Band.mem_of_mem_pick hb)
  crs_eq := h.crs_eq
  order_eq := h.order_eq

theorem WellFormed.selectBands_eq {α : Type} [Scalar α] {r : Raster α σ} (h : r.WellFormed)
    (hn : ∀ b ∈ r.bands, b.data.size < 2 ^ 64) (hi : ∀ i ∈ indices, i < r.bands.length) :
    r.selectBands indices = .ok (r.pick indices) := by
  have hm := (h.pick indices).make_eq fun b hb => hn b (Band.mem_of_mem_pick hb)
  simp only [Raster.pick] at hm
  rw [selectBands, Band.select_eq hi]
  simp only [bind, Except.bind, hm]
  rfl

theorem selectBands_eq (h : r.LiesOver x y) (hi : ∀ i ∈ indices, i < r.bands.length) :
    r.selectBands indices = .ok (r.pick indices) :=
  h.wellFormed.selectBands_eq h.count_lt hi

theorem part_pick (r : Raster Exact σ) (cols rows : CellSpan) (indices : List ℕ) :
    (r.part cols rows).pick indices = (r.pick indices).part cols rows := by
  simp [Raster.pick, part, Band.pick_map, blockEnvelope, resolutionX, resolutionY]

theorem get?_part (hs : ∀ b ∈ r.bands, b.data.size = r.width * r.height)
    (hc : cols.Fits r.width) (hr : rows.Fits r.height) {col row : ℕ}
    (hcol : col < cols.length) (hrow : row < rows.length) (k : ℕ) :
    (r.part cols rows).get? k col row = r.get? k (cols.first + col) (rows.first + row) := by
  have hcol' : cols.first + col < r.width := by
    have := hc.stop_le
    simp only [CellSpan.length] at hcol
    omega
  have hrow' : rows.first + row < r.height := by
    have := hr.stop_le
    simp only [CellSpan.length] at hrow
    omega
  have hin : ¬ ((r.part cols rows).width ≤ col ∨ (r.part cols rows).height ≤ row) := by
    simp only [part]
    omega
  rw [get?, get?, if_neg hin, if_neg (by omega)]
  simp only [part, List.getElem?_map]
  cases hb : r.bands[k]? with
  | none => rfl
  | some b =>
    have hsize := hs b (List.mem_of_getElem? hb)
    exact Band.getElem?_block hsize hc.stop_le hr.stop_le hrow hcol

theorem get?_pick {α : Type} {r : Raster α σ} (hi : ∀ i ∈ indices, i < r.bands.length) {k i : ℕ}
    (hk : indices[k]? = some i) (col row : ℕ) :
    (r.pick indices).get? k col row = r.get? i col row := by
  simp only [get?, Raster.pick, Band.getElem?_pick hi, hk]
  rfl

theorem exists_get? (hs : ∀ b ∈ r.bands, b.data.size = r.width * r.height) {i col row : ℕ}
    (hi : i < r.bands.length) (hcol : col < r.width) (hrow : row < r.height) :
    ∃ v, r.get? i col row = some v := by
  obtain ⟨v, hv⟩ := exists_getElem? (hs _ (List.getElem_mem hi)) hcol hrow
  refine ⟨v, ?_⟩
  rw [get?, if_neg (by omega), List.getElem?_eq_getElem hi]
  exact hv

end Selected

section Scaled

variable {α σ : Type} [Scalar α] [Scalar σ] [Narrowing α σ]

def positionOf (r : Raster α σ) (extent : Envelope α) (width height col row : ℕ) : Point α :=
  positionIn r.envelope.bounds r.resolutionX r.resolutionY
    (cellCentre extent.bounds (extent.bounds.width / Scalar.ofNat width)
      (extent.bounds.height / Scalar.ofNat height) col row)

def scaled (r : Raster α σ) (extent : Envelope α) (width height : ℕ) (method : Interpolation) :
    Raster α σ where
  width := width
  height := height
  bands := r.bands.map fun b => b.resample r.width r.height width height method
    fun col row => some (r.positionOf extent width height col row)
  envelope := { extent with crs := some r.crs.eastingFirst }
  crs := r.crs.eastingFirst

variable {r : Raster α σ} {extent : Envelope α} {width height : ℕ} {method : Interpolation}

theorem size_resample {b : Band σ} {w h : ℕ} {locate : ℕ → ℕ → Option (Point α)} :
    (b.resample w h width height method locate).data.size = width * height := by
  simp [Band.resample, Band.withData]

theorem scaled_wellFormed (hw : 0 < width) (hh : 0 < height) :
    (r.scaled extent width height method).WellFormed where
  width_pos := hw
  height_pos := hh
  size_eq := by
    intro b hb
    obtain ⟨c, -, rfl⟩ := List.mem_map.mp hb
    exact size_resample
  crs_eq := rfl
  order_eq := rfl

theorem resampleOver_eq (hw : 0 < width) (hh : 0 < height) (hn : width * height < 2 ^ 64) :
    r.resampleOver extent width height method = .ok (r.scaled extent width height method) := by
  have h := (scaled_wellFormed hw hh : (r.scaled extent width height method).WellFormed).make_eq (by
    intro b hb
    obtain ⟨c, -, rfl⟩ := List.mem_map.mp hb
    rwa [size_resample])
  rw [← h]
  rfl

theorem scale_eq (hw : 0 < width) (hh : 0 < height) (hn : width * height < 2 ^ 64) :
    r.scale extent width height method = .ok (
      if r.width = width ∧ r.height = height ∧ r.envelope.isNear sameBox extent then r
      else r.scaled extent width height method) := by
  rw [scale]
  split
  · rfl
  · rw [resampleOver_eq hw hh hn]

theorem reproject_same [Atlas α] (h : r.WellFormed) (hn : ∀ b ∈ r.bands, b.data.size < 2 ^ 64)
    {target : Crs} (ht : target.code = r.crs.code) : r.reproject target method = .ok r := by
  have hc : target.eastingFirst = r.crs := by
    rw [← eastingFirst_eq h.order_eq, Crs.eastingFirst, Crs.eastingFirst, ht]
  have hi :
      (Transformation.between r.crs.code r.crs.code : Transformation α).isIdentity = true := by
    simp [Transformation.isIdentity, Transformation.between]
  rw [reproject]
  simp only [hc, hi, if_true, h.make_eq hn]

end Scaled

section Run

variable {α σ : Type} [Scalar α] {r : Raster α σ}

def coveredBy (e box : Envelope α) : Option (Envelope α) :=
  (e.meet? box).map fun common => if common.isNear sameBox e then e else common

theorem coveredBy_crs {e box extent : Envelope α} (h : coveredBy e box = some extent) :
    extent.crs = e.crs := by
  obtain ⟨common, hm, rfl⟩ := Option.map_eq_some_iff.mp h
  rw [Envelope.meet?] at hm
  split at hm
  · obtain rfl := Option.some.inj hm
    split <;> rfl
  · exact absurd hm (by simp)

theorem coveredBy_of_crop {box extent : Envelope α} {c : Raster α σ}
    (h : r.crop box = .ok (c, extent)) : coveredBy r.envelope box = some extent := by
  rw [crop] at h
  rw [coveredBy]
  split at h
  · exact absurd h (by simp)
  · rename_i common hm
    rw [hm]
    split at h
    · rename_i hn
      obtain ⟨-, rfl⟩ : r = c ∧ r.envelope = extent := by simpa using h
      simp [hn]
    · rename_i hn
      dsimp only at h
      split at h
      · obtain ⟨-, rfl⟩ : _ = c ∧ common = extent := by simpa using h
        simp [hn]
      · exact absurd h (by simp)

variable [Scalar σ] [Narrowing α σ] [Atlas α] {selected cropped : Raster α σ}
  {plan : PipelinePlan α} {extent : Envelope α}

def deliver (cropped : Raster α σ) (extent : Envelope α) (plan : PipelinePlan α) :
    Except (Exception α) (Raster α σ) := do
  let scaled ← cropped.scale extent plan.targetGrid.width plan.targetGrid.height plan.interpolation
  scaled.reproject plan.targetCrs plan.interpolation

theorem run_eq (hcode : r.crs.code = plan.nativeCrs.code) (hplan : plan.cancelled = false)
    (hs : r.selectBands plan.bands = .ok selected)
    (hc : selected.crop plan.envelope = .ok (cropped, extent)) :
    r.run plan = cropped.deliver (plannedExtent plan.targetGrid extent) plan := by
  rw [run, if_neg (not_not.mpr hcode), hs]
  simp only [bind, Except.bind, hc, hplan]
  rfl

theorem run_error {e : Exception α} (hcode : r.crs.code = plan.nativeCrs.code)
    (hs : r.selectBands plan.bands = .ok selected) (hc : selected.crop plan.envelope = .error e) :
    r.run plan = .error e := by
  rw [run, if_neg (not_not.mpr hcode), hs]
  simp only [bind, Except.bind, hc]

end Run

section Aligned

variable {σ : Type} {r : Raster Exact σ} {x y : Interval ℚ}

theorem LiesOver.isNear_self (h : r.LiesOver x y) :
    r.envelope.isNear sameBox r.envelope = true := by
  rw [h.envelope_eq]
  exact Envelope.isNear_plane.mpr ⟨Interval.near_self x, Interval.near_self y⟩

theorem LiesOver.deliver_eq [Scalar σ] [Narrowing Exact σ] [Atlas Exact]
    {plan : PipelinePlan Exact} (h : r.LiesOver x y) (hw : r.width = plan.targetGrid.width)
    (hh : r.height = plan.targetGrid.height) (hn : r.width * r.height < 2 ^ 64)
    (ht : plan.targetCrs.code = r.crs.code) : r.deliver r.envelope plan = .ok r := by
  have hs : r.scale r.envelope r.width r.height plan.interpolation = _ :=
    scale_eq h.width_pos h.height_pos hn
  rw [if_pos ⟨rfl, rfl, h.isNear_self⟩] at hs
  have hr : r.reproject plan.targetCrs plan.interpolation = .ok r :=
    reproject_same h.wellFormed h.count_lt ht
  rw [deliver, ← hw, ← hh, hs]
  exact hr

end Aligned

end Raster

end GeoRaster
