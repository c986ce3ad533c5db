import GeoRaster.Proofs.Bandwise
import GeoRaster.Proofs.KernelTaps

namespace GeoRaster

section Kernel

variable {α : Type} [Scalar α]

theorem SampleGrid.exists_nearest (σ : Type) [Scalar σ] [Narrowing α σ] {width height : ℕ}
    (hw : 0 < width) (hh : 0 < height) (x y : α) :
    ∃ col < width, ∃ row < height, ∀ data : Array σ,
      (⟨data, width, height⟩ : SampleGrid σ).sample .nearest x y =
        (data[row * width + col]?).getD Scalar.nan :=
  ⟨nearestIndex width x, nearestIndex_lt hw x, nearestIndex height y, nearestIndex_lt hh y,
    fun _ => sample_nearest_eq ..⟩

end Kernel

section Values

variable {σ : Type}

theorem mem_joined {f : ℕ → Array σ} {n : ℕ} {v : σ} (h : v ∈ joined f n) : ∃ j < n, v ∈ f j := by
  induction n with
  | zero => exact absurd h (by simp [joined])
  | succ n ih =>
    rw [joined_succ, Array.mem_append] at h
    obtain h | h := h
    · obtain ⟨j, hj, hv⟩ := ih h
      exact ⟨j, by omega, hv⟩
    · exact ⟨n, by omega, h⟩

theorem Band.mem_of_mem_block {b : Band σ} {width : ℕ} {cols rows : CellSpan} {v : σ}
    (h : v ∈ (b.block width cols rows).data) : v ∈ b.data := by
  rw [block_data] at h
  obtain ⟨j, -, hv⟩ := mem_joined h
  obtain ⟨k, hk, rfl⟩ := Array.mem_extract_iff_getElem.mp hv
  exact Array.getElem_mem _

variable {α : Type} [Scalar α] [Narrowing α Float32] {b c : Band Float32} {v : Float32}

theorem Band.size_masked (b : Band Float32) : b.masked.size = b.data.size := by
  rw [masked]
  split <;> simp

theorem Band.masked_getD (b : Band Float32) (i : ℕ) :
    Scalar.isNaN ((b.masked[i]?).getD Scalar.nan) = true ∨
      (b.masked[i]?).getD Scalar.nan ∈ b.data := by
  rw [getElem?_masked]
  cases hv : b.data[i]? with
  | none => exact .inl Single.isNaN_nan
  | some v =>
    have hmem := Array.mem_of_getElem? hv
    show Scalar.isNaN (b.maskedSample v) = true ∨ b.maskedSample v ∈ b.data
    rw [maskedSample]
    split
    · split
      · exact .inl Single.isNaN_nan
      · exact .inr hmem
    · exact .inr hmem

theorem Band.cell_nearest (b : Band Float32) (width height : ℕ) (p : Option (Point α)) :
    (⟨b.masked, width, height⟩ : SampleGrid Float32).cell .nearest b.fill p ∈ b.data ∨
      (⟨b.masked, width, height⟩ : SampleGrid Float32).cell .nearest b.fill p = b.fill := by
  cases p with
  | none => exact .inr rfl
  | some p =>
    show (if _ then _ else _) ∈ b.data ∨ (if _ then _ else _) = b.fill
    split
    · exact .inr rfl
    · rename_i hn
      exact .inl ((b.masked_getD _).resolve_left hn)

theorem Band.Step.mem_or_fill (h : Step α .nearest b c) :
    c.fill = b.fill ∧ ∀ v ∈ c.data, v ∈ b.data ∨ v = b.fill := by
  cases h with
  | block width cols rows => exact ⟨rfl, fun v hv => .inl (mem_of_mem_block hv)⟩
  | resample sourceWidth sourceHeight width height locate =>
    refine ⟨rfl, ?_⟩
    intro v hv
    obtain ⟨i, rfl⟩ := Array.mem_ofFn.mp hv
    exact b.cell_nearest sourceWidth sourceHeight _

/-- However many steps there are, nothing but the fill value is added. -/
theorem Band.MadeOf.mem_or_fill (h : MadeOf α .nearest b c) :
    c.fill = b.fill ∧ ∀ v ∈ c.data, v ∈ b.data ∨ v = b.fill := by
  induction h with
  | refl => exact ⟨rfl, fun v hv => .inl hv⟩
  | tail _ hstep ih =>
    obtain ⟨hfill, hmem⟩ := hstep.mem_or_fill
    refine ⟨hfill.trans ih.1, ?_⟩
    intro v hv
    -- what was filled before may be sampled again, and it is still the first band's fill value
    obtain hv | rfl := hmem v hv
    · exact ih.2 v hv
    · exact .inr ih.1

end Values

namespace Raster

section Selected

variable {α σ : Type} {r s : Raster α σ} {indices : List ℕ}

theorem hasCells_selectBands (h : r.selectBands indices = .ok s) : s.HasCells := by
  obtain ⟨hcells, bands, -, -, rfl⟩ := selectBands_eq_ok.mp h
  exact hasCells_withBands.mpr (hasCells_eastingFirst.mpr hcells)

theorem filled_selectBands (hn : r.width * r.height < 2 ^ 64)
    (h : r.selectBands indices = .ok s) : s.Filled := by
  obtain ⟨hcells, bands, -, hsize, rfl⟩ := selectBands_eq_ok.mp h
  refine ⟨hasCells_withBands.mpr (hasCells_eastingFirst.mpr hcells), ?_⟩
  intro b hb
  exact (hsize b hb).trans (Nat.mod_eq_of_lt hn)

end Selected

section Sampled

variable {α σ : Type} [Scalar α] [Scalar σ] [Narrowing α σ]

/-- The rasters that a run takes samples from with a kernel: the one that was cropped and the one
that was scaled. -/
inductive Sampled (r : Raster α σ) (plan : PipelinePlan α) : Raster α σ → Prop
  | cropped {selected cropped : Raster α σ} {extent : Envelope α}
    (hs : r.selectBands plan.bands = .ok selected)
    (hc : selected.crop plan.envelope = .ok (cropped, extent)) : Sampled r plan cropped
  | scaled {selected cropped scaled : Raster α σ} {extent : Envelope α}
    (hs : r.selectBands plan.bands = .ok selected)
    (hc : selected.crop plan.envelope = .ok (cropped, extent))
    (h : cropped.scale (plannedExtent plan.targetGrid extent) plan.targetGrid.width
      plan.targetGrid.height plan.interpolation = .ok scaled) : Sampled r plan scaled

variable {r s : Raster α σ} {plan : PipelinePlan α}

/-- What holds of the selected raster and what every stage preserves holds where samples are
taken. -/
theorem Sampled.of_passages {P : Raster α σ → Prop}
    (hselect : ∀ s, r.selectBands plan.bands = .ok s → P s)
    (hstage : ∀ s a stage, Passage plan.interpolation s stage → stage s = .ok a → P s → P a)
    (h : r.Sampled plan s) : P s := by
  have hcrop : ∀ {selected cropped extent}, r.selectBands plan.bands = .ok selected →
      selected.crop plan.envelope = .ok (cropped, extent) → P cropped := by
    intro selected cropped extent hs hc
    have hfst : (selected.crop plan.envelope).map Prod.fst = .ok cropped := by
      rw [hc]
      rfl
    exact hstage _ _ _ (.crop _ selected plan.envelope) hfst (hselect _ hs)
  cases h with
  | cropped hs hc => exact hcrop hs hc
  | scaled hs hc h => exact hstage _ _ _ (.scale _ _ _ _ _) h (hcrop hs hc)

theorem Sampled.hasCells (h : r.Sampled plan s) : s.HasCells :=
  h.of_passages (fun _ => hasCells_selectBands) fun _ _ _ p => p.hasCells_of_ok

theorem Sampled.filled (hn : r.width * r.height < 2 ^ 64) (h : r.Sampled plan s) : s.Filled :=
  h.of_passages (fun _ => filled_selectBands hn) fun _ _ _ p => p.filled_of_ok

end Sampled

variable {α : Type} [Scalar α] [Narrowing α Float32] [Atlas α]

/-- With the nearest-neighbour kernel every sample that is delivered is one of the selected band or
its fill value. The kernel looks at one cell of the raster that it samples, whatever the position
is, and that cell has a sample unless the cells are too many to be counted. -/
theorem run_nearest (r : Raster α Float32) (plan : PipelinePlan α)
    (hm : plan.interpolation = .nearest) :
    (∀ a, r.run plan = .ok a →
      List.Forall₂ (fun i c => ∃ b, r.bands[i]? = some b ∧
        ∀ v ∈ c.data, v ∈ b.data ∨ v = b.fill) plan.bands a.bands) ∧
    ∀ s, r.Sampled plan s → ∀ x y : α, ∃ col < s.width, ∃ row < s.height,
      (∀ data : Array Float32,
        (⟨data, s.width, s.height⟩ : SampleGrid Float32).sample plan.interpolation x y =
          (data[row * s.width + col]?).getD Scalar.nan) ∧
      (r.width * r.height < 2 ^ 64 →
        ∀ b ∈ s.bands, row * s.width + col < b.masked.size) := by
  constructor
  · intro a h
    apply (madeOf_run h).imp
    rintro i c ⟨b, hi, hmade⟩
    rw [hm] at hmade
    exact ⟨b, hi, hmade.mem_or_fill.2⟩
  · intro s hs x y
    have hcells := hs.hasCells
    obtain ⟨col, hcol, row, hrow, hsample⟩ :=
      SampleGrid.exists_nearest Float32 hcells.width_pos hcells.height_pos x y
    rw [hm]
    refine ⟨col, hcol, row, hrow, hsample, ?_⟩
    intro hn b hb
    have hle := Nat.mul_le_mul_right s.width (Nat.succ_le_of_lt hrow)
    rw [Nat.succ_mul] at hle
    rw [b.size_masked, (hs.filled hn).size_eq b hb, Nat.mul_comm s.width]
    omega

section Small

open scoped Geographic

theorem run_nearest_small :
    ∃ a, (CoverageDescriptor.smallRaster smallBands).run (.small [1, 0]) = .ok a ∧
      a.bands.length = 2 ∧
      List.Forall₂ (fun i c => ∃ b, smallBands[i]? = some b ∧
        ∀ v ∈ c.data, v ∈ b.data ∨ v = b.fill) [1, 0] a.bands := by
  have hlength : ((CoverageDescriptor.smallRaster smallBands).run
      (.small [1, 0])).toOption.map (·.bands.length) = some 2 := by
    decide +kernel
  obtain ⟨a, ha, hlength⟩ := exists_of_toOption_map hlength
  have hvalues := (run_nearest (CoverageDescriptor.smallRaster smallBands) (.small [1, 0])
    rfl).1 a ha
  exact ⟨a, ha, hlength, hvalues⟩

end Small

end Raster

end GeoRaster
