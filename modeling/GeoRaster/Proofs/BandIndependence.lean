import GeoRaster.Proofs.Bandwise

namespace GeoRaster.Raster

variable {α σ : Type} [Scalar α] [Scalar σ] [Narrowing α σ] [Atlas α] {r a : Raster α σ}
  {plan : PipelinePlan α} {indices : List ℕ}

/-- What a run delivers of one band. -/
theorem run_single {i : ℕ} (p : Passage plan.interpolation r.eastingFirst (·.processed plan)) :
    r.run (plan.selecting [i]) = .ok a ↔
      (r.crs.code = plan.nativeCrs.code ∧ r.HasCells ∧ p.possible) ∧
      ∃ b, (r.bands[i]? = some b ∧ b.data.size = sampleCount r.width r.height ∧ p.takes b) ∧
        a = p.frame.withBands [p.image b] := by
  rw [run_eq_ok p]
  apply and_congr_right'
  simp only [List.forall₂_cons_left_iff, List.forall₂_nil_left_iff]
  constructor
  · rintro ⟨_, ⟨b, _, hb, rfl, rfl⟩, rfl⟩
    exact ⟨b, hb, rfl⟩
  · rintro ⟨b, hb, rfl⟩
    exact ⟨[b], ⟨b, [], hb, rfl, rfl⟩, rfl⟩

theorem exists_run_iff (h : indices ≠ []) :
    (∃ a, r.run (plan.selecting indices) = .ok a) ↔
      ∀ i ∈ indices, ∃ c, r.run (plan.selecting [i]) = .ok c := by
  let p := Passage.processed r.eastingFirst plan
  constructor
  · rintro ⟨a, ha⟩ i hi
    obtain ⟨hp, bands, hb, -⟩ := (run_eq_ok p).mp ha
    obtain ⟨b, -, hib⟩ := exists_of_forall₂_left hb hi
    exact ⟨_, (run_single p).mpr ⟨hp, b, hib, rfl⟩⟩
  · intro hall
    have hone : ∀ i ∈ indices, ∃ b, r.bands[i]? = some b ∧
        b.data.size = sampleCount r.width r.height ∧ p.takes b := by
      intro i hi
      obtain ⟨c, hc⟩ := hall i hi
      obtain ⟨-, b, hib, -⟩ := (run_single p).mp hc
      exact ⟨b, hib⟩
    obtain ⟨bands, hb⟩ := exists_forall₂ hone
    -- the list has an index, and its run shows that the frame is taken
    obtain ⟨i, hi⟩ := List.exists_mem_of_ne_nil indices h
    obtain ⟨c, hc⟩ := hall i hi
    exact ⟨_, (run_eq_ok p).mpr ⟨((run_single p).mp hc).1, bands, hb, rfl⟩⟩

theorem run_eq_flatMap (ha : r.run (plan.selecting indices) = .ok a) :
    ∃ outs, List.Forall₂ (fun i c => r.run (plan.selecting [i]) = .ok c ∧ c.width = a.width ∧
        c.height = a.height ∧ c.envelope = a.envelope ∧ c.crs = a.crs) indices outs ∧
      a.bands = outs.flatMap (·.bands) := by
  let p := Passage.processed r.eastingFirst plan
  obtain ⟨hp, bands, hb, rfl⟩ := (run_eq_ok p).mp ha
  refine ⟨bands.map fun b => p.frame.withBands [p.image b], ?_, ?_⟩
  · rw [List.forall₂_map_right_iff]
    apply hb.imp
    intro i b hib
    exact ⟨(run_single p).mpr ⟨hp, b, hib, rfl⟩, rfl, rfl, rfl, rfl⟩
  · rw [List.flatMap_map]
    exact List.map_eq_flatMap

/-- Bands that are not asked for are not looked at. -/
theorem run_congr {bands : List (Band σ)} (hl : bands.length = r.bands.length)
    (h : ∀ i ∈ plan.bands, bands[i]? = r.bands[i]?) : (r.withBands bands).run plan = r.run plan := by
  have hs : (r.withBands bands).selectBands plan.bands = r.selectBands plan.bands := by
    rw [selectBands, selectBands, bands_withBands, Band.select_congr hl h]
    rfl
  rw [run_eq_processed, run_eq_processed, hs]
  rfl

/-- A run for several bands succeeds if it does for each of them alone. It delivers their answers,
all over one frame, band after band, whatever the bands are that were not asked for. -/
theorem run_bands (r : Raster α σ) (plan : PipelinePlan α) (h : indices ≠ []) :
    ((∃ a, r.run (plan.selecting indices) = .ok a) ↔
      ∀ i ∈ indices, ∃ c, r.run (plan.selecting [i]) = .ok c) ∧
    (∀ a, r.run (plan.selecting indices) = .ok a →
      ∃ outs, List.Forall₂ (fun i c => r.run (plan.selecting [i]) = .ok c ∧ c.width = a.width ∧
          c.height = a.height ∧ c.envelope = a.envelope ∧ c.crs = a.crs) indices outs ∧
        a.bands = outs.flatMap (·.bands)) ∧
    ∀ bands : List (Band σ), bands.length = r.bands.length →
      (∀ i ∈ indices, bands[i]? = r.bands[i]?) →
      (r.withBands bands).run (plan.selecting indices) = r.run (plan.selecting indices) :=
  ⟨exists_run_iff h, fun _ => run_eq_flatMap, fun _ hl hi => run_congr hl hi⟩

section Small

open scoped Geographic

theorem run_bands_small :
    (∃ a, (CoverageDescriptor.smallRaster smallBands).run (.small [1, 0, 1]) = .ok a) ∧
      (∀ i ∈ [1, 0, 1], ∃ c,
        (CoverageDescriptor.smallRaster smallBands).run (.small [i]) = .ok c) ∧
      (CoverageDescriptor.smallRaster (smallBands.take 2 ++ [default])).run (.small [1, 0, 1]) =
        (CoverageDescriptor.smallRaster smallBands).run (.small [1, 0, 1]) := by
  have hlength : ((CoverageDescriptor.smallRaster smallBands).run
      (.small [1, 0, 1])).toOption.map (·.bands.length) = some 3 := by
    decide +kernel
  obtain ⟨a, ha, -⟩ := exists_of_toOption_map hlength
  obtain ⟨hall, -, hcongr⟩ := run_bands (CoverageDescriptor.smallRaster smallBands)
    (PipelinePlan.small []) (List.cons_ne_nil 1 [0, 1])
  refine ⟨⟨a, ha⟩, hall.mp ⟨a, ha⟩, hcongr (smallBands.take 2 ++ [default]) rfl ?_⟩
  intro i hi
  obtain rfl | rfl | rfl : i = 1 ∨ i = 0 ∨ i = 1 := by simpa using hi
  all_goals rfl

end Small

end GeoRaster.Raster
