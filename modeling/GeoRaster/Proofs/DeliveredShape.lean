import GeoRaster.Proofs.Bandwise

namespace GeoRaster

def Exception.IsProcessing {α : Type} (e : Exception α) : Prop :=
  (∃ f, e = .processing f) ∨ e = .emptyIntersection ∨ e = .cancelled

def FailsProcessing {α β : Type} (x : Except (Exception α) β) : Prop :=
  ∀ e, x = .error e → e.IsProcessing

namespace FailsProcessing

variable {α β γ : Type}

theorem ok (b : β) : FailsProcessing (.ok b : Except (Exception α) β) :=
  fun _ h => absurd h (by simp)

theorem error {e : Exception α} (h : e.IsProcessing) :
    FailsProcessing (.error e : Except (Exception α) β) := by
  rintro _ ⟨⟩
  exact h

theorem bind {x : Except (Exception α) β} {f : β → Except (Exception α) γ}
    (hx : FailsProcessing x) (hf : ∀ b, FailsProcessing (f b)) : FailsProcessing (x >>= f) := by
  intro e h
  obtain h | ⟨b, -, h⟩ := bind_eq_error.mp h
  · exact hx e h
  · exact hf b e h

theorem ofRasterFault (x : Except RasterFault β) :
    FailsProcessing (x.mapError (Exception.ofRasterFault (α := α))) := by
  cases x with
  | ok b => exact ok b
  | error f => exact error (.inl ⟨_, rfl⟩)

end FailsProcessing

theorem Band.MadeOf.name_eq {α σ : Type} [Scalar α] [Scalar σ] [Narrowing α σ]
    {method : Interpolation} {b c : Band σ} (h : MadeOf α method b c) :
    c.name = b.name ∧ c.noData = b.noData := by
  induction h with
  | refl => exact ⟨rfl, rfl⟩
  | tail _ hstep ih =>
    cases hstep with
    | block => exact ih
    | resample => exact ih

namespace Raster

variable {α σ : Type}

theorem selectBands_fails (r : Raster α σ) (indices : List ℕ) :
    FailsProcessing (r.selectBands indices) := by
  rw [selectBands_eq_mapError]
  exact .ofRasterFault _

variable [Scalar α]

theorem crop_fails (r : Raster α σ) (box : Envelope α) : FailsProcessing (r.crop box) := by
  rw [crop]
  split
  · exact .error (.inr (.inl rfl))
  · split
    · exact .ok _
    · dsimp only
      split
      · exact .ok _
      · exact .error (.inl ⟨_, rfl⟩)

variable [Scalar σ] [Narrowing α σ] {r a : Raster α σ} {extent : Envelope α} {width height : ℕ}
  {method : Interpolation}

theorem scale_fails : FailsProcessing (r.scale extent width height method) := by
  rw [scale_eq_ite]
  split
  · exact .ok r
  · exact .ofRasterFault _

theorem scale_ok (h : r.scale extent width height method = .ok a) :
    a.width = width ∧ a.height = height := by
  rw [scale_eq_ite] at h
  split at h
  · rename_i hlies
    obtain rfl := Except.ok.inj h
    exact ⟨hlies.1, hlies.2.1⟩
  · rw [ofRasterFault_eq_ok, resampleOver, make_eq_ok] at h
    obtain ⟨-, -, rfl⟩ := h
    exact ⟨rfl, rfl⟩

variable [Atlas α] {target : Crs} {plan : PipelinePlan α}

theorem reproject_cases (r : Raster α σ) (target : Crs) (method : Interpolation) :
    (∃ e : Exception α, e.IsProcessing ∧ r.reproject target method = .error e) ∨
      ∃ bands extent, r.reproject target method =
        (make r.width r.height bands extent target.eastingFirst).mapError .ofRasterFault := by
  cases hi : (Transformation.between r.crs.code target.eastingFirst.code :
      Transformation α).isIdentity with
  | true => exact .inr ⟨_, _, reproject_of_identity hi⟩
  | false =>
    rw [reproject_of_not_identity rfl hi]
    split
    · exact .inl ⟨_, .inr (.inl rfl), rfl⟩
    · split
      · exact .inl ⟨_, .inl ⟨_, rfl⟩, rfl⟩
      · exact .inr ⟨_, _, rfl⟩

theorem reproject_fails : FailsProcessing (r.reproject target method) := by
  obtain ⟨e, he, h⟩ | ⟨bands, extent, h⟩ := reproject_cases r target method
  · rw [h]
    exact .error he
  · rw [h]
    exact .ofRasterFault _

theorem reproject_ok (h : r.reproject target method = .ok a) :
    a.width = r.width ∧ a.height = r.height ∧ a.crs = target.eastingFirst ∧
      a.envelope.crs = some target.eastingFirst := by
  obtain ⟨e, -, he⟩ | ⟨bands, extent, hm⟩ := reproject_cases r target method
  · rw [he] at h
    exact absurd h (by simp)
  · rw [hm, ofRasterFault_eq_ok, make_eq_ok] at h
    obtain ⟨-, -, rfl⟩ := h
    exact ⟨rfl, rfl, rfl, rfl⟩

theorem run_fails (r : Raster α σ) (plan : PipelinePlan α) : FailsProcessing (r.run plan) := by
  rw [run]
  split
  · exact .error (.inl ⟨_, rfl⟩)
  · apply (selectBands_fails r plan.bands).bind
    intro selected
    apply (crop_fails selected plan.envelope).bind
    rintro ⟨cropped, extent⟩
    dsimp only
    split
    · exact .error (.inr (.inr rfl))
    · exact scale_fails.bind fun _ => reproject_fails

theorem run_ok (h : r.run plan = .ok a) :
    a.width = plan.targetGrid.width ∧ a.height = plan.targetGrid.height ∧
      a.crs = plan.targetCrs.eastingFirst ∧ a.envelope.crs = some plan.targetCrs.eastingFirst := by
  rw [run] at h
  split at h
  · exact absurd h (by simp)
  · obtain ⟨selected, -, h⟩ := bind_eq_ok.mp h
    obtain ⟨⟨cropped, extent⟩, -, h⟩ := bind_eq_ok.mp h
    dsimp only at h
    split at h
    · exact absurd h (by simp)
    · obtain ⟨scaled, hs, h⟩ := bind_eq_ok.mp h
      obtain ⟨hw, hh⟩ := scale_ok hs
      obtain ⟨hw', hh', hcrs⟩ := reproject_ok h
      exact ⟨hw'.trans hw, hh'.trans hh, hcrs⟩

/-- Whatever stages are skipped, the answer has the size of the planned grid, the system that was
asked for and a full band for every planned one, with its name and its mark for missing samples. -/
theorem run_shape (plan : PipelinePlan α) (hr : r.Filled) :
    (∀ a, r.run plan = .ok a →
      a.WellFormed ∧ a.width = plan.targetGrid.width ∧ a.height = plan.targetGrid.height ∧
        a.crs = plan.targetCrs.eastingFirst ∧
        a.envelope.crs = some plan.targetCrs.eastingFirst ∧
        List.Forall₂ (fun i c => ∃ b, r.bands[i]? = some b ∧ c.name = b.name ∧
          c.noData = b.noData) plan.bands a.bands) ∧
      ∀ e, r.run plan = .error e → e.IsProcessing := by
  refine ⟨?_, run_fails r plan⟩
  intro a h
  obtain ⟨hw, hh, hcrs, henvelope⟩ := run_ok h
  have hfilled := filled_run hr h
  refine ⟨⟨hfilled.width_pos, hfilled.height_pos, hfilled.size_eq, ?_, ?_⟩, hw, hh, hcrs, henvelope,
    ?_⟩
  · rw [henvelope, hcrs]
  · rw [hcrs]
    rfl
  · apply (madeOf_run h).imp
    rintro i c ⟨b, hi, hmade⟩
    exact ⟨b, hi, hmade.name_eq⟩

section Small

open scoped Geographic

theorem run_shape_small :
    (CoverageDescriptor.smallRaster smallBands).Filled ∧
      ∃ a, (CoverageDescriptor.smallRaster smallBands).run (.small [1, 0, 1]) = .ok a ∧
        a.WellFormed ∧ a.width = 3 ∧ a.height = 2 ∧ a.crs = .ofCode .webMercator ∧
        a.bands.map (·.name) = ["b", "a", "b"] := by
  have hfilled := filled_smallBands
  have hnames : ((CoverageDescriptor.smallRaster smallBands).run
      (.small [1, 0, 1])).toOption.map (·.bands.map (·.name)) = some ["b", "a", "b"] := by
    decide +kernel
  obtain ⟨a, ha, hnames⟩ := exists_of_toOption_map hnames
  obtain ⟨hw, hwidth, hheight, hcrs, -⟩ := (run_shape (.small [1, 0, 1]) hfilled).1 a ha
  exact ⟨hfilled, a, ha, hw, hwidth, hheight, hcrs, hnames⟩

end Small

end Raster

end GeoRaster
