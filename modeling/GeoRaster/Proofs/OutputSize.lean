import GeoRaster.Proofs.Answer
import GeoRaster.Proofs.Planning

namespace GeoRaster

namespace BandSelection

theorem resolve_ne_nil {names : List String} (hn : names ≠ []) {selection : Option AxisSelection} :
    resolve names selection ≠ .ok [] := by
  intro h
  match selection with
  | none =>
    have hnil := List.range_eq_nil.mp (Except.ok.inj h)
    exact hn (List.length_eq_zero_iff.mp hnil)
  | some (.values keys) =>
    rw [resolve] at h
    split at h
    · exact absurd h (by simp)
    · rename_i hkeys
      apply mapM_ne_nil _ h
      rintro rfl
      exact hkeys rfl
  | some (.interval min max step) =>
    rw [resolve] at h
    obtain ⟨low, -, h⟩ := bind_eq_ok.mp h
    obtain ⟨high, -, h⟩ := bind_eq_ok.mp h
    split at h
    · exact absurd h (by simp)
    · obtain ⟨step, -, h⟩ := bind_eq_ok.mp h
      exact absurd (Except.ok.inj h) (by simp [stepped])

end BandSelection

namespace GridGeometry

variable {α : Type} {g : GridGeometry α} {axis limit bands : ℕ}

def cells (g : GridGeometry α) (axis : ℕ) : ℕ :=
  ((g.high axis).toInt - (g.low axis).toInt + 1).toNat

def maxCells : ℕ := Int64.maxValue.toInt.toNat

theorem maxCells_eq : maxCells = 2 ^ 63 - 1 := by
  decide

def Oversized (g : GridGeometry α) (limit bands : ℕ) : Prop :=
  limit < g.cells 0 * g.cells 1 * bands ∨ maxCells < g.cells 0 ∨ maxCells < g.cells 1

instance (g : GridGeometry α) (limit bands : ℕ) : Decidable (g.Oversized limit bands) :=
  inferInstanceAs (Decidable (_ ∨ _ ∨ _))

theorem span_of_le (ha : axis < 2) (h : g.cells axis ≤ maxCells) :
    g.range.span axis = some (g.cells axis) := by
  have hmin : Int64.minValue.toInt = -2 ^ 63 := by decide
  have hmax : Int64.maxValue.toInt = 2 ^ 63 - 1 := by decide
  have hle := g.low_le_high axis ha
  rw [cells, maxCells_eq] at h
  rw [GridRange.span, low_eq g axis ha, high_eq g axis ha]
  simp only [cellsBetween]
  rw [if_pos (by omega), cells]

theorem span_of_lt (ha : axis < 2) (h : maxCells < g.cells axis) : g.range.span axis = none := by
  have hmax : Int64.maxValue.toInt = 2 ^ 63 - 1 := by decide
  rw [cells, maxCells_eq] at h
  rw [GridRange.span, low_eq g axis ha, high_eq g axis ha]
  simp only [cellsBetween]
  rw [if_neg (by omega)]

theorem width_eq_cells (h : g.cells 0 ≤ maxCells) : g.width = g.cells 0 := by
  rw [width, GridRange.width, span_of_le (by decide) h]
  rfl

theorem height_eq_cells (h : g.cells 1 ≤ maxCells) : g.height = g.cells 1 := by
  rw [height, GridRange.height, span_of_le (by decide) h]
  rfl

theorem cellCount_eq_bind (g : GridGeometry α) :
    g.range.cellCount =
      g.range.span 0 >>= fun w => g.range.span 1 >>= GridRange.checkedProduct w := by
  have hmax : maxCount = 2 ^ 64 - 1 := by decide
  have hdim : g.range.dimension = 2 := g.planar.1
  rw [GridRange.cellCount, hdim]
  show (g.range.span 0 >>= GridRange.checkedProduct 1) >>= _ = _
  cases hw : g.range.span 0 with
  | none => rfl
  | some w =>
    have hword := (span_eq (by decide) hw).2.2
    have hone : GridRange.checkedProduct 1 w = some w := by
      rw [GridRange.checkedProduct, if_pos (by omega), one_mul]
    simp only [Option.bind_eq_bind, Option.bind_some, hone]
    simp

theorem cellCount_of_le (hw : g.cells 0 ≤ maxCells) (hh : g.cells 1 ≤ maxCells) :
    g.range.cellCount = GridRange.checkedProduct (g.cells 0) (g.cells 1) := by
  rw [cellCount_eq_bind, span_of_le (by decide) hw, span_of_le (by decide) hh]
  rfl

theorem cellCount_of_lt (h : maxCells < g.cells 0 ∨ maxCells < g.cells 1) :
    g.range.cellCount = none := by
  rw [cellCount_eq_bind]
  by_cases hw : maxCells < g.cells 0
  · rw [span_of_lt (by decide) hw]
    rfl
  · rw [span_of_lt (by decide) (h.resolve_left hw)]
    cases g.range.span 0 <;> rfl

/-- An answer of so many columns, rows and bands is refused: it has more values than the limit
allows, or its cells cannot be counted. -/
def TooLarge (limit cols rows bands : ℕ) : Prop :=
  limit < cols * rows * bands ∨ maxCount < cols * rows ∨ maxCells < cols ∨ maxCells < rows

instance (limit cols rows bands : ℕ) : Decidable (TooLarge limit cols rows bands) :=
  inferInstanceAs (Decidable (_ ∨ _ ∨ _ ∨ _))

theorem outputValues_iff (hl : limit ≤ maxCount) :
    (CoverageDescriptor.outputValues g bands).all (limit < ·) = true ↔
      TooLarge limit (g.cells 0) (g.cells 1) bands := by
  rw [CoverageDescriptor.outputValues, TooLarge]
  -- a count that is no word has passed every limit that is one
  by_cases hlong : maxCells < g.cells 0 ∨ maxCells < g.cells 1
  · rw [cellCount_of_lt hlong]
    simp [hlong]
  · obtain ⟨hw, hh⟩ := not_or.mp hlong
    rw [cellCount_of_le (not_lt.mp hw) (not_lt.mp hh)]
    simp only [hlong, or_false]
    by_cases hcells : g.cells 0 * g.cells 1 ≤ maxCount
    · by_cases hvalues : g.cells 0 * g.cells 1 * bands ≤ maxCount
      · simp [GridRange.checkedProduct, hcells, hvalues]
      · simp [GridRange.checkedProduct, hcells, hvalues]
        omega
    · simp [GridRange.checkedProduct, hcells, not_le.mp hcells]

theorem tooLarge_iff (hl : limit ≤ maxCount) (hb : 0 < bands) :
    TooLarge limit (g.cells 0) (g.cells 1) bands ↔ g.Oversized limit bands := by
  have hgrow : g.cells 0 * g.cells 1 ≤ g.cells 0 * g.cells 1 * bands :=
    Nat.le_mul_of_pos_right _ hb
  rw [TooLarge, Oversized]
  omega

theorem checkSize_eq (hl : limit ≤ maxCount) :
    CoverageDescriptor.checkSize limit g bands =
      if TooLarge limit (g.cells 0) (g.cells 1) bands then
        .error (.invalidParameter (.outputSize g.width g.height bands limit))
      else .ok () := by
  rw [CoverageDescriptor.checkSize]
  simp only [outputValues_iff hl]

theorem size_eq_cells (h : ¬ g.Oversized limit bands) :
    g.width = g.cells 0 ∧ g.height = g.cells 1 := by
  simp only [Oversized, not_or, not_lt] at h
  exact ⟨width_eq_cells h.2.1, height_eq_cells h.2.2⟩

end GridGeometry

namespace CoverageDescriptor

variable {α : Type} [Scalar α] [Atlas α] {d : CoverageDescriptor α} {registry : List Encoder}
  {settings : Settings} {request : CoverageRequest α} {q : Query α}

/-- The query that all checks but the one of size make of a request. -/
structure Drafts (d : CoverageDescriptor α) (registry : List Encoder) (settings : Settings)
    (request : CoverageRequest α) (q : Query α) : Prop where
  envelope_eq : d.envelopeFor request.domain.envelope = .ok q.envelope
  grid_checked : checkGrid request.domain.grid = .ok ()
  interpolation_eq : d.interpolationFor settings.defaultInterpolation request.interpolation =
    .ok q.interpolation
  format_eq : d.formatFor registry request.output.format = .ok q.format
  target_eq : d.outputCrsFor request.output.crs = .ok q.targetCrs
  bands_eq : (bandSubset request.range >>= d.bandsFor) = .ok q.bands
  grid_eq : d.gridFor q.envelope request.domain.grid = .ok q.targetGrid
  id_eq : q.coverageId = d.id
  native_eq : q.nativeCrs = d.nativeCrs.eastingFirst

theorem Drafts.bands_pos (h : d.Drafts registry settings request q) (hd : 0 < d.bands.length) :
    0 < q.bands.length := by
  obtain ⟨subset, -, hbands⟩ := bind_eq_ok.mp h.bands_eq
  rw [List.length_pos_iff]
  intro hnil
  rw [hnil, bandsFor] at hbands
  split at hbands
  · rename_i bands hselect
    obtain rfl := Except.ok.inj hbands
    have hnames : d.bands.map BandDefinition.name ≠ [] := by
      rwa [ne_eq, List.map_eq_nil_iff, ← List.length_eq_zero_iff, ← ne_eq, Nat.ne_zero_iff_zero_lt]
    exact BandSelection.resolve_ne_nil hnames hselect
  · exact absurd hbands (by simp)

theorem Drafts.band_lt (h : d.Drafts registry settings request q) {i : ℕ} (hi : i ∈ q.bands) :
    i < d.bands.length := by
  obtain ⟨subset, -, hbands⟩ := bind_eq_ok.mp h.bands_eq
  exact band_lt_of_bandsFor hbands hi

/-- After the draft only the size is left to check. -/
theorem Drafts.validate_eq (h : d.Drafts registry settings request q) :
    d.validate registry settings request =
      (checkSize settings.maxOutputValues q.targetGrid q.bands.length).map fun _ => q := by
  obtain ⟨subset, hsubset, hbands⟩ := bind_eq_ok.mp h.bands_eq
  obtain ⟨henvelope, hgrid, hinterpolation, hformat, htarget, -, hplan, hid, hnative⟩ := h
  obtain ⟨id, envelope, grid, native, target, interpolation, format, bands⟩ := q
  subst hid hnative
  rw [validate, henvelope]
  simp only [bind, Except.bind, hgrid, hsubset, hinterpolation, hformat, htarget, hbands, hplan]
  cases checkSize settings.maxOutputValues grid bands.length <;> rfl

theorem Drafts.validate_eq_ite (h : d.Drafts registry settings request q)
    (hd : 0 < d.bands.length) (hl : settings.maxOutputValues ≤ maxCount) :
    d.validate registry settings request =
      if q.targetGrid.Oversized settings.maxOutputValues q.bands.length then
        .error (.invalidParameter (.outputSize q.targetGrid.width q.targetGrid.height
          q.bands.length settings.maxOutputValues))
      else .ok q := by
  rw [h.validate_eq, GridGeometry.checkSize_eq hl]
  simp only [GridGeometry.tooLarge_iff hl (h.bands_pos hd)]
  split <;> rfl

theorem drafts_of_validate (h : d.validate registry settings request = .ok q) :
    d.Drafts registry settings request q := by
  obtain ⟨envelope, henvelope, h⟩ := bind_eq_ok.mp h
  obtain ⟨_, hgrid, h⟩ := bind_eq_ok.mp h
  obtain ⟨subset, hsubset, h⟩ := bind_eq_ok.mp h
  obtain ⟨interpolation, hinterpolation, h⟩ := bind_eq_ok.mp h
  obtain ⟨format, hformat, h⟩ := bind_eq_ok.mp h
  obtain ⟨targetCrs, htarget, h⟩ := bind_eq_ok.mp h
  obtain ⟨bands, hbands, h⟩ := bind_eq_ok.mp h
  obtain ⟨grid, hplan, h⟩ := bind_eq_ok.mp h
  obtain ⟨_, -, h⟩ := bind_eq_ok.mp h
  obtain rfl := Except.ok.inj h
  exact ⟨henvelope, hgrid, hinterpolation, hformat, htarget,
    bind_eq_ok.mpr ⟨subset, hsubset, hbands⟩, hplan, rfl, rfl⟩

theorem drafts_of_outputSize {width height bands limit : ℕ}
    (h : d.validate registry settings request =
      .error (.invalidParameter (.outputSize width height bands limit))) :
    ∃ q, d.Drafts registry settings request q := by
  have hplanning : ∀ f : PlanningFault α,
      Exception.ofPlanningFault f ≠ .invalidParameter (.outputSize width height bands limit) := by
    intro f
    cases f <;> simp [Exception.ofPlanningFault, Exception.ofGridFault]
  obtain h | ⟨envelope, henvelope, h⟩ := bind_eq_error.mp h
  · obtain ⟨f, hf⟩ := envelopeFor_error h
    exact absurd hf (by simp)
  obtain h | ⟨_, hgrid, h⟩ := bind_eq_error.mp h
  · obtain ⟨f, hf⟩ := checkGrid_error h
    exact absurd hf.symm (hplanning f)
  obtain h | ⟨subset, hsubset, h⟩ := bind_eq_error.mp h
  · obtain ⟨f, hf⟩ := bandSubset_error h
    exact absurd hf (by simp)
  obtain h | ⟨interpolation, hinterpolation, h⟩ := bind_eq_error.mp h
  · obtain ⟨f, hf⟩ := interpolationFor_error h
    exact absurd hf (by simp)
  obtain h | ⟨format, hformat, h⟩ := bind_eq_error.mp h
  · obtain ⟨f, hf⟩ := formatFor_error h
    exact absurd hf (by simp)
  obtain h | ⟨targetCrs, htarget, h⟩ := bind_eq_error.mp h
  · obtain ⟨f, hf, hlocator⟩ := outputCrsFor_error h
    obtain rfl := Exception.invalidParameter.inj hf
    exact absurd hlocator (by simp [ParameterFault.locator])
  obtain h | ⟨bands, hbands, h⟩ := bind_eq_error.mp h
  · obtain ⟨f, hf⟩ := bandsFor_error h
    exact absurd hf (by simp)
  obtain h | ⟨grid, hplan, h⟩ := bind_eq_error.mp h
  · obtain ⟨f, hf⟩ := gridFor_error h
    exact absurd hf.symm (hplanning f)
  exact ⟨⟨d.id, envelope, grid, d.nativeCrs.eastingFirst, targetCrs, interpolation, format, bands⟩,
    henvelope, hgrid, hinterpolation, hformat, htarget, bind_eq_ok.mpr ⟨subset, hsubset, hbands⟩,
    hplan, rfl, rfl⟩

/-- A request that passes all other checks is rejected for its size if and only if the product of
width, height and bands exceeds the limit or an axis has more cells than are counted. All products
of an accepted request are words. -/
theorem validate_size (hd : 0 < d.bands.length) (hl : settings.maxOutputValues ≤ maxCount) :
    (∀ q, d.Drafts registry settings request q →
      d.validate registry settings request =
        if q.targetGrid.Oversized settings.maxOutputValues q.bands.length then
          .error (.invalidParameter (.outputSize q.targetGrid.width q.targetGrid.height
            q.bands.length settings.maxOutputValues))
        else .ok q) ∧
      (∀ width height bands limit, d.validate registry settings request =
          .error (.invalidParameter (.outputSize width height bands limit)) →
        ∃ q, d.Drafts registry settings request q ∧
          q.targetGrid.Oversized settings.maxOutputValues q.bands.length) ∧
      ∀ q, d.validate registry settings request = .ok q →
        d.Drafts registry settings request q ∧ q.targetGrid.width = q.targetGrid.cells 0 ∧
          q.targetGrid.height = q.targetGrid.cells 1 ∧
          q.targetGrid.width * q.targetGrid.height < 2 ^ 64 ∧
          q.targetGrid.width * q.targetGrid.height * q.bands.length < 2 ^ 64 ∧
          Raster.sampleCount q.targetGrid.width q.targetGrid.height =
            q.targetGrid.width * q.targetGrid.height := by
  refine ⟨fun q hq => hq.validate_eq_ite hd hl, ?_, ?_⟩
  · intro width height bands limit h
    obtain ⟨q, hq⟩ := drafts_of_outputSize h
    refine ⟨q, hq, ?_⟩
    rw [hq.validate_eq_ite hd hl] at h
    split at h
    · assumption
    · exact absurd h (by simp)
  · intro q h
    have hq := drafts_of_validate h
    rw [hq.validate_eq_ite hd hl] at h
    split at h
    · exact absurd h (by simp)
    · rename_i hfits
      obtain ⟨hw, hh⟩ := GridGeometry.size_eq_cells hfits
      have hvalues := not_lt.mp (not_or.mp hfits).1
      have hgrow := Nat.le_mul_of_pos_right (q.targetGrid.cells 0 * q.targetGrid.cells 1)
        (hq.bands_pos hd)
      have hmax : maxCount < 2 ^ 64 := by decide
      rw [hw, hh]
      exact ⟨hq, rfl, rfl, by omega, by omega, Nat.mod_eq_of_lt (show _ < 2 ^ 64 by omega)⟩

section Small

open scoped Geographic

def endlessRequest : CoverageRequest Exact :=
  Service.smallRequest ⟨-10.0, -10.0, 10.0, 10.0⟩
    (some ⟨some ⟨[Int64.minValue, 0], [Int64.maxValue, 0]⟩, none, none⟩)

theorem validate_size_small :
    0 < (small ["a"] : CoverageDescriptor Exact).bands.length ∧
      Settings.standard.maxOutputValues ≤ maxCount ∧
      ∃ q, (small ["a"]).Drafts Encoder.standard Settings.standard endlessRequest q ∧
        q.targetGrid.Oversized Settings.standard.maxOutputValues q.bands.length := by
  have hd : 0 < (small ["a"] : CoverageDescriptor Exact).bands.length := by decide
  have hl : Settings.standard.maxOutputValues ≤ maxCount := by decide
  have hrejected : errorOf? ((small ["a"]).validate Encoder.standard Settings.standard
      endlessRequest) = some (.invalidParameter (.outputSize maxCount 1 1 100000000)) := by
    decide +kernel
  exact ⟨hd, hl, (validate_size hd hl).2.1 _ _ _ _ (errorOf?_eq_some.mp hrejected)⟩

end Small

end CoverageDescriptor

end GeoRaster
