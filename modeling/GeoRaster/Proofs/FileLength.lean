import GeoRaster.Proofs.FileLayout

namespace GeoRaster

theorem size_decodeSamples {σ : Type} [SampleWord σ] (part : ByteArray) :
    (decodeSamples part : Array σ).size = part.size / 4 :=
  Array.size_ofFn

namespace RawFileEntry

variable {α σ : Type} {e : RawFileEntry α σ} {build : Build} {file part : ByteArray}
  {rows : CellSpan} {offset size i : ℕ}

def InFile (bytes offset size : ℕ) : Prop :=
  offset < 2 ^ 63 ∧ (size = 0 ∨ offset + size ≤ bytes)

theorem exists_readPart (h : InFile file.size offset size) :
    ∃ part, readPart file offset size = .ok part := by
  obtain ⟨hsigned, hsize⟩ := h
  have hword : Nat.pow 2 63 = 2 ^ 63 := rfl
  rw [readPart, if_neg (by omega)]
  split
  · exact ⟨_, rfl⟩
  · rename_i hne
    rw [if_pos (hsize.resolve_left hne)]
    exact ⟨_, rfl⟩

theorem of_readPart (h : readPart file offset size = .ok part) :
    InFile file.size offset size ∧ part.size = size := by
  have hword : Nat.pow 2 63 = 2 ^ 63 := rfl
  rw [readPart] at h
  split_ifs at h with hsigned hzero hinside
  · rw [← Except.ok.inj h, hzero]
    exact ⟨⟨by omega, .inl rfl⟩, rfl⟩
  · rw [← Except.ok.inj h, ByteArray.size_extract]
    exact ⟨⟨by omega, .inr hinside⟩, by omega⟩

theorem mapError_eq_ok {ε ε' β : Type} {x : Except ε β} {f : ε → ε'} {b : β} :
    x.mapError f = .ok b ↔ x = .ok b := by
  cases x <;> simp [Except.mapError]

section Bands

variable [SampleWord σ]

theorem readBand_eq_ok_iff {name : String} {b : Band σ} :
    e.readBand build file rows size name i = .ok b ↔ ∃ offset part,
      e.offset build i rows = .ok offset ∧ readPart file offset size = .ok part ∧
        b = ⟨name, decodeSamples part, (e.noData[i]?).join⟩ := by
  simp only [readBand, bind_eq_ok, mapError_eq_ok, pure, Except.pure, Except.ok.injEq]
  constructor
  · rintro ⟨offset, hoffset, part, hpart, rfl⟩
    exact ⟨offset, part, hoffset, hpart, rfl⟩
  · rintro ⟨offset, part, hoffset, hpart, rfl⟩
    exact ⟨offset, hoffset, part, hpart, rfl⟩

theorem readBands_eq (h : e.windowSize build rows = .ok size) :
    e.readBands build file rows =
      e.bandNames.zipIdx.mapM fun p => e.readBand build file rows size p.1 p.2 := by
  rw [readBands, h]
  rfl

theorem exists_readBands (hsize : e.windowSize build rows = .ok size)
    (h : ∀ i < e.bandNames.length, ∃ offset,
      e.offset build i rows = .ok offset ∧ InFile file.size offset size) :
    ∃ bands, e.readBands build file rows = .ok bands := by
  simp only [readBands_eq hsize, mapM_eq_ok_iff]
  apply exists_forall₂
  rintro ⟨name, i⟩ hmem
  have hi : i < e.bandNames.length :=
    (List.getElem?_eq_some_iff.mp (List.mem_zipIdx_iff_getElem?.mp hmem)).1
  obtain ⟨offset, hoffset, hin⟩ := h i hi
  obtain ⟨part, hpart⟩ := exists_readPart hin
  exact ⟨_, readBand_eq_ok_iff.mpr ⟨offset, part, hoffset, hpart, rfl⟩⟩

theorem of_readBands (hsize : e.windowSize build rows = .ok size) {bands : List (Band σ)}
    (h : e.readBands build file rows = .ok bands) :
    (∀ i < e.bandNames.length, ∃ offset,
      e.offset build i rows = .ok offset ∧ InFile file.size offset size) ∧
      ∀ b ∈ bands, b.data.size = size / 4 := by
  rw [readBands_eq hsize] at h
  constructor
  · intro i hi
    have hmem : (e.bandNames[i], i) ∈ e.bandNames.zipIdx :=
      List.mem_zipIdx_iff_getElem?.mpr (List.getElem?_eq_getElem hi)
    obtain ⟨b, -, hb⟩ := exists_of_forall₂_left (mapM_eq_ok_iff.mp h) hmem
    obtain ⟨offset, part, hoffset, hpart, -⟩ := readBand_eq_ok_iff.mp hb
    exact ⟨offset, hoffset, (of_readPart hpart).1⟩
  · intro b hb
    obtain ⟨⟨name, i⟩, -, hread⟩ := mapM_ok h hb
    obtain ⟨offset, part, -, hpart, rfl⟩ := readBand_eq_ok_iff.mp hread
    rw [size_decodeSamples, (of_readPart hpart).2]

/-- Where places and sizes are the same words, builds read the same. -/
theorem readBands_congr {build' : Build}
    (hsize : e.windowSize build rows = e.windowSize build' rows)
    (hoffset : ∀ i < e.bandNames.length, e.offset build i rows = e.offset build' i rows) :
    e.readBands build file rows = e.readBands build' file rows := by
  rw [readBands, readBands, hsize]
  refine bind_congr fun size => ?_
  apply mapM_congr
  rintro ⟨name, i⟩ hmem
  have hi : i < e.bandNames.length :=
    (List.getElem?_eq_some_iff.mp (List.mem_zipIdx_iff_getElem?.mp hmem)).1
  dsimp only
  rw [readBand, readBand, hoffset i hi]

end Bands

/-- In a file with some bytes a build that wraps can read all of some rows, and finds as many
samples as they have cells. -/
structure Readable (e : RawFileEntry α σ) (bytes : ℕ) (rows : CellSpan) : Prop where
  inFile : ∀ i < e.bandNames.length,
    InFile bytes (e.place i rows % 2 ^ 64) (e.partSize rows % 2 ^ 64)
  cells_lt : rows.length * e.width % 2 ^ 64 < 2 ^ 62

theorem partSize_div_eq_iff :
    e.partSize rows % 2 ^ 64 / 4 = Raster.sampleCount e.width rows.length ↔
      rows.length * e.width % 2 ^ 64 < 2 ^ 62 := by
  have hcount : Raster.sampleCount e.width rows.length = rows.length * e.width % 2 ^ 64 := by
    rw [Nat.mul_comm]
    rfl
  rw [partSize, hcount]
  omega

theorem readable_of_lt (hsamples : e.HasSamples) (hs : e.declaredSize ≤ 2 ^ 63)
    (hr : rows.Fits e.height) : e.Readable e.declaredSize rows where
  inFile i hi := by
    have hend := end_le_declaredSize hr hi
    have hpos : 0 < rows.length * e.width := Nat.mul_pos hr.length_pos hsamples.width_pos
    have hpart : 0 < e.partSize rows := Nat.mul_pos (by decide) hpos
    rw [Nat.mod_eq_of_lt (by omega), Nat.mod_eq_of_lt (by omega)]
    exact ⟨by omega, .inr hend⟩
  cells_lt := by
    have hbands : 0 < e.bandNames.length := List.length_pos_iff.mpr hsamples.bandNames_ne
    have hend := end_le_declaredSize hr hbands
    rw [partSize] at hend
    omega

variable [Scalar α] [SampleWord σ] {number : ℕ}

theorem read_eq_error (id : String) (box : Envelope α)
    (h : file.size ≠ e.declaredSize % 2 ^ 64) :
    e.read ⟨.wrapping, number⟩ id (.ok file) box =
      .error (.invalid id (e.sizeMessage file.size (e.declaredSize % 2 ^ 64))) := by
  rw [read]
  simp only [expectedSize_wrapping]
  exact if_pos h

theorem read_eq_ok_iff {r : Raster α σ} {id : String} {box : Envelope α}
    (h : file.size = e.declaredSize % 2 ^ 64) :
    e.read ⟨.wrapping, number⟩ id (.ok file) box = .ok r ↔
      ∃ bands, e.readBands .wrapping file (e.rowsOf box) = .ok bands ∧
        Raster.make e.width (e.rowsOf box).length bands (e.rowsEnvelope (e.rowsOf box)) e.crs =
          .ok r := by
  simp only [read, expectedSize_wrapping, h, ne_eq, not_true_eq_false, if_false]
  cases e.readBands .wrapping file (e.rowsOf box) with
  | error stop => cases stop <;> simp
  | ok bands =>
    simp only [Except.ok.injEq, exists_eq_left']
    split <;> simp_all

/-- A build that wraps takes a file if its size is that of all samples as a word and the rows can be
read. -/
theorem exists_read_iff (number : ℕ) (h : e.HasSamples) (id : String) (file : ByteArray)
    (box : Envelope α) :
    (∃ r, e.read ⟨.wrapping, number⟩ id (.ok file) box = .ok r) ↔
      file.size = e.declaredSize % 2 ^ 64 ∧ e.Readable file.size (e.rowsOf box) := by
  have hwindow := windowSize_wrapping e (e.rowsOf box)
  by_cases hsize : file.size = e.declaredSize % 2 ^ 64
  · simp only [read_eq_ok_iff hsize, Raster.make_eq_ok]
    constructor
    · rintro ⟨r, bands, hbands, -, hcount, -⟩
      obtain ⟨hin, hdata⟩ := of_readBands hwindow hbands
      have hne : bands ≠ [] := by
        rintro rfl
        rw [readBands_eq hwindow] at hbands
        exact mapM_ne_nil (by simpa using h.bandNames_ne) hbands
      obtain ⟨b, hb⟩ := List.exists_mem_of_ne_nil bands hne
      refine ⟨hsize, fun i hi => ?_, partSize_div_eq_iff.mp ((hdata b hb).symm.trans (hcount b hb))⟩
      obtain ⟨offset, hoffset, hpart⟩ := hin i hi
      rw [offset_wrapping, Except.ok.injEq] at hoffset
      exact hoffset ▸ hpart
    · rintro ⟨-, hreadable⟩
      obtain ⟨bands, hbands⟩ := exists_readBands hwindow fun i hi =>
        ⟨_, offset_wrapping e i _, hreadable.inFile i hi⟩
      refine ⟨_, bands, hbands, ⟨h.width_pos, (fits_rowsOf h.height_pos box).length_pos⟩, ?_, rfl⟩
      intro b hb
      rw [(of_readBands hwindow hbands).2 b hb]
      exact partSize_div_eq_iff.mpr hreadable.cells_lt
  · simp only [read_eq_error id box hsize, reduceCtorEq, exists_false, hsize, false_and]

theorem read_congr (h : e.HasSamples) (hs : e.declaredSize < 2 ^ 64) (id : String)
    (file : ByteArray) (box : Envelope α) :
    e.read ⟨.checked, number⟩ id (.ok file) box = e.read ⟨.wrapping, number⟩ id (.ok file) box := by
  have hr := fits_rowsOf h.height_pos box
  have hbands : 0 < e.bandNames.length := List.length_pos_iff.mpr h.bandNames_ne
  have hsame : e.readBands .checked file (e.rowsOf box) =
      e.readBands .wrapping file (e.rowsOf box) := by
    apply readBands_congr
    · rw [windowSize_of_lt hs hr hbands, windowSize_of_lt hs hr hbands]
    · intro i hi
      rw [offset_of_lt hs hr hi h.width_pos, offset_of_lt hs hr hi h.width_pos]
  simp only [read, expectedSize_of_lt hs h.height_pos, hsame]
  rfl

theorem read_checked_of_le (hs : 2 ^ 64 ≤ e.declaredSize) (id : String) (file : ByteArray)
    (box : Envelope α) :
    e.read ⟨.checked, number⟩ id (.ok file) box =
      .error (.invalid id (ReadTask.overflowMessage ⟨.checked, number⟩ .multiply)) := by
  rw [read]
  simp only [expectedSize_checked_of_le hs]

/-- In a build that wraps, the size that a file must have is the one of all samples as a word, and
files of other sizes are refused. Up to the greatest place in a file the files that are taken are
just those with a sample for every cell. Where the size of all samples is no word, every file that
is taken is too short. With overflow checks such a size stops the task, and the service is told of
invalid data; every other size is a word, and the builds agree. -/
theorem read_takes (h : e.HasSamples) (number : ℕ) (id : String) (file : ByteArray)
    (box : Envelope α) :
    ((∃ r, e.read ⟨.wrapping, number⟩ id (.ok file) box = .ok r) ↔
      file.size = e.declaredSize % 2 ^ 64 ∧ e.Readable file.size (e.rowsOf box)) ∧
    (file.size ≠ e.declaredSize % 2 ^ 64 →
      e.read ⟨.wrapping, number⟩ id (.ok file) box =
        .error (.invalid id (e.sizeMessage file.size (e.declaredSize % 2 ^ 64)))) ∧
    (∀ r, e.read ⟨.wrapping, number⟩ id (.ok file) box = .ok r →
      if e.declaredSize < 2 ^ 64 then file.size = e.declaredSize
      else file.size < e.declaredSize) ∧
    (e.declaredSize ≤ 2 ^ 63 →
      ((∃ r, e.read ⟨.wrapping, number⟩ id (.ok file) box = .ok r) ↔
        file.size = e.declaredSize)) ∧
    (∀ r, e.read ⟨.checked, number⟩ id (.ok file) box = .ok r → file.size = e.declaredSize) ∧
    e.read ⟨.checked, number⟩ id (.ok file) box =
      if e.declaredSize < 2 ^ 64 then e.read ⟨.wrapping, number⟩ id (.ok file) box
      else .error (.invalid id (ReadTask.overflowMessage ⟨.checked, number⟩ .multiply)) := by
  have htaken := exists_read_iff number h id file box
  have hlength (r : Raster α σ) (hr : e.read ⟨.wrapping, number⟩ id (.ok file) box = .ok r) :
      if e.declaredSize < 2 ^ 64 then file.size = e.declaredSize
      else file.size < e.declaredSize := by
    obtain ⟨hsize, -⟩ := htaken.mp ⟨r, hr⟩
    split <;> omega
  have hchecked : e.read ⟨.checked, number⟩ id (.ok file) box =
      if e.declaredSize < 2 ^ 64 then e.read ⟨.wrapping, number⟩ id (.ok file) box
      else .error (.invalid id (ReadTask.overflowMessage ⟨.checked, number⟩ .multiply)) := by
    by_cases hs : e.declaredSize < 2 ^ 64
    · rw [if_pos hs, read_congr h hs]
    · rw [if_neg hs, read_checked_of_le (not_lt.mp hs)]
  refine ⟨htaken, read_eq_error id box, hlength, fun hs => ?_, fun r hr => ?_, hchecked⟩
  · rw [htaken, Nat.mod_eq_of_lt (by omega), and_iff_left_iff_imp]
    intro hsize
    rw [hsize]
    exact readable_of_lt h hs (fits_rowsOf h.height_pos box)
  · rw [hchecked] at hr
    by_cases hs : e.declaredSize < 2 ^ 64
    · rw [if_pos hs] at hr
      have := hlength r hr
      rwa [if_pos hs] at this
    · rw [if_neg hs] at hr
      exact absurd hr (by simp)

section Wide

def wideEntry : RawFileEntry Exact Float32 where
  path := "grid.f32"
  width := 2 ^ 32
  height := 2 ^ 32
  bandNames := ["a"]
  noData := [none]
  envelope := .plane ⟨0, 4⟩ ⟨0, 4⟩ (some (.ofCode .wgs84))
  crs := .ofCode .wgs84

/-- An empty file is taken for the samples of all these cells, unless overflow is checked. -/
theorem read_takes_nothing : wideEntry.HasSamples ∧ wideEntry.declaredSize = 2 ^ 66 ∧
    (∃ r, wideEntry.read ⟨.wrapping, 7⟩ "grid" (.ok ByteArray.empty) wideEntry.envelope = .ok r) ∧
    wideEntry.read ⟨.checked, 7⟩ "grid" (.ok ByteArray.empty) wideEntry.envelope =
      .error (.invalid "grid" (ReadTask.overflowMessage ⟨.checked, 7⟩ .multiply)) := by
  have h : wideEntry.HasSamples := ⟨by decide, by decide, by decide⟩
  obtain ⟨htaken, -, -, -, -, hchecked⟩ :=
    read_takes h 7 "grid" ByteArray.empty wideEntry.envelope
  have hrows : wideEntry.rowsOf wideEntry.envelope = ⟨0, 2 ^ 32⟩ := by decide +kernel
  refine ⟨h, rfl, htaken.mpr ⟨rfl, ?_⟩, hchecked.trans (if_neg (by decide))⟩
  rw [hrows]
  refine ⟨fun i hi => ?_, by decide⟩
  obtain rfl : i = 0 := Nat.lt_one_iff.mp hi
  exact ⟨by decide, .inl rfl⟩

end Wide

end RawFileEntry

end GeoRaster
