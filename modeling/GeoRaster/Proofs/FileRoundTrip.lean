import GeoRaster.Proofs.Encoding
import GeoRaster.Proofs.FileLength

namespace GeoRaster

/-- Where all faults are the same, it does not matter which one comes first. -/
theorem mapM_eq_error {α β ε : Type} {f : α → Except ε β} {e : ε} {as : List α}
    (hall : ∀ a ∈ as, f a = .error e ∨ ∃ b, f a = .ok b) (hsome : ∃ a ∈ as, f a = .error e) :
    as.mapM f = .error e := by
  induction as with
  | nil => simp at hsome
  | cons a as ih =>
    rw [List.forall_mem_cons] at hall
    rw [List.mapM_cons, bind_eq_error]
    obtain ha | ⟨b, hb⟩ := hall.1
    · exact .inl ha
    · refine .inr ⟨b, hb, bind_eq_error.mpr (.inl (ih hall.2 ?_))⟩
      obtain ha | hrest := (List.exists_mem_cons_iff ..).mp hsome
      · rw [hb] at ha
        exact absurd ha (by simp)
      · exact hrest

namespace RawFileEntry

variable {α : Type} {e : RawFileEntry α Float32} {bands : List (Band Float32)}
  {build : Build} {rows : CellSpan} {i : ℕ}

/-- The entry gives the layout of some bands, each with a sample for every cell. -/
structure LaysOut (e : RawFileEntry α Float32) (bands : List (Band Float32)) : Prop where
  width_pos : 0 < e.width
  height_pos : 0 < e.height
  length_eq : e.bandNames.length = bands.length
  size_eq : ∀ b ∈ bands, b.data.size = e.width * e.height

def bandRows (e : RawFileEntry α Float32) (bands : List (Band Float32)) (rows : CellSpan) :
    List (Band Float32) :=
  (e.bandNames.zip bands).zipIdx.map fun p =>
    ⟨p.1.1, p.1.2.data.extract (rows.first * e.width) (rows.stop * e.width), (e.noData[p.2]?).join⟩

namespace LaysOut

theorem declaredSize_eq (h : e.LaysOut bands) : e.declaredSize = (encodeBands bands).size := by
  rw [declaredSize, size_encodeBands h.size_eq, h.length_eq]

variable (h : e.LaysOut bands) (hs : (encodeBands bands).size < 2 ^ 64)

include h

omit h in
theorem place_add_partSize (hr : rows.Fits e.height) :
    e.place i rows + e.partSize rows = 4 * (i * (e.width * e.height) + rows.stop * e.width) := by
  have hle := Nat.mul_le_mul_right e.width hr.first_lt.le
  have hlength : rows.length * e.width = rows.stop * e.width - rows.first * e.width := by
    rw [CellSpan.length, Nat.sub_mul]
  have hplace : e.place i rows = 4 * (i * (e.width * e.height) + rows.first * e.width) := by
    rw [place]
    ring
  rw [hplace, partSize]
  omega

theorem place_add_partSize_le (hr : rows.Fits e.height) (hi : i < bands.length) :
    e.place i rows + e.partSize rows ≤ (encodeBands bands).size :=
  h.declaredSize_eq ▸ end_le_declaredSize hr (h.length_eq ▸ hi)

theorem partSize_pos (hr : rows.Fits e.height) : 0 < e.partSize rows := by
  have hpos : 0 < rows.length * e.width := Nat.mul_pos hr.length_pos h.width_pos
  rw [partSize]
  omega

/-- In a file that is no longer than the words of places reach, all places are such words. -/
theorem place_lt (hfile : (encodeBands bands).size ≤ 2 ^ 63) (hr : rows.Fits e.height)
    (hi : i < bands.length) : e.place i rows < 2 ^ 63 := by
  have hpos := h.partSize_pos hr
  have hinside := h.place_add_partSize_le hr hi
  omega

theorem readPart_eq (hr : rows.Fits e.height) {b : Band Float32} (hi : bands[i]? = some b)
    (hsigned : e.place i rows < 2 ^ 63) :
    ∃ part, readPart (encodeBands bands) (e.place i rows) (e.partSize rows) = .ok part ∧
      decodeSamples part = b.data.extract (rows.first * e.width) (rows.stop * e.width) := by
  have hlt : i < bands.length := (List.getElem?_eq_some_iff.mp hi).1
  have hpos := h.partSize_pos hr
  have hend := place_add_partSize (e := e) (i := i) hr
  have hinside := h.place_add_partSize_le hr hlt
  have hplace : e.place i rows = 4 * (i * (e.width * e.height) + rows.first * e.width) := by
    rw [place]
    ring
  have hword : Nat.pow 2 63 = 2 ^ 63 := rfl
  have hstop : rows.stop * e.width ≤ e.width * e.height := by
    rw [Nat.mul_comm e.width]
    exact Nat.mul_le_mul_right _ hr.stop_le
  refine ⟨_, by rw [readPart, if_neg (by omega), if_neg (by omega), if_pos hinside], ?_⟩
  rw [hend, hplace]
  exact decodeSamples_extract h.size_eq hi (Nat.mul_le_mul_right _ hr.first_lt.le) hstop

omit h in
theorem readPart_error (hsigned : 2 ^ 63 ≤ e.place i rows) :
    readPart (encodeBands bands) (e.place i rows) (e.partSize rows) =
      .error "Invalid argument (os error 22)" := by
  have hword : Nat.pow 2 63 = 2 ^ 63 := rfl
  rw [readPart, if_pos (by omega)]

include hs

theorem expectedSize_eq : e.expectedSize build = .ok (encodeBands bands).size := by
  rw [← h.declaredSize_eq]
  exact expectedSize_of_lt (h.declaredSize_eq ▸ hs) h.height_pos

theorem offset_eq (hr : rows.Fits e.height) (hi : i < bands.length) :
    e.offset build i rows = .ok (e.place i rows) :=
  offset_of_lt (h.declaredSize_eq ▸ hs) hr (h.length_eq ▸ hi) h.width_pos

theorem windowSize_eq (hr : rows.Fits e.height) (hi : i < bands.length) :
    e.windowSize build rows = .ok (e.partSize rows) :=
  windowSize_of_lt (h.declaredSize_eq ▸ hs) hr (h.length_eq ▸ hi)

theorem readBand_eq (hr : rows.Fits e.height) {b : Band Float32} (hi : bands[i]? = some b)
    (hsigned : e.place i rows < 2 ^ 63) (name : String) :
    e.readBand build (encodeBands bands) rows (e.partSize rows) name i =
      .ok ⟨name, b.data.extract (rows.first * e.width) (rows.stop * e.width),
        (e.noData[i]?).join⟩ := by
  obtain ⟨part, hpart, hdata⟩ := h.readPart_eq hr hi hsigned
  rw [readBand, h.offset_eq hs hr (List.getElem?_eq_some_iff.mp hi).1, ← hdata]
  simp only [Except.mapError, bind, Except.bind, hpart]
  rfl

theorem readBand_error (hr : rows.Fits e.height) (hi : i < bands.length)
    (hsigned : 2 ^ 63 ≤ e.place i rows) (name : String) :
    e.readBand build (encodeBands bands) rows (e.partSize rows) name i =
      .error (.io "Invalid argument (os error 22)") := by
  rw [readBand, h.offset_eq hs hr hi]
  simp only [Except.mapError, bind, Except.bind, readPart_error hsigned]

theorem exists_windowSize (hr : rows.Fits e.height) (hbuild : build = .wrapping ∨ bands ≠ []) :
    ∃ size, e.windowSize build rows = .ok size ∧ (bands ≠ [] → size = e.partSize rows) := by
  by_cases hbands : bands = []
  · obtain rfl := hbuild.resolve_right (not_not.mpr hbands)
    exact ⟨_, windowSize_wrapping e rows, fun hne => absurd hbands hne⟩
  · exact ⟨_, h.windowSize_eq hs hr (List.length_pos_iff.mpr hbands), fun _ => rfl⟩

theorem readBands_eq (hr : rows.Fits e.height) (hbuild : build = .wrapping ∨ bands ≠ [])
    (hsigned : ∀ i < bands.length, e.place i rows < 2 ^ 63) :
    e.readBands build (encodeBands bands) rows = .ok (e.bandRows bands rows) := by
  have hnames : e.bandNames.zipIdx =
      (e.bandNames.zip bands).zipIdx.map (Prod.map Prod.fst id) := by
    rw [← List.zipIdx_map, List.map_fst_zip h.length_eq.le]
  obtain ⟨size, hsize, hpart⟩ := h.exists_windowSize hs hr hbuild
  rw [RawFileEntry.readBands_eq hsize, hnames, List.mapM_map]
  apply mapM_eq_ok
  rintro ⟨⟨name, b⟩, i⟩ hmem
  have hi : bands[i]? = some b :=
    (List.getElem?_zip_eq_some.mp (List.mem_zipIdx_iff_getElem?.mp hmem)).2
  obtain rfl := hpart (List.ne_nil_of_mem (List.mem_of_getElem? hi))
  exact h.readBand_eq hs hr hi (hsigned i (List.getElem?_eq_some_iff.mp hi).1) name

theorem readBands_error (hr : rows.Fits e.height)
    (hsigned : ∃ i < bands.length, 2 ^ 63 ≤ e.place i rows) :
    e.readBands build (encodeBands bands) rows = .error (.io "Invalid argument (os error 22)") := by
  obtain ⟨i, hi, hword⟩ := hsigned
  rw [RawFileEntry.readBands_eq (h.windowSize_eq hs hr hi)]
  apply mapM_eq_error
  · rintro ⟨name, i⟩ hmem
    have hi : i < bands.length := by
      rw [← h.length_eq]
      exact (List.getElem?_eq_some_iff.mp (List.mem_zipIdx_iff_getElem?.mp hmem)).1
    by_cases hword : 2 ^ 63 ≤ e.place i rows
    · exact .inl (h.readBand_error hs hr hi hword name)
    · exact .inr ⟨_, h.readBand_eq hs hr (List.getElem?_eq_getElem hi) (not_le.mp hword) name⟩
  · have hname : i < e.bandNames.length := h.length_eq ▸ hi
    exact ⟨(e.bandNames[i], i), List.mem_zipIdx_iff_getElem?.mpr (List.getElem?_eq_getElem hname),
      h.readBand_error hs hr hi hword _⟩

end LaysOut

variable [Scalar α]

def rowsRaster (e : RawFileEntry α Float32) (bands : List (Band Float32)) (rows : CellSpan) :
    Raster α Float32 where
  width := e.width
  height := rows.length
  bands := e.bandRows bands rows
  envelope :=
    let b := e.envelope.bounds
    .ofCorners (b.minX, b.maxY - Scalar.ofNat rows.stop * e.rowHeight)
      (b.maxX, b.maxY - Scalar.ofNat rows.first * e.rowHeight) (some e.crs.eastingFirst)
  crs := e.crs.eastingFirst

theorem LaysOut.make_eq (h : e.LaysOut bands) (hs : (encodeBands bands).size < 2 ^ 64)
    (hr : rows.Fits e.height) :
    Raster.make e.width rows.length (e.bandRows bands rows) (e.rowsEnvelope rows) e.crs =
      .ok (e.rowsRaster bands rows) := by
  refine Raster.make_eq_ok.mpr ⟨⟨h.width_pos, hr.length_pos⟩, ?_, rfl⟩
  intro c hc
  obtain ⟨⟨⟨name, b⟩, i⟩, hmem, rfl⟩ := List.mem_map.mp hc
  have hi : bands[i]? = some b :=
    (List.getElem?_zip_eq_some.mp (List.mem_zipIdx_iff_getElem?.mp hmem)).2
  have hstop : rows.stop * e.width ≤ e.width * e.height := by
    rw [Nat.mul_comm e.width]
    exact Nat.mul_le_mul_right _ hr.stop_le
  have hlength : e.width * rows.length = rows.stop * e.width - rows.first * e.width := by
    rw [Nat.mul_comm, CellSpan.length, Nat.sub_mul]
  have hword : e.width * rows.length < 2 ^ 64 := by
    have hinside := h.place_add_partSize_le hr (List.getElem?_eq_some_iff.mp hi).1
    rw [partSize] at hinside
    rw [Nat.mul_comm]
    omega
  have hsize : b.data.size = e.width * e.height := h.size_eq b (List.mem_of_getElem? hi)
  have hcount : Raster.sampleCount e.width rows.length = e.width * rows.length :=
    Nat.mod_eq_of_lt hword
  show (b.data.extract (rows.first * e.width) (rows.stop * e.width)).size = _
  rw [Array.size_extract, hcount]
  omega

theorem LaysOut.read_eq (h : e.LaysOut bands) (hs : (encodeBands bands).size < 2 ^ 64)
    {task : ReadTask} (hbuild : task.build = .wrapping ∨ bands ≠ []) (id : String)
    (box : Envelope α) :
    e.read task id (.ok (encodeBands bands)) box =
      if ∀ i < bands.length, e.place i (e.rowsOf box) < 2 ^ 63 then
        .ok (e.rowsRaster bands (e.rowsOf box))
      else .error (.io id "Invalid argument (os error 22)") := by
  have hr := fits_rowsOf h.height_pos box
  rw [read]
  simp only [h.expectedSize_eq hs, ne_eq, not_true_eq_false, if_false]
  by_cases hsigned : ∀ i < bands.length, e.place i (e.rowsOf box) < 2 ^ 63
  · rw [if_pos hsigned]
    simp only [h.readBands_eq hs hr hbuild hsigned, h.make_eq hs hr]
  · rw [if_neg hsigned]
    simp only [not_forall, not_lt, exists_prop] at hsigned
    simp only [h.readBands_error hs hr hsigned]

/-- The file of some bands gives back some of their rows, and all of them if the box misses the
raster. No part that is read reaches beyond the end of the file. The fault is that of files longer
than `2 ^ 63` bytes, which no system has: places in a file are signed words. -/
theorem read_encodeBands (h : e.LaysOut bands) (hs : (encodeBands bands).size < 2 ^ 64)
    (task : ReadTask) (hbuild : task.build = .wrapping ∨ bands ≠ []) (id : String)
    (box : Envelope α) :
    ∃ rows : CellSpan, rows.first < rows.stop ∧ rows.stop ≤ e.height ∧
      (¬ (e.envelope.dimension = box.dimension ∧ e.envelope.overlaps box = true) →
        rows = ⟨0, e.height⟩) ∧
      (∀ i < bands.length, e.offset task.build i rows = .ok (e.place i rows) ∧
        e.windowSize task.build rows = .ok (e.partSize rows) ∧
        e.place i rows + e.partSize rows ≤ (encodeBands bands).size) ∧
      ((encodeBands bands).size ≤ 2 ^ 63 → ∀ i < bands.length, e.place i rows < 2 ^ 63) ∧
      e.read task id (.ok (encodeBands bands)) box =
        if ∀ i < bands.length, e.place i rows < 2 ^ 63 then .ok (e.rowsRaster bands rows)
        else .error (.io id "Invalid argument (os error 22)") := by
  have hr := fits_rowsOf h.height_pos box
  refine ⟨e.rowsOf box, hr.first_lt, hr.stop_le, ?_, ?_, ?_, h.read_eq hs hbuild id box⟩
  · exact fun hoff => rowsOf_eq_all (if_neg hoff)
  · exact fun i hi =>
      ⟨h.offset_eq hs hr hi, h.windowSize_eq hs hr hi, h.place_add_partSize_le hr hi⟩
  · exact fun hfile i hi => h.place_lt hfile hr hi

section Small

def twoBands : List (Band Float32) :=
  [⟨"a", #[1, 2, 3, 4], none⟩, ⟨"b", #[5, 0.0 / 0.0, 7, 8], none⟩]

def twoBandsEntry : RawFileEntry Float Float32 where
  path := "grid.f32"
  width := 2
  height := 2
  bandNames := ["a", "b"]
  noData := [none, some 7]
  envelope := .ofBounds ⟨0, 0, 4, 2⟩ (some ⟨.wgs84, .eastingFirst⟩)
  crs := ⟨.wgs84, .eastingFirst⟩

theorem read_encodeBands_twoBands :
    twoBandsEntry.LaysOut twoBands ∧ (encodeBands twoBands).size = 32 ∧
      twoBandsEntry.read ⟨.checked, 1⟩ "grid" (.ok (encodeBands twoBands))
          (.ofBounds ⟨0, 2, 4, 5⟩ none) =
        .ok (twoBandsEntry.rowsRaster twoBands ⟨0, 2⟩) := by
  have hlays : twoBandsEntry.LaysOut twoBands := by
    constructor <;> decide
  have hsize : (encodeBands twoBands).size = 32 := size_encodeBands hlays.size_eq
  have hoff : ¬ (twoBandsEntry.envelope.dimension =
        (Envelope.ofBounds ⟨0, 2, 4, 5⟩ none : Envelope Float).dimension ∧
      twoBandsEntry.envelope.overlaps (.ofBounds ⟨0, 2, 4, 5⟩ none) = true) := by
    decide +kernel
  obtain ⟨rows, -, -, hall, -, hsigned, hread⟩ :=
    read_encodeBands hlays (by omega) ⟨.checked, 1⟩ (.inr (by decide)) "grid"
      (.ofBounds ⟨0, 2, 4, 5⟩ none)
  rw [if_pos (hsigned (by omega)), hall hoff] at hread
  exact ⟨hlays, hsize, hread⟩

end Small

end RawFileEntry

end GeoRaster
