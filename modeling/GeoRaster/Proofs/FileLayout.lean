import GeoRaster.Proofs.Bandwise
import GeoRaster.Reader.RawFile

namespace GeoRaster

namespace Build

variable {build : Build} {o : Overflow} {a b n : ℕ}

theorem word_of_lt (h : n < 2 ^ 64) : build.word o n = .ok n := by
  cases build with
  | checked => exact if_pos h
  | wrapping => exact congrArg Except.ok (Nat.mod_eq_of_lt h)

theorem word_checked_of_le (h : 2 ^ 64 ≤ n) : checked.word o n = .error o :=
  if_neg (not_lt.mpr h)

theorem product_of_lt (h : a * b < 2 ^ 64) : build.product a b = .ok (a * b) :=
  word_of_lt h

theorem sum_of_lt (h : a + b < 2 ^ 64) : build.sum a b = .ok (a + b) :=
  word_of_lt h

end Build

namespace RawFileEntry

variable {α σ : Type} {e : RawFileEntry α σ} {build : Build} {rows : CellSpan} {i : ℕ}

/-- The bytes that all samples take. -/
def declaredSize (e : RawFileEntry α σ) : ℕ :=
  4 * (e.bandNames.length * (e.width * e.height))

/-- The bytes before some rows of a band. -/
def place (e : RawFileEntry α σ) (i : ℕ) (rows : CellSpan) : ℕ :=
  4 * ((i * e.height + rows.first) * e.width)

def partSize (e : RawFileEntry α σ) (rows : CellSpan) : ℕ :=
  4 * (rows.length * e.width)

structure HasSamples (e : RawFileEntry α σ) : Prop where
  width_pos : 0 < e.width
  height_pos : 0 < e.height
  bandNames_ne : e.bandNames ≠ []

theorem declaredSize_eq_mul (e : RawFileEntry α σ) :
    e.declaredSize = e.bandNames.length * e.width * e.height * SampleWord.bytes := by
  rw [declaredSize, SampleWord.bytes, Nat.mul_comm 4, Nat.mul_assoc e.bandNames.length e.width]

section Wrapping

theorem expectedSize_wrapping (e : RawFileEntry α σ) :
    e.expectedSize .wrapping = .ok (e.declaredSize % 2 ^ 64) := by
  rw [declaredSize_eq_mul, ← Nat.mod_mul_mod, ← Nat.mod_mul_mod (e.bandNames.length * e.width)]
  rfl

theorem windowSize_wrapping (e : RawFileEntry α σ) (rows : CellSpan) :
    e.windowSize .wrapping rows = .ok (e.partSize rows % 2 ^ 64) := by
  rw [partSize, Nat.mul_comm 4, ← Nat.mod_mul_mod]
  rfl

theorem offset_wrapping (e : RawFileEntry α σ) (i : ℕ) (rows : CellSpan) :
    e.offset .wrapping i rows = .ok (e.place i rows % 2 ^ 64) := by
  rw [place, Nat.mul_comm 4, ← Nat.mod_mul_mod, ← Nat.mod_mul_mod (i * e.height + rows.first),
    ← Nat.mod_add_mod (i * e.height)]
  rfl

end Wrapping

theorem expectedSize_checked_of_le (hs : 2 ^ 64 ≤ e.declaredSize) :
    e.expectedSize .checked = .error .multiply := by
  rw [declaredSize_eq_mul] at hs
  rw [expectedSize]
  by_cases hcolumns : e.bandNames.length * e.width < 2 ^ 64
  · rw [Build.product_of_lt hcolumns]
    by_cases hcells : e.bandNames.length * e.width * e.height < 2 ^ 64
    · simp only [bind, Except.bind, Build.product_of_lt hcells]
      exact Build.word_checked_of_le hs
    · simp only [bind, Except.bind, Build.product, Build.word_checked_of_le (not_lt.mp hcells)]
  · rw [Build.product, Build.word_checked_of_le (not_lt.mp hcolumns)]
    rfl

section Exact

variable (hs : e.declaredSize < 2 ^ 64)

include hs

theorem expectedSize_of_lt (hh : 0 < e.height) : e.expectedSize build = .ok e.declaredSize := by
  have hcolumns := Nat.le_mul_of_pos_right (e.bandNames.length * e.width) hh
  rw [declaredSize_eq_mul, SampleWord.bytes] at hs
  rw [expectedSize, Build.product_of_lt (by omega)]
  simp only [bind, Except.bind]
  rw [Build.product_of_lt (by omega)]
  exact (Build.product_of_lt hs).trans (congrArg Except.ok e.declaredSize_eq_mul.symm)

variable (hr : rows.Fits e.height) (hi : i < e.bandNames.length)

include hr hi

omit hs in
/-- The rows of a band end inside the file. -/
theorem end_le_declaredSize : e.place i rows + e.partSize rows ≤ e.declaredSize := by
  have hstop := hr.stop_le
  have hfirst := hr.first_lt
  have hrows : i * e.height + rows.first + rows.length ≤ e.bandNames.length * e.height :=
    calc i * e.height + rows.first + rows.length
        ≤ (i + 1) * e.height := by rw [Nat.succ_mul, CellSpan.length]; omega
      _ ≤ e.bandNames.length * e.height := Nat.mul_le_mul_right _ hi
  calc e.place i rows + e.partSize rows
      = 4 * ((i * e.height + rows.first + rows.length) * e.width) := by rw [place, partSize]; ring
    _ ≤ 4 * (e.bandNames.length * e.height * e.width) :=
        Nat.mul_le_mul_left _ (Nat.mul_le_mul_right _ hrows)
    _ = e.declaredSize := by rw [declaredSize, Nat.mul_comm e.width, Nat.mul_assoc]

theorem windowSize_of_lt : e.windowSize build rows = .ok (e.partSize rows) := by
  have hend := end_le_declaredSize hr hi
  have hpart : e.partSize rows = rows.length * e.width * SampleWord.bytes := Nat.mul_comm ..
  rw [hpart, SampleWord.bytes] at hend
  rw [windowSize, Build.product_of_lt (by omega)]
  exact (Build.product_of_lt (by rw [SampleWord.bytes]; omega)).trans
    (congrArg Except.ok hpart.symm)

theorem offset_of_lt (hw : 0 < e.width) : e.offset build i rows = .ok (e.place i rows) := by
  have hend := end_le_declaredSize hr hi
  have hplace : e.place i rows = (i * e.height + rows.first) * e.width * SampleWord.bytes :=
    Nat.mul_comm ..
  have hrow := Nat.le_mul_of_pos_right (i * e.height + rows.first) hw
  rw [hplace, SampleWord.bytes] at hend
  rw [offset, Build.product_of_lt (by omega)]
  simp only [bind, Except.bind]
  rw [Build.sum_of_lt (by omega)]
  simp only
  rw [Build.product_of_lt (by omega)]
  exact (Build.product_of_lt (by rw [SampleWord.bytes]; omega)).trans
    (congrArg Except.ok hplace.symm)

end Exact

section Rows

variable [Scalar α] {box : Envelope α}

theorem rowsOf_eq_all (h : e.envelope.meet? box = none) :
    e.rowsOf box = ⟨0, e.height⟩ := by
  rw [rowsOf, h]

theorem fits_rowsOf (h : 0 < e.height) (box : Envelope α) : (e.rowsOf box).Fits e.height := by
  rw [rowsOf]
  split
  · exact CellSpan.fits_all h
  · exact CellSpan.fits_between h _ _

end Rows

end RawFileEntry

end GeoRaster
