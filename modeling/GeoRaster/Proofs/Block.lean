import GeoRaster.Proofs.CellSpan

namespace GeoRaster

variable {σ : Type}

section Cells

variable {width height col row : ℕ}

theorem cellIndex_lt (hcol : col < width) (hrow : row < height) :
    row * width + col < width * height := by
  rw [Nat.mul_comm row, Nat.mul_comm width height]
  exact Nat.mul_add_lt_mul_of_lt_of_lt hrow hcol

theorem exists_getElem? {data : Array σ} (hs : data.size = width * height) (hcol : col < width)
    (hrow : row < height) : ∃ v, data[row * width + col]? = some v :=
  ⟨_, Array.getElem?_eq_getElem (hs ▸ cellIndex_lt hcol hrow)⟩

end Cells

section Pieces

variable {f : ℕ → Array σ} {w n : ℕ}

def joined (f : ℕ → Array σ) (n : ℕ) : Array σ :=
  (List.range n).foldl (fun data j => data ++ f j) #[]

theorem joined_succ (f : ℕ → Array σ) (n : ℕ) : joined f (n + 1) = joined f n ++ f n := by
  simp [joined, List.range_succ]

theorem size_joined (hf : ∀ j < n, (f j).size = w) : (joined f n).size = n * w := by
  induction n with
  | zero => simp [joined]
  | succ n ih =>
    have hn := ih fun j hj => hf j (by omega)
    rw [joined_succ, Array.size_append, hn, hf n (by omega)]
    ring

theorem getElem?_joined (hf : ∀ j < n, (f j).size = w) {j i : ℕ} (hj : j < n) (hi : i < w) :
    (joined f n)[j * w + i]? = (f j)[i]? := by
  induction n with
  | zero => omega
  | succ n ih =>
    have hfn : ∀ j < n, (f j).size = w := fun j hj => hf j (by omega)
    have hs := size_joined hfn
    rw [joined_succ]
    by_cases hjn : j = n
    · subst hjn
      rw [Array.getElem?_append_right (by omega), hs, Nat.add_sub_cancel_left]
    · have hlt : j * w + i < n * w := by
        have : (j + 1) * w ≤ n * w := Nat.mul_le_mul_right w (by omega)
        linarith
      rw [Array.getElem?_append_left (by omega)]
      exact ih hfn (by omega)

theorem eq_of_rows {a b : Array σ} (ha : a.size = n * w) (hb : b.size = n * w)
    (h : ∀ j < n, ∀ i < w, a[j * w + i]? = b[j * w + i]?) : a = b := by
  apply Array.ext_getElem?
  intro k
  by_cases hk : k < n * w
  · have hw : 0 < w := Nat.pos_of_ne_zero fun h0 => by simp [h0] at hk
    have := h (k / w) ((Nat.div_lt_iff_lt_mul hw).mpr hk) (k % w) (Nat.mod_lt k hw)
    rwa [Nat.div_add_mod'] at this
  · rw [Array.getElem?_eq_none (by omega), Array.getElem?_eq_none (by omega)]

end Pieces

namespace Band

variable {b : Band σ} {width height : ℕ} {cols rows : CellSpan}

theorem block_data (b : Band σ) (width : ℕ) (cols rows : CellSpan) :
    (b.block width cols rows).data =
      joined (fun j => b.data.extract ((rows.first + j) * width + cols.first)
        ((rows.first + j) * width + cols.stop)) rows.length := rfl

theorem size_row (hb : b.data.size = width * height) (hc : cols.stop ≤ width)
    (hr : rows.stop ≤ height) : ∀ j < rows.length,
      (b.data.extract ((rows.first + j) * width + cols.first)
        ((rows.first + j) * width + cols.stop)).size = cols.length := by
  intro j hj
  have hrow : rows.first + j + 1 ≤ height := by
    simp only [CellSpan.length] at hj
    omega
  have := Nat.mul_le_mul_right width hrow
  rw [Array.size_extract, hb, CellSpan.length]
  have hle : (rows.first + j) * width + cols.stop ≤ width * height := by linarith
  omega

theorem size_block (hb : b.data.size = width * height) (hc : cols.stop ≤ width)
    (hr : rows.stop ≤ height) :
    (b.block width cols rows).data.size = cols.length * rows.length := by
  rw [block_data, size_joined (size_row hb hc hr), Nat.mul_comm]

theorem getElem?_block (hb : b.data.size = width * height) (hc : cols.stop ≤ width)
    (hr : rows.stop ≤ height) {j i : ℕ} (hj : j < rows.length) (hi : i < cols.length) :
    (b.block width cols rows).data[j * cols.length + i]? =
      b.data[(rows.first + j) * width + (cols.first + i)]? := by
  have hs := size_row hb hc hr j hj
  rw [block_data, getElem?_joined (size_row hb hc hr) hj hi, Array.getElem?_extract, if_pos]
  · congr 1
    omega
  · rw [Array.size_extract] at hs
    omega

theorem withData_eq {data : Array σ} (h : data = b.data) : b.withData data = b := by
  subst h
  rfl

theorem block_all (hb : b.data.size = width * height) :
    b.block width ⟨0, width⟩ ⟨0, height⟩ = b := by
  have hs : (b.block width ⟨0, width⟩ ⟨0, height⟩).data.size = width * height :=
    size_block hb le_rfl le_rfl
  have hd : (b.block width ⟨0, width⟩ ⟨0, height⟩).data = b.data := by
    refine eq_of_rows (hs.trans (Nat.mul_comm _ _)) (hb.trans (Nat.mul_comm _ _)) ?_
    intro j hj i hi
    have hc : (⟨0, width⟩ : CellSpan).stop ≤ width := le_rfl
    have hr : (⟨0, height⟩ : CellSpan).stop ≤ height := le_rfl
    have hin := getElem?_block hb hc hr hj hi
    simp only [CellSpan.length, Nat.sub_zero, Nat.zero_add] at hin
    exact hin
  exact withData_eq hd

theorem block_rows (hb : b.data.size = width * height)
    (hr : rows.stop ≤ height) :
    (b.block width ⟨0, width⟩ rows).data =
      b.data.extract (rows.first * width) (rows.stop * width) := by
  have hs : (b.block width ⟨0, width⟩ rows).data.size = width * rows.length :=
    size_block hb le_rfl hr
  have hle := Nat.mul_le_mul_right width hr
  have he : (b.data.extract (rows.first * width) (rows.stop * width)).size =
      rows.length * width := by
    rw [Array.size_extract, hb, CellSpan.length, Nat.sub_mul, Nat.mul_comm width height]
    omega
  refine eq_of_rows (hs.trans (Nat.mul_comm _ _)) he ?_
  intro j hj i hi
  have hc : (⟨0, width⟩ : CellSpan).stop ≤ width := le_rfl
  have hin := getElem?_block hb hc hr hj hi
  simp only [CellSpan.length, Nat.sub_zero, Nat.zero_add] at hin
  have hlt := cellIndex_lt hi hj
  rw [Nat.mul_comm width] at hlt
  rw [hin, Array.getElem?_extract, if_pos]
  · congr 1
    ring
  · rw [← he, Array.size_extract] at hlt
    omega

theorem block_block (hb : b.data.size = width * height) (hc : cols.stop ≤ width)
    (hr : rows.stop ≤ height) :
    (b.block width ⟨0, width⟩ rows).block width cols ⟨0, rows.length⟩ =
      b.block width cols rows := by
  have hw : (b.block width ⟨0, width⟩ rows).data.size = width * rows.length :=
    size_block hb le_rfl hr
  have hall : (⟨0, width⟩ : CellSpan).stop ≤ width := le_rfl
  have hrest : (⟨0, rows.length⟩ : CellSpan).stop ≤ rows.length := le_rfl
  have hs := size_block hw hc hrest
  have hd : ((b.block width ⟨0, width⟩ rows).block width cols ⟨0, rows.length⟩).data =
      (b.block width cols rows).data := by
    refine eq_of_rows (hs.trans (Nat.mul_comm _ _))
      ((size_block hb hc hr).trans (Nat.mul_comm _ _)) ?_
    intro j hj i hi
    have hi' : cols.first + i < width := by
      simp only [CellSpan.length] at hi
      omega
    have hin := getElem?_block hw hc hrest hj hi
    have hout := getElem?_block hb hall hr hj hi'
    simp only [Nat.zero_add, CellSpan.length, Nat.sub_zero] at hin hout
    exact hin.trans (hout.trans (getElem?_block hb hc hr hj hi).symm)
  exact congrArg (fun data => Band.mk b.name data b.noData) hd

end Band

end GeoRaster
