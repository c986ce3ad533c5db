import GeoRaster.Proofs.Plane

namespace GeoRaster.CellSpan

/-- The part of a cell that does not count. -/
def margin : ℚ := 1e-6

def reached (size : ℕ) (a : Interval ℚ) : CellSpan :=
  let first := min ⌊a.min + margin⌋₊ (size - 1)
  ⟨first, min (max ⌈a.max - margin⌉₊ (first + 1)) size⟩

theorem margin_pos : 0 < margin := by
  norm_num [margin]

theorem margin_lt_one : margin < 1 := by
  norm_num [margin]

@[simp]
theorem snap_exact : (snap : Exact) = .finite margin :=
  Exact.ofScientific_eq 1 true 6

theorem floor_max_floor (x : ℚ) : ⌊max (⌊x⌋ : ℚ) 0⌋₊ = ⌊x⌋₊ := by
  rcases le_or_gt 0 x with hx | hx
  · have hf : (0 : ℚ) ≤ ⌊x⌋ := by exact_mod_cast Int.floor_nonneg.mpr hx
    rw [max_eq_left hf, ← Int.floor_toNat, Int.floor_intCast, Int.floor_toNat]
  · have hf : (⌊x⌋ : ℚ) ≤ 0 := (Int.floor_le x).trans hx.le
    rw [max_eq_right hf, Nat.floor_zero, Nat.floor_of_nonpos hx.le]

theorem floor_max_ceil (x : ℚ) : ⌊max (⌈x⌉ : ℚ) 0⌋₊ = ⌈x⌉₊ := by
  rcases le_or_gt 0 x with hx | hx
  · have hf : (0 : ℚ) ≤ ⌈x⌉ := by exact_mod_cast Int.ceil_nonneg hx
    rw [max_eq_left hf, ← Int.floor_toNat, Int.floor_intCast, Int.ceil_toNat]
  · have hf : (⌈x⌉ : ℚ) ≤ 0 := by exact_mod_cast Int.ceil_le.mpr (by simpa using hx.le)
    rw [max_eq_right hf, Nat.floor_zero, Nat.ceil_eq_zero.mpr hx.le]

theorem between_finite {size : ℕ} (h : size < 2 ^ 64) (lower upper : ℚ) :
    between size (Exact.finite lower) (.finite upper) = reached size ⟨lower, upper⟩ := by
  simp only [between, reached, snap_exact, Exact.zero_eq, Exact.finite_add, Exact.finite_sub,
    Exact.floor_finite, Exact.ceil_finite, Exact.max_finite, Exact.toCount_finite, floor_max_floor,
    floor_max_ceil, mk.injEq]
  omega

variable {size : ℕ} {a : Interval ℚ}

theorem first_lt_stop (h : 0 < size) : (reached size a).first < (reached size a).stop := by
  simp only [reached]
  omega

theorem stop_le (size : ℕ) (a : Interval ℚ) : (reached size a).stop ≤ size :=
  min_le_right _ _

theorem length_pos (h : 0 < size) : 0 < (reached size a).length :=
  Nat.sub_pos_of_lt (first_lt_stop h)

theorem reached_eq_all (h : 0 < size) (hl : a.min + margin < 1) (hu : size - 1 < a.max - margin) :
    reached size a = ⟨0, size⟩ := by
  have hf : ⌊a.min + margin⌋₊ = 0 := Nat.floor_eq_zero.mpr hl
  have hc : size - 1 < ⌈a.max - margin⌉₊ := by
    apply Nat.lt_ceil.mpr
    rw [Nat.cast_sub h]
    exact_mod_cast hu
  simp only [reached, hf, mk.injEq]
  omega

/-- What is left of the interval within the reached cells, counted from the first of them, reaches
every one of them. -/
theorem reached_inner (h : 0 < size) :
    let s := reached size a
    reached s.length ⟨max a.min s.first - s.first, min a.max s.stop - s.first⟩ =
      ⟨0, s.length⟩ := by
  intro s
  have hs : s.first < s.stop := first_lt_stop h
  have hm := margin_pos
  have hm' := margin_lt_one
  have hlen : (s.length : ℚ) = s.stop - s.first := by
    rw [length, Nat.cast_sub hs.le]
  have hstop : s.stop = min (max ⌈a.max - margin⌉₊ (s.first + 1)) size := rfl
  have hfirst : s.first = min ⌊a.min + margin⌋₊ (size - 1) := rfl
  -- A span of one cell is reached whatever the interval is.
  by_cases hone : s.length = 1
  · rw [hone]
    simp [reached]
  have hlong : s.first + 1 < s.stop := by
    simp only [length] at hone
    omega
  have hceil : s.stop ≤ ⌈a.max - margin⌉₊ := by omega
  have hfloor : s.first = ⌊a.min + margin⌋₊ := by omega
  apply reached_eq_all (length_pos h)
  · have hlt := Nat.lt_floor_add_one (a.min + margin)
    rw [← hfloor] at hlt
    rcases max_choice a.min (s.first : ℚ) with hc | hc <;> simp only [hc] <;> linarith
  · have hlt : (s.stop : ℚ) - 1 < a.max - margin := by
      have := Nat.lt_ceil.mp (show s.stop - 1 < ⌈a.max - margin⌉₊ by omega)
      rwa [Nat.cast_sub (by omega), Nat.cast_one] at this
    rcases min_choice a.max (s.stop : ℚ) with hc | hc <;> simp only [hc] <;> linarith

end GeoRaster.CellSpan
