import GeoRaster.Proofs.KernelTaps

namespace GeoRaster

namespace Kernel

def line (a b t : ℚ) : ℚ :=
  a + (b - a) * t

/-- The cubic from `q` at zero to `r` at one, with slopes `(r - p) / 2` and `(s - q) / 2`. -/
def spline (p q r s t : ℚ) : ℚ :=
  q + (r - p) / 2 * t + (2 * p - 5 * q + 4 * r - s) / 2 * t ^ 2 +
    (s - p + 3 * (q - r)) / 2 * t ^ 3

@[simp]
theorem lerp_finite (a b t : ℚ) :
    lerp (Exact.finite a) (.finite b) (.finite t) = .finite (line a b t) := by
  simp only [lerp, line, Exact.finite_sub, Exact.finite_mul, Exact.finite_add]

@[simp]
theorem catmullRom_finite (p q r s t : ℚ) :
    catmullRom (Exact.finite p) (.finite q) (.finite r) (.finite s) (.finite t) =
      .finite (spline p q r s t) := by
  simp only [catmullRom, Exact.ofScientific_eq, Exact.neg_finite, Exact.finite_sub,
    Exact.finite_mul, Exact.finite_add, Exact.finite.injEq, spline]
  norm_num
  ring

theorem line_zero (a b : ℚ) : line a b 0 = a := by
  rw [line, mul_zero, add_zero]

theorem spline_zero (p q r s : ℚ) : spline p q r s 0 = q := by
  simp [spline]

theorem line_mem {l u a b t : ℚ} (ha : a ∈ Set.Icc l u) (hb : b ∈ Set.Icc l u)
    (ht : t ∈ Set.Icc 0 1) : line a b t ∈ Set.Icc l u := by
  have h := (convex_Icc l u).lineMap_mem ha hb ht
  rwa [AffineMap.lineMap_apply_ring', mul_comm, add_comm] at h

theorem line_linear (u v i t : ℚ) :
    line (u + v * i) (u + v * (i + 1)) t = u + v * (i + t) := by
  rw [line]
  ring

/-- The slopes are those of the parabola through the samples. -/
theorem spline_quadratic (u v w i t : ℚ) :
    spline (u + v * (i - 1) + w * (i - 1) ^ 2) (u + v * i + w * i ^ 2)
      (u + v * (i + 1) + w * (i + 1) ^ 2) (u + v * (i + 2) + w * (i + 2) ^ 2) t =
      u + v * (i + t) + w * (i + t) ^ 2 := by
  rw [spline]
  ring

end Kernel

namespace SampleGrid

open Kernel

def moved (size : ℕ) (t : ℚ) : ℚ :=
  min (max t 0) ((size - 1 : ℕ) : ℚ)

def before (size : ℕ) (t : ℚ) : ℕ :=
  ⌊moved size t⌋₊

def past (size : ℕ) (t : ℚ) : ℚ :=
  moved size t - before size t

/-- The cell `d` cells behind the one before a position, or the border cell on that side. -/
def tapIndex (size : ℕ) (t : ℚ) (d : ℤ) : ℕ :=
  min (before size t + d).toNat (size - 1)

def linearAlong (size : ℕ) (t : ℚ) (f : ℕ → ℚ) : ℚ :=
  line (f (tapIndex size t 0)) (f (tapIndex size t 1)) (past size t)

def cubicAlong (size : ℕ) (t : ℚ) (f : ℕ → ℚ) : ℚ :=
  spline (f (tapIndex size t (-1))) (f (tapIndex size t 0)) (f (tapIndex size t 1))
    (f (tapIndex size t 2)) (past size t)

section Along

variable {size : ℕ} {t : ℚ} {f : ℕ → ℚ}

theorem moved_mem (size : ℕ) (t : ℚ) : moved size t ∈ Set.Icc 0 ((size - 1 : ℕ) : ℚ) :=
  ⟨le_min (le_max_right _ _) (Nat.cast_nonneg _), min_le_right _ _⟩

theorem moved_of_mem (h : t ∈ Set.Icc 0 ((size : ℚ) - 1)) : moved size t = t := by
  have hsize : (size : ℚ) ≤ ((size - 1 : ℕ) : ℚ) + 1 := by
    exact_mod_cast Nat.le_add_of_sub_le le_rfl
  rw [moved, max_eq_left h.1, min_eq_left (h.2.trans (sub_le_iff_le_add.mpr hsize))]

theorem before_le (size : ℕ) (t : ℚ) : before size t ≤ size - 1 :=
  (Nat.floor_mono (moved_mem size t).2).trans_eq (Nat.floor_natCast _)

theorem past_mem (size : ℕ) (t : ℚ) : past size t ∈ Set.Ico 0 1 := by
  have hl := Nat.floor_le (moved_mem size t).1
  have hu := Nat.lt_floor_add_one (moved size t)
  constructor <;> simp only [past, before] <;> linarith

theorem before_add_past (size : ℕ) (t : ℚ) : (before size t : ℚ) + past size t = moved size t :=
  add_sub_cancel _ _

theorem tapIndex_lt (h : 0 < size) (t : ℚ) (d : ℤ) : tapIndex size t d < size := by
  rw [tapIndex]
  omega

theorem tapIndex_eq {d : ℤ} {k : ℕ} (hd : before size t + d = k) (hk : k < size) :
    tapIndex size t d = k := by
  rw [tapIndex, hd]
  omega

theorem tapIndex_zero (size : ℕ) (t : ℚ) : tapIndex size t 0 = before size t := by
  have := before_le size t
  rw [tapIndex]
  omega

theorem linearAlong_mem {l u : ℚ} (h₀ : f (tapIndex size t 0) ∈ Set.Icc l u)
    (h₁ : f (tapIndex size t 1) ∈ Set.Icc l u) : linearAlong size t f ∈ Set.Icc l u :=
  line_mem h₀ h₁ (Set.Ico_subset_Icc_self (past_mem size t))

theorem past_eq_zero_or (size : ℕ) (t : ℚ) : past size t = 0 ∨ before size t + 1 < size := by
  rcases Nat.lt_or_ge (before size t + 1) size with h | h
  · exact .inr h
  · have hlast : ((size - 1 : ℕ) : ℚ) ≤ before size t := by
      exact_mod_cast Nat.sub_le_of_le_add h
    have hle := (moved_mem size t).2.trans hlast
    exact .inl (le_antisymm (sub_nonpos.mpr hle) (past_mem size t).1)

theorem linearAlong_of_past (h : past size t = 0) : linearAlong size t f = f (before size t) := by
  rw [linearAlong, h, line_zero, tapIndex_zero]

theorem cubicAlong_of_past (h : past size t = 0) : cubicAlong size t f = f (before size t) := by
  rw [cubicAlong, h, spline_zero, tapIndex_zero]

theorem before_eq_of_past (h : past size t = 0) : (before size t : ℚ) = moved size t := by
  rw [← before_add_past size t, h, add_zero]

theorem moved_natCast {i : ℕ} (h : i < size) : moved size i = i := by
  have hle : (i : ℚ) + 1 ≤ size := by exact_mod_cast h
  exact moved_of_mem ⟨Nat.cast_nonneg i, by linarith⟩

theorem before_natCast {i : ℕ} (h : i < size) : before size i = i := by
  rw [before, moved_natCast h, Nat.floor_natCast]

theorem past_natCast {i : ℕ} (h : i < size) : past size i = 0 := by
  rw [past, moved_natCast h, before_natCast h, sub_self]

theorem linearAlong_linear (h : 0 < size) {u v : ℚ} (hf : ∀ i < size, f i = u + v * i) :
    linearAlong size t f = u + v * moved size t := by
  have hlt : before size t < size := (before_le size t).trans_lt (Nat.sub_one_lt_of_lt h)
  obtain hpast | hnext := past_eq_zero_or size t
  · rw [linearAlong_of_past hpast, hf _ hlt, before_eq_of_past hpast]
  · have hone : tapIndex size t 1 = before size t + 1 := tapIndex_eq rfl hnext
    rw [linearAlong, tapIndex_zero, hone, hf _ hlt, hf _ hnext, Nat.cast_succ, line_linear,
      before_add_past]

/-- Away from the border cells no sample is repeated that counts. -/
theorem cubicAlong_quadratic {u v w : ℚ} (hf : ∀ i < size, f i = u + v * i + w * i ^ 2)
    (ht : t ∈ Set.Icc 1 ((size : ℚ) - 2)) : cubicAlong size t f = u + v * t + w * t ^ 2 := by
  obtain ⟨hl, hu⟩ := ht
  have hmoved : moved size t = t := moved_of_mem ⟨by linarith, by linarith⟩
  have hlow : 1 ≤ before size t := by
    rw [before, hmoved]
    exact Nat.le_floor (by exact_mod_cast hl)
  have hsum := before_add_past size t
  rw [hmoved] at hsum
  by_cases hpast : past size t = 0
  · have hlt : before size t < size := by
      have := before_le size t
      omega
    rw [cubicAlong_of_past hpast, hf _ hlt, before_eq_of_past hpast, hmoved]
  · have hpos : 0 < past size t := lt_of_le_of_ne (past_mem size t).1 (Ne.symm hpast)
    have hlast : before size t + 2 < size := by
      have : (before size t : ℚ) + 2 < size := by linarith
      exact_mod_cast this
    have hprev : tapIndex size t (-1) = before size t - 1 := tapIndex_eq (by omega) (by omega)
    have hone : tapIndex size t 1 = before size t + 1 := tapIndex_eq rfl (by omega)
    have htwo : tapIndex size t 2 = before size t + 2 := tapIndex_eq rfl hlast
    rw [cubicAlong, tapIndex_zero, hprev, hone, htwo, hf _ (by omega), hf _ (by omega),
      hf _ (by omega), hf _ hlast]
    push_cast [Nat.cast_sub hlow]
    rw [spline_quadratic, hsum]

end Along

/-- A grid with a number for every cell. It has few enough columns and rows that the indices around
them are 64-bit words. -/
structure Samples (g : SampleGrid Exact) (f : ℕ → ℕ → ℚ) : Prop where
  width_pos : 0 < g.width
  height_pos : 0 < g.height
  width_lt : g.width < 2 ^ 62
  height_lt : g.height < 2 ^ 62
  getElem?_eq : ∀ col < g.width, ∀ row < g.height,
    g.data[row * g.width + col]? = some (.finite (f col row))

/-- A grid without missing samples holds a number for every cell. -/
theorem exists_samples {data : Array Exact} {width height : ℕ} (hw : 0 < width) (hh : 0 < height)
    (hwidth : width < 2 ^ 62) (hheight : height < 2 ^ 62) (hsize : data.size = width * height)
    (hfinite : ∀ v ∈ data, ∃ q, v = .finite q) :
    ∃ f, (⟨data, width, height⟩ : SampleGrid Exact).Samples f := by
  have hcell : ∀ col row, ∃ q, col < width → row < height →
      data[row * width + col]? = some (.finite q) := by
    intro col row
    by_cases hin : col < width ∧ row < height
    · obtain ⟨v, hv⟩ := exists_getElem? hsize hin.1 hin.2
      obtain ⟨q, rfl⟩ := hfinite v (Array.mem_of_getElem? hv)
      exact ⟨q, fun _ _ => hv⟩
    · exact ⟨0, fun hcol hrow => absurd ⟨hcol, hrow⟩ hin⟩
  choose f hf using hcell
  exact ⟨f, hw, hh, hwidth, hheight, fun col hcol row hrow => hf col row hcol hrow⟩

section Index

variable {size : ℕ} {t : ℚ}

theorem onto_finite (size : ℕ) (t : ℚ) : onto size (Exact.finite t) = .finite (moved size t) := by
  rw [onto, Exact.zero_eq, Exact.ofNat_eq, Exact.clamp_finite]
  rfl

theorem fraction_finite (size : ℕ) (t : ℚ) :
    (fraction size (Exact.finite t) : Exact) = .finite (past size t) := by
  rw [fraction, onto_finite, Exact.floor_finite, Exact.finite_sub,
    ← Int.natCast_floor_eq_floor (moved_mem size t).1]
  rfl

theorem toInt_base (h : size < 2 ^ 62) (t : ℚ) :
    (base size (Exact.finite t)).toInt = before size t := by
  have hle := before_le size t
  rw [base, onto_finite, Exact.floor_finite, ← Int.natCast_floor_eq_floor (moved_mem size t).1]
  exact Exact.toInt_toInt64_of_mem (by omega) (by rw [before] at hle; omega)

theorem clampIndex_base_add (h : size < 2 ^ 62) (t : ℚ) {d : Int64} {k : ℤ} (hk : d.toInt = k)
    (hl : -2 ≤ k) (hu : k ≤ 2) :
    clampIndex size (base size (Exact.finite t) + d) = tapIndex size t k := by
  have hle := before_le size t
  have hsum : (base size (Exact.finite t) + d).toInt = before size t + k := by
    rw [Int64.toInt_add, toInt_base h, hk]
    exact Int.bmod_eq_of_le (by omega) (by omega)
  rw [clampIndex_eq_min, hsum, tapIndex]

theorem clampIndex_around (h : size < 2 ^ 62) (t : ℚ) :
    let i := base size (Exact.finite t)
    clampIndex size (i - 1) = tapIndex size t (-1) ∧
      clampIndex size i = tapIndex size t 0 ∧
      clampIndex size (i + 1) = tapIndex size t 1 ∧
      clampIndex size (i + 2) = tapIndex size t 2 := by
  intro i
  have hprev : clampIndex size (i + -1) = tapIndex size t (-1) :=
    clampIndex_base_add h t rfl (by norm_num) (by norm_num)
  have hself : clampIndex size (i + 0) = tapIndex size t 0 :=
    clampIndex_base_add h t rfl (by norm_num) (by norm_num)
  rw [← Int64.sub_eq_add_neg] at hprev
  rw [Int64.add_zero] at hself
  exact ⟨hprev, hself, clampIndex_base_add h t rfl (by norm_num) (by norm_num),
    clampIndex_base_add h t rfl (by norm_num) le_rfl⟩

end Index

section Exactness

variable {g : SampleGrid Exact} {f : ℕ → ℕ → ℚ}

theorem Samples.tap_eq (h : g.Samples f) (x y : ℚ) {i j : Int64} {k l : ℤ}
    (hi : clampIndex g.width i = tapIndex g.width x k)
    (hj : clampIndex g.height j = tapIndex g.height y l) :
    g.tap i j = .finite (f (tapIndex g.width x k) (tapIndex g.height y l)) := by
  rw [tap, hi, hj, h.getElem?_eq _ (tapIndex_lt h.width_pos x k) _ (tapIndex_lt h.height_pos y l)]
  rfl

theorem Samples.sample_bilinear (h : g.Samples f) (x y : ℚ) :
    g.sample .bilinear (Exact.finite x) (.finite y) =
      .finite (linearAlong g.height y fun row => linearAlong g.width x fun col => f col row) := by
  obtain ⟨-, hi, hi₁, -⟩ := clampIndex_around h.width_lt x
  obtain ⟨-, hj, hj₁, -⟩ := clampIndex_around h.height_lt y
  rw [g.sample_bilinear_eq _ _ rfl rfl (fraction_finite _ _) (fraction_finite _ _),
    h.tap_eq x y hi hj, h.tap_eq x y hi₁ hj, h.tap_eq x y hi hj₁, h.tap_eq x y hi₁ hj₁]
  simp only [Exact.isNaN_finite, Bool.or_self, Bool.false_eq_true, ↓reduceIte, lerp_finite]
  rfl

theorem Samples.cubicRow?_eq (h : g.Samples f) (x y : ℚ) {j : Int64} {l : ℤ}
    (hj : clampIndex g.height j = tapIndex g.height y l) :
    g.cubicRow? (base g.width (Exact.finite x)) j (.finite (past g.width x)) =
      some (.finite (cubicAlong g.width x fun col => f col (tapIndex g.height y l))) := by
  obtain ⟨hi, hi₁, hi₂, hi₃⟩ := clampIndex_around h.width_lt x
  rw [cubicRow?, h.tap_eq x y hi hj, h.tap_eq x y hi₁ hj, h.tap_eq x y hi₂ hj, h.tap_eq x y hi₃ hj]
  simp only [Exact.isNaN_finite, Bool.or_self, Bool.false_eq_true, ↓reduceIte, catmullRom_finite]
  rfl

theorem Samples.sample_cubic (h : g.Samples f) (x y : ℚ) :
    g.sample .cubic (Exact.finite x) (.finite y) =
      .finite (cubicAlong g.height y fun row => cubicAlong g.width x fun col => f col row) := by
  obtain ⟨hj, hj₁, hj₂, hj₃⟩ := clampIndex_around h.height_lt y
  rw [g.sample_cubic_of_rows _ _ rfl rfl (fraction_finite _ _) (fraction_finite _ _)
    (h.cubicRow?_eq x y hj) (h.cubicRow?_eq x y hj₁) (h.cubicRow?_eq x y hj₂)
    (h.cubicRow?_eq x y hj₃), catmullRom_finite]
  rfl

theorem Samples.sample_nearest (h : g.Samples f) (x y : ℚ) :
    g.sample .nearest (Exact.finite x) (.finite y) =
      .finite (f (CellSpan.cellAt g.width (x + 1 / 2)) (CellSpan.cellAt g.height (y + 1 / 2))) := by
  have hw := h.width_lt
  have hh := h.height_lt
  have heq := g.sample_nearest h.width_pos (by omega) h.height_pos (by omega) (x + 1 / 2)
    (y + 1 / 2)
  rw [add_sub_cancel_right, add_sub_cancel_right,
    h.getElem?_eq _ (CellSpan.cellAt_lt h.width_pos _) _ (CellSpan.cellAt_lt h.height_pos _)] at heq
  exact heq

/-- At the centre of a cell every kernel gives its sample. -/
theorem Samples.sample_centre (h : g.Samples f) (method : Interpolation) {col row : ℕ}
    (hcol : col < g.width) (hrow : row < g.height) :
    g.sample method (Exact.finite col) (.finite row) = .finite (f col row) := by
  cases method with
  | nearest => rw [h.sample_nearest, CellSpan.cellAt_half hcol, CellSpan.cellAt_half hrow]
  | bilinear =>
    rw [h.sample_bilinear, linearAlong_of_past (past_natCast hrow), before_natCast hrow,
      linearAlong_of_past (past_natCast hcol), before_natCast hcol]
  | cubic =>
    rw [h.sample_cubic, cubicAlong_of_past (past_natCast hrow), before_natCast hrow,
      cubicAlong_of_past (past_natCast hcol), before_natCast hcol]

theorem abs_cellAt_sub_moved (size : ℕ) (t : ℚ) :
    |(CellSpan.cellAt size (t + 1 / 2) : ℚ) - moved size t| ≤ 1 / 2 := by
  have hround : Exact.roundRat (moved size t) = CellSpan.cellAt size (t + 1 / 2) := by
    have hclamp := Exact.roundRat_clamp (t + 1 / 2) (size - 1)
    rwa [add_sub_cancel_right] at hclamp
  rw [Exact.roundRat, if_pos (moved_mem size t).1] at hround
  have hfloor : (⌊moved size t + 1 / 2⌋ : ℚ) = CellSpan.cellAt size (t + 1 / 2) := by
    exact_mod_cast hround
  have hl := Int.floor_le (moved size t + 1 / 2)
  have hu := Int.lt_floor_add_one (moved size t + 1 / 2)
  rw [hfloor] at hl hu
  rw [abs_le]
  constructor <;> linarith

/-- A polynomial of degree at most two in the column and at most two in the row. -/
def biquadratic (c : Fin 3 → Fin 3 → ℚ) (x y : ℚ) : ℚ :=
  ∑ m, ∑ n, c m n * x ^ (m : ℕ) * y ^ (n : ℕ)

theorem biquadratic_eq (c : Fin 3 → Fin 3 → ℚ) (x y : ℚ) :
    biquadratic c x y = (c 0 0 + c 0 1 * y + c 0 2 * y ^ 2) +
      (c 1 0 + c 1 1 * y + c 1 2 * y ^ 2) * x + (c 2 0 + c 2 1 * y + c 2 2 * y ^ 2) * x ^ 2 := by
  simp only [biquadratic, Fin.sum_univ_three, Fin.val_zero, Fin.val_one, Fin.val_two]
  ring

/-- What the kernels keep of a field that is sampled on a grid. -/
structure Keeps (g : SampleGrid Exact) (f : ℕ → ℕ → ℚ) : Prop where
  /-- A field that is linear along both axes comes back everywhere between the border centres. -/
  bilinear : ∀ a b c d : ℚ,
    (∀ col < g.width, ∀ row < g.height, f col row = a + b * col + c * row + d * col * row) →
    ∀ x ∈ Set.Icc 0 ((g.width : ℚ) - 1), ∀ y ∈ Set.Icc 0 ((g.height : ℚ) - 1),
      g.sample .bilinear (Exact.finite x) (.finite y) = .finite (a + b * x + c * y + d * x * y)
  /-- The bilinear kernel stays between the least and the greatest of the four samples. -/
  between : ∀ x y : ℚ,
    let p := f (tapIndex g.width x 0) (tapIndex g.height y 0)
    let q := f (tapIndex g.width x 1) (tapIndex g.height y 0)
    let r := f (tapIndex g.width x 0) (tapIndex g.height y 1)
    let s := f (tapIndex g.width x 1) (tapIndex g.height y 1)
    ∃ v ∈ Set.Icc (min (min p q) (min r s)) (max (max p q) (max r s)),
      g.sample .bilinear (Exact.finite x) (.finite y) = .finite v
  /-- A field that is quadratic along both axes comes back a cell away from the border centres. -/
  cubic : ∀ c : Fin 3 → Fin 3 → ℚ,
    (∀ col < g.width, ∀ row < g.height, f col row = biquadratic c col row) →
    ∀ x ∈ Set.Icc 1 ((g.width : ℚ) - 2), ∀ y ∈ Set.Icc 1 ((g.height : ℚ) - 2),
      g.sample .cubic (Exact.finite x) (.finite y) = .finite (biquadratic c x y)
  /-- The nearest sample belongs to a cell with its centre half a cell away at most. -/
  nearest : ∀ x y : ℚ, ∃ col < g.width, ∃ row < g.height,
    g.sample .nearest (Exact.finite x) (.finite y) = .finite (f col row) ∧
      |(col : ℚ) - moved g.width x| ≤ 1 / 2 ∧ |(row : ℚ) - moved g.height y| ≤ 1 / 2

theorem Samples.keeps (h : g.Samples f) : g.Keeps f := by
  constructor
  case bilinear =>
    intro a b c d hf x hx y hy
    have hrows : ∀ row < g.height,
        linearAlong g.width x (fun col => f col row) = (a + b * x) + (c + d * x) * row := by
      intro row hrow
      have hlinear : ∀ col < g.width, f col row = (a + c * row) + (b + d * row) * col := by
        intro col hcol
        rw [hf col hcol row hrow]
        ring
      rw [linearAlong_linear h.width_pos hlinear, moved_of_mem hx]
      ring
    rw [h.sample_bilinear, linearAlong_linear h.height_pos hrows, moved_of_mem hy]
    congr 1
    ring
  case between =>
    intro x y p q r s
    refine ⟨_, ?_, h.sample_bilinear x y⟩
    apply linearAlong_mem <;> apply linearAlong_mem <;> constructor <;> simp [p, q, r, s]
  case cubic =>
    intro c hf x hx y hy
    have hrows : ∀ row < g.height, cubicAlong g.width x (fun col => f col row) =
        (c 0 0 + c 1 0 * x + c 2 0 * x ^ 2) + (c 0 1 + c 1 1 * x + c 2 1 * x ^ 2) * row +
          (c 0 2 + c 1 2 * x + c 2 2 * x ^ 2) * row ^ 2 := by
      intro row hrow
      have hquadratic : ∀ col < g.width, f col row =
          (c 0 0 + c 0 1 * row + c 0 2 * row ^ 2) + (c 1 0 + c 1 1 * row + c 1 2 * row ^ 2) * col +
            (c 2 0 + c 2 1 * row + c 2 2 * row ^ 2) * col ^ 2 := by
        intro col hcol
        rw [hf col hcol row hrow, biquadratic_eq]
      rw [cubicAlong_quadratic hquadratic hx]
      ring
    rw [h.sample_cubic, cubicAlong_quadratic hrows hy, biquadratic_eq]
    congr 1
    ring
  case nearest =>
    intro x y
    exact ⟨_, CellSpan.cellAt_lt h.width_pos _, _, CellSpan.cellAt_lt h.height_pos _,
      h.sample_nearest x y, abs_cellAt_sub_moved _ x, abs_cellAt_sub_moved _ y⟩

end Exactness

section Bowl

def bowl (col row : ℕ) : ℚ :=
  col ^ 2 + col * row

def bowlGrid : SampleGrid Exact :=
  ⟨Pattern.ofFn 5 4 fun col row => Exact.finite (bowl col row), 5, 4⟩

theorem bowlGrid_samples : bowlGrid.Samples bowl where
  width_pos := by decide
  height_pos := by decide
  width_lt := by decide
  height_lt := by decide
  getElem?_eq _ hcol _ hrow :=
    Pattern.getElem?_ofFn (fun col row => Exact.finite (bowl col row)) hcol hrow

theorem keeps_bowl :
    bowlGrid.Samples bowl ∧ bowlGrid.Keeps bowl ∧
      bowlGrid.sample .cubic (Exact.finite (3 / 2)) (.finite 2) = .finite (21 / 4) :=
  ⟨bowlGrid_samples, bowlGrid_samples.keeps, by decide +kernel⟩

end Bowl

end SampleGrid

end GeoRaster
