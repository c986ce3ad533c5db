import GeoRaster.Proofs.Ground
import Mathlib.Tactic.LinearCombination

namespace GeoRaster

namespace Interval

def bound (a : Interval ℚ) : Bool → ℚ
  | false => a.min
  | true => a.max

def unit (k : ℚ) : Interval ℚ :=
  ⟨k, k + 1⟩

end Interval

/-- A way to lay one rectangle onto another: are columns and rows exchanged, and which axes of the
ground run against the indices? -/
structure Laying where
  turned : Bool
  flipX : Bool
  flipY : Bool
  deriving DecidableEq

/-- Every cell of a grid of `w × h` cells lands on the cell of its own column and row, counted from
the west and from the north. -/
def Laying.Fits (l : Laying) (w h : ℕ) : Prop :=
  (l.turned = true → w = 1 ∧ h = 1) ∧ (l.flipX = true → w = 1) ∧ (l.flipY = false → h = 1)

instance (l : Laying) (w h : ℕ) : Decidable (l.Fits w h) :=
  inferInstanceAs (Decidable (_ ∧ _ ∧ _))

namespace Affine

/-- The map takes the corners of a block of cells to those of a rectangle, up to `dx` and `dy`. -/
def Lands (t : Affine ℚ) (l : Laying) (cols rows x y : Interval ℚ) (dx dy : ℚ) : Prop :=
  ∀ i j : Bool,
    |t.easting (cols.bound i) (rows.bound j) -
        x.bound (xor l.flipX (if l.turned then j else i))| ≤ dx ∧
      |t.northing (cols.bound i) (rows.bound j) -
        y.bound (xor l.flipY (if l.turned then i else j))| ≤ dy

/-- The map takes every cell, counted from the indices `k` and `m` on, to the ground that a raster
of `w × h` cells over `x` and `y` assigns to it. -/
def MapsCells (t : Affine ℚ) (k m : ℤ) (x y : Interval ℚ) (w h : ℕ) (dx dy : ℚ) : Prop :=
  ∀ col row : ℕ, col < w → row < h →
    ∃ l : Laying, t.Lands l (.unit (k + col)) (.unit (m + row)) (x.groundUp w ⟨col, col + 1⟩)
      (y.groundDown h ⟨row, row + 1⟩) dx dy

variable {t : Affine ℚ} {l : Laying} {x y : Interval ℚ} {w h : ℕ} {k m : ℤ} {dx dy : ℚ}

theorem abs_between_le {p b c n d : ℚ} (hc : 0 ≤ c) (hn : c ≤ n) (h₀ : |p| ≤ d)
    (h₁ : |p + b * n| ≤ d) : |p + b * c| ≤ d := by
  rw [abs_le] at h₀ h₁ ⊢
  rcases le_total 0 b with hb | hb
  · have := mul_nonneg hb hc
    have := mul_le_mul_of_nonneg_left hn hb
    constructor <;> linarith
  · have := mul_nonneg_of_nonpos_of_nonpos hb (neg_nonpos.mpr hc)
    have := mul_le_mul_of_nonpos_left hn hb
    constructor <;> linarith

theorem abs_affine_le {p a b u v c r d : ℚ} (hc : 0 ≤ c) (hu : c ≤ u) (hr : 0 ≤ r) (hv : r ≤ v)
    (h₀₀ : |p| ≤ d) (h₁₀ : |p + a * u| ≤ d) (h₀₁ : |p + b * v| ≤ d)
    (h₁₁ : |p + a * u + b * v| ≤ d) : |p + a * c + b * r| ≤ d := by
  have hlow : |p + b * r| ≤ d := abs_between_le hr hv h₀₀ h₀₁
  have hhigh : |p + a * u + b * r| ≤ d := abs_between_le hr hv h₁₀ h₁₁
  have h := abs_between_le (b := a) hc hu hlow (by rwa [add_right_comm])
  rwa [add_right_comm] at h

/-- A coordinate that starts near one end of an interval and stops near the other one keeps to the
lines that divide the interval. -/
theorem abs_line_le {a b e p q k m u v c r d : ℚ} (hu₀ : u ≠ 0) (hc : 0 ≤ c) (hu : c ≤ u)
    (hr : 0 ≤ r) (hv : r ≤ v) (h₀₀ : |a * k + b * m + e - p| ≤ d)
    (h₁₀ : |a * (k + u) + b * m + e - q| ≤ d) (h₀₁ : |a * k + b * (m + v) + e - p| ≤ d)
    (h₁₁ : |a * (k + u) + b * (m + v) + e - q| ≤ d) :
    |a * (k + c) + b * (m + r) + e - (p + c * ((q - p) / u))| ≤ d := by
  have hq : (q - p) / u * u = q - p := div_mul_cancel₀ _ hu₀
  have h := abs_affine_le (p := a * k + b * m + e - p) (a := a - (q - p) / u) (b := b) (d := d)
    hc hu hr hv h₀₀ ?_ ?_ ?_
  · convert h using 2
    ring
  · convert h₁₀ using 2
    linear_combination -hq
  · convert h₀₁ using 2
    ring
  · convert h₁₁ using 2
    linear_combination -hq

end Affine

namespace Interval

variable {x y : Interval ℚ} {w h col row : ℕ} {flip : Bool}

theorem bound_unit (k : ℚ) (i : Bool) : (unit k).bound i = k + i.toNat := by
  cases i <;> simp [bound, unit]

theorem length_column (x : Interval ℚ) (w col : ℕ) :
    (x.groundUp w ⟨col, col + 1⟩).length = x.cell w := by
  rw [length_groundUp _ _ (Nat.le_succ col)]
  simp [CellSpan.length]

theorem length_row (y : Interval ℚ) (h row : ℕ) :
    (y.groundDown h ⟨row, row + 1⟩).length = y.cell h := by
  rw [length_groundDown _ _ (Nat.le_succ row)]
  simp [CellSpan.length]

theorem bound_groundUp (hcol : col < w) (hf : flip = true → w = 1) (i : Bool) :
    (x.groundUp w ⟨col, col + 1⟩).bound (xor flip i) =
      x.bound flip + (col + i.toNat) * ((x.bound (!flip) - x.bound flip) / w) := by
  cases flip with
  | false => cases i <;> simp [bound, groundUp, cell, length]
  | true =>
    obtain rfl := hf rfl
    obtain rfl : col = 0 := by omega
    cases i <;> simp [bound, groundUp, cell, length]

theorem bound_groundDown (hrow : row < h) (hf : flip = false → h = 1) (j : Bool) :
    (y.groundDown h ⟨row, row + 1⟩).bound (xor flip j) =
      y.bound flip + (row + j.toNat) * ((y.bound (!flip) - y.bound flip) / h) := by
  cases flip with
  | false =>
    obtain rfl := hf rfl
    obtain rfl : row = 0 := by omega
    cases j <;> simp [bound, groundDown, cell, length]
  | true =>
    cases j
    · simp [bound, groundDown, cell, length]
      ring
    · simp [bound, groundDown, cell, length]
      ring

end Interval

namespace Affine

variable {t : Affine ℚ} {l : Laying} {x y : Interval ℚ} {w h : ℕ} {k m : ℤ} {dx dy : ℚ}

/-- A grid whose outer corners land on those of the ground puts every cell where it belongs. -/
theorem Lands.mapsCells (hw : 0 < w) (hh : 0 < h) (hf : l.Fits w h)
    (hl : t.Lands l ⟨k, k + w⟩ ⟨m, m + h⟩ x y dx dy) : t.MapsCells k m x y w h dx dy := by
  intro col row hcol hrow
  refine ⟨l, ?_⟩
  obtain ⟨turned, flipX, flipY⟩ := l
  obtain ⟨hturned, hflipX, hflipY⟩ := hf
  cases turned with
  | true =>
    obtain ⟨rfl, rfl⟩ := hturned rfl
    obtain rfl : col = 0 := by omega
    obtain rfl : row = 0 := by omega
    have hx : x.groundUp 1 ⟨0, 0 + 1⟩ = x := x.groundUp_all Nat.one_pos
    have hy : y.groundDown 1 ⟨0, 0 + 1⟩ = y := y.groundDown_all Nat.one_pos
    rw [hx, hy]
    simpa [Interval.unit] using hl
  | false =>
    have hw' : (w : ℚ) ≠ 0 := Nat.cast_ne_zero.mpr hw.ne'
    have hh' : (h : ℚ) ≠ 0 := Nat.cast_ne_zero.mpr hh.ne'
    have hcol' : (col : ℚ) + 1 ≤ w := by exact_mod_cast hcol
    have hrow' : (row : ℚ) + 1 ≤ h := by exact_mod_cast hrow
    have hstep : ∀ i : Bool, (0 : ℚ) ≤ i.toNat ∧ (i.toNat : ℚ) ≤ 1 := by
      intro i
      cases i <;> simp
    intro i j
    obtain ⟨hi₀, hi₁⟩ := hstep i
    obtain ⟨hj₀, hj₁⟩ := hstep j
    have hcol₀ : (0 : ℚ) ≤ col := Nat.cast_nonneg col
    have hrow₀ : (0 : ℚ) ≤ row := Nat.cast_nonneg row
    obtain ⟨hx₀₀, hy₀₀⟩ := hl false false
    obtain ⟨hx₁₀, hy₁₀⟩ := hl true false
    obtain ⟨hx₀₁, hy₀₁⟩ := hl false true
    obtain ⟨hx₁₁, hy₁₁⟩ := hl true true
    simp only [Bool.false_eq_true, if_false, Bool.xor_false, Bool.xor_true] at *
    rw [Interval.bound_groundUp hcol hflipX, Interval.bound_groundDown hrow hflipY,
      Interval.bound_unit, Interval.bound_unit, add_assoc, add_assoc]
    constructor
    · exact abs_line_le hw' (by linarith) (by linarith) (by linarith) (by linarith) hx₀₀ hx₁₀ hx₀₁
        hx₁₁
    · -- For northings the rows come first.
      have hswap : ∀ c r, t.northing c r = t.scaleY * r + t.shearY * c + t.translateY := by
        intro c r
        rw [northing]
        ring
      rw [hswap] at hy₀₀ hy₁₀ hy₀₁ hy₁₁ ⊢
      exact abs_line_le hh' (by linarith) (by linarith) (by linarith) (by linarith) hy₀₀ hy₀₁ hy₁₀
        hy₁₁

theorem abs_step_le {a b p q d : ℚ} (h₀ : |a - p| ≤ d) (h₁ : |b - q| ≤ d) :
    |(b - a) - (q - p)| ≤ 2 * d := by
  rw [abs_le] at *
  constructor <;> linarith

theorem Lands.steps {c r : ℚ} (hl : t.Lands l (.unit c) (.unit r) x y dx dy) :
    |t.scaleX - (x.bound (xor l.flipX (!l.turned)) - x.bound l.flipX)| ≤ 2 * dx ∧
      |t.shearX - (x.bound (xor l.flipX l.turned) - x.bound l.flipX)| ≤ 2 * dx ∧
      |t.shearY - (y.bound (xor l.flipY l.turned) - y.bound l.flipY)| ≤ 2 * dy ∧
      |t.scaleY - (y.bound (xor l.flipY (!l.turned)) - y.bound l.flipY)| ≤ 2 * dy := by
  have hx : t.easting (c + 1) r - t.easting c r = t.scaleX := by
    simp only [easting]
    ring
  have hx' : t.easting c (r + 1) - t.easting c r = t.shearX := by
    simp only [easting]
    ring
  have hy : t.northing (c + 1) r - t.northing c r = t.shearY := by
    simp only [northing]
    ring
  have hy' : t.northing c (r + 1) - t.northing c r = t.scaleY := by
    simp only [northing]
    ring
  have h₀ := hl false false
  have h₁ := hl true false
  have h₂ := hl false true
  have hsx := abs_step_le h₀.1 h₁.1
  have hsx' := abs_step_le h₀.1 h₂.1
  have hsy := abs_step_le h₀.2 h₁.2
  have hsy' := abs_step_le h₀.2 h₂.2
  simp only [Interval.unit, Interval.bound, hx, hx', hy, hy'] at hsx hsx' hsy hsy'
  cases ht : l.turned <;> simp [ht, Interval.bound] at hsx hsx' hsy hsy' ⊢ <;>
    exact ⟨hsx, hsx', hsy, hsy'⟩

theorem flip_of_step {flip : Bool} {s d : ℚ} (h : |s - (x.bound (!flip) - x.bound flip)| ≤ 2 * d)
    (hx : 4 * d < x.length) : flip = decide (s < 0) ∧ 2 * d < |s| := by
  have hd : 0 ≤ 2 * d := (abs_nonneg _).trans h
  rw [Interval.length] at hx
  rw [abs_le] at h
  cases flip with
  | false =>
    simp only [Interval.bound, Bool.not_false] at h
    have hs : 2 * d < s := by linarith
    exact ⟨(decide_eq_false (not_lt.mpr (hd.trans hs.le))).symm, hs.trans_le (le_abs_self s)⟩
  | true =>
    simp only [Interval.bound, Bool.not_true] at h
    have hs : 2 * d < -s := by linarith
    exact ⟨(decide_eq_true (by linarith)).symm, hs.trans_le (neg_le_abs s)⟩

def laying (t : Affine ℚ) (dx : ℚ) : Laying :=
  if |t.scaleX| ≤ 2 * dx then ⟨true, decide (t.shearX < 0), decide (t.shearY < 0)⟩
  else ⟨false, decide (t.scaleX < 0), decide (t.scaleY < 0)⟩

theorem Lands.eq_laying {c r : ℚ} (hl : t.Lands l (.unit c) (.unit r) x y dx dy)
    (hx : 4 * dx < x.length) (hy : 4 * dy < y.length) : l = t.laying dx := by
  obtain ⟨hsx, hsx', hsy, hsy'⟩ := hl.steps
  obtain ⟨turned, flipX, flipY⟩ := l
  rw [laying]
  cases turned with
  | false =>
    simp only [Bool.not_false, Bool.xor_true] at hsx hsy'
    obtain ⟨hflipX, hlong⟩ := flip_of_step hsx hx
    obtain ⟨hflipY, -⟩ := flip_of_step hsy' hy
    rw [if_neg (not_le.mpr hlong), hflipX, hflipY]
  | true =>
    simp only [Bool.not_true, Bool.xor_false, Bool.xor_true, sub_self, sub_zero] at hsx hsx' hsy
    obtain ⟨hflipX, -⟩ := flip_of_step hsx' hx
    obtain ⟨hflipY, -⟩ := flip_of_step hsy hy
    rw [if_pos hsx, hflipX, hflipY]

theorem Lands.next_column {c r : ℚ} {x' : Interval ℚ}
    (hl : t.Lands l (.unit c) (.unit r) x y dx dy)
    (hl' : t.Lands l (.unit (c + 1)) (.unit r) x' y dx dy)
    (hnext : x'.min = x.max) (hlength : x'.length = x.length) (hx : 4 * dx < x.length) :
    l.turned = false ∧ l.flipX = false := by
  have h := (hl true false).1
  have h' := (hl' false false).1
  have hd : 0 ≤ dx := (abs_nonneg _).trans h
  simp only [Interval.length] at hlength hx
  obtain ⟨turned, flipX, flipY⟩ := l
  simp only [Interval.unit, Interval.bound, abs_le] at h h'
  cases turned <;> cases flipX <;> simp at h h' ⊢ <;> linarith

theorem Lands.next_row {c r : ℚ} {y' : Interval ℚ}
    (hl : t.Lands l (.unit c) (.unit r) x y dx dy)
    (hl' : t.Lands l (.unit c) (.unit (r + 1)) x y' dx dy)
    (hnext : y'.max = y.min) (hlength : y'.length = y.length) (hy : 4 * dy < y.length) :
    l.turned = false ∧ l.flipY = true := by
  have h := (hl false true).2
  have h' := (hl' false false).2
  have hd : 0 ≤ dy := (abs_nonneg _).trans h
  simp only [Interval.length] at hlength hy
  obtain ⟨turned, flipX, flipY⟩ := l
  simp only [Interval.unit, Interval.bound, abs_le] at h h'
  cases turned <;> cases flipY <;> simp at h h' ⊢ <;> linarith

theorem MapsCells.lands_laying (hm : t.MapsCells k m x y w h dx dy) (hx : 4 * dx < x.cell w)
    (hy : 4 * dy < y.cell h) {col row : ℕ} (hcol : col < w) (hrow : row < h) :
    t.Lands (t.laying dx) (.unit (k + col)) (.unit (m + row)) (x.groundUp w ⟨col, col + 1⟩)
      (y.groundDown h ⟨row, row + 1⟩) dx dy := by
  obtain ⟨l, hl⟩ := hm col row hcol hrow
  have hl' := hl.eq_laying (by rwa [x.length_column]) (by rwa [y.length_row])
  rwa [← hl']

theorem MapsCells.fits (hm : t.MapsCells k m x y w h dx dy) (hx : 4 * dx < x.cell w)
    (hy : 4 * dy < y.cell h) (hw : 0 < w) (hh : 0 < h) : (t.laying dx).Fits w h := by
  have hfirst := hm.lands_laying hx hy hw hh
  have hcols : 1 < w → (t.laying dx).turned = false ∧ (t.laying dx).flipX = false := by
    intro hw'
    have hsecond : t.Lands (t.laying dx) (.unit (k + (0 : ℕ) + 1)) (.unit (m + (0 : ℕ)))
        (x.groundUp w ⟨1, 1 + 1⟩) (y.groundDown h ⟨0, 0 + 1⟩) dx dy := by
      simpa using hm.lands_laying hx hy hw' hh
    apply hfirst.next_column hsecond
    · simp [Interval.groundUp]
    · rw [x.length_column, x.length_column]
    · rwa [x.length_column]
  have hrows : 1 < h → (t.laying dx).turned = false ∧ (t.laying dx).flipY = true := by
    intro hh'
    have hsecond : t.Lands (t.laying dx) (.unit (k + (0 : ℕ))) (.unit (m + (0 : ℕ) + 1))
        (x.groundUp w ⟨0, 0 + 1⟩) (y.groundDown h ⟨1, 1 + 1⟩) dx dy := by
      simpa using hm.lands_laying hx hy hw hh'
    apply hfirst.next_row hsecond
    · simp [Interval.groundDown]
    · rw [y.length_row, y.length_row]
    · rwa [y.length_row]
  refine ⟨fun ht => ⟨?_, ?_⟩, fun hf => ?_, fun hf => ?_⟩
  · by_contra hne
    exact absurd ht (by simp [(hcols (by omega)).1])
  · by_contra hne
    exact absurd ht (by simp [(hrows (by omega)).1])
  · by_contra hne
    exact absurd hf (by simp [(hcols (by omega)).2])
  · by_contra hne
    exact absurd hf (by simp [(hrows (by omega)).2])

theorem outer_line {n : ℕ} (hn : 0 < n) (i : Bool) :
    ((i.toNat * (n - 1) : ℕ) : ℚ) + i.toNat = i.toNat * n := by
  cases i <;> simp [Nat.cast_sub hn]

/-- Where cells are longer than the tolerance, they land where they belong only if the outer corners
of the grid do. -/
theorem MapsCells.lands (hm : t.MapsCells k m x y w h dx dy) (hx : 4 * dx < x.cell w)
    (hy : 4 * dy < y.cell h) (hw : 0 < w) (hh : 0 < h) :
    t.Lands (t.laying dx) ⟨k, k + w⟩ ⟨m, m + h⟩ x y dx dy := by
  have hf := hm.fits hx hy hw hh
  have hw' : (w : ℚ) ≠ 0 := Nat.cast_ne_zero.mpr hw.ne'
  have hh' : (h : ℚ) ≠ 0 := Nat.cast_ne_zero.mpr hh.ne'
  intro i j
  -- Every outer corner of the grid is a corner of one of its corner cells.
  have hcol : i.toNat * (w - 1) < w := by
    cases i <;> simp <;> omega
  have hrow : j.toNat * (h - 1) < h := by
    cases j <;> simp <;> omega
  have hcell := hm.lands_laying hx hy hcol hrow i j
  have hcols : (k : ℚ) + (i.toNat * (w - 1) : ℕ) + i.toNat = (⟨k, k + w⟩ : Interval ℚ).bound i := by
    rw [add_assoc, outer_line hw]
    cases i <;> simp [Interval.bound]
  have hrows : (m : ℚ) + (j.toNat * (h - 1) : ℕ) + j.toNat = (⟨m, m + h⟩ : Interval ℚ).bound j := by
    rw [add_assoc, outer_line hh]
    cases j <;> simp [Interval.bound]
  rw [Interval.bound_unit, Interval.bound_unit, hcols, hrows] at hcell
  generalize t.laying dx = l at hf hcell ⊢
  obtain ⟨turned, flipX, flipY⟩ := l
  obtain ⟨hturned, hflipX, hflipY⟩ := hf
  cases turned with
  | true =>
    obtain ⟨rfl, rfl⟩ := hturned rfl
    have hx₁ : x.groundUp 1 ⟨0, 0 + 1⟩ = x := x.groundUp_all Nat.one_pos
    have hy₁ : y.groundDown 1 ⟨0, 0 + 1⟩ = y := y.groundDown_all Nat.one_pos
    simpa [hx₁, hy₁] using hcell
  | false =>
    simp only [Bool.false_eq_true, if_false] at hcell ⊢
    rw [Interval.bound_groundUp hcol hflipX, Interval.bound_groundDown hrow hflipY] at hcell
    have hxi : x.bound flipX + ((i.toNat * (w - 1) : ℕ) + i.toNat) *
        ((x.bound (!flipX) - x.bound flipX) / w) = x.bound (xor flipX i) := by
      rw [outer_line hw]
      cases i <;> simp [mul_div_cancel₀ _ hw']
    have hyj : y.bound flipY + ((j.toNat * (h - 1) : ℕ) + j.toNat) *
        ((y.bound (!flipY) - y.bound flipY) / h) = y.bound (xor flipY j) := by
      rw [outer_line hh]
      cases j <;> simp [mul_div_cancel₀ _ hh']
    rwa [hxi, hyj] at hcell

theorem mapsCells_iff (hx : 4 * dx < x.cell w) (hy : 4 * dy < y.cell h) (hw : 0 < w) (hh : 0 < h) :
    t.MapsCells k m x y w h dx dy ↔
      ∃ l : Laying, l.Fits w h ∧ t.Lands l ⟨k, k + w⟩ ⟨m, m + h⟩ x y dx dy := by
  constructor
  · intro hm
    exact ⟨_, hm.fits hx hy hw hh, hm.lands hx hy hw hh⟩
  · rintro ⟨l, hf, hl⟩
    exact hl.mapsCells hw hh hf

/-- Columns run eastwards and rows southwards, unless there is only one of them. -/
structure Upright (t : Affine ℚ) (w h : ℕ) : Prop where
  shearX_eq : t.shearX = 0
  shearY_eq : t.shearY = 0
  columns : 0 ≤ t.scaleX ∨ w = 1
  rows : t.scaleY ≤ 0 ∨ h = 1

section Upright

variable {gx gy : Interval ℚ}

theorem abs_bound_le {s k n e d : ℚ} {ground near : Interval ℚ} {flip : Bool} (hn : 0 ≤ n)
    (hf : if flip then s ≤ 0 else 0 ≤ s)
    (hg : ground = .between (s * k + e) (s * (k + n) + e))
    (hd : |ground.min - near.min| ≤ d ∧ |ground.max - near.max| ≤ d) (i : Bool) :
    |s * (⟨k, k + n⟩ : Interval ℚ).bound i + e - near.bound (xor flip i)| ≤ d := by
  cases flip with
  | false =>
    have := mul_nonneg hf hn
    rw [Interval.between_of_le (by linarith)] at hg
    subst hg
    cases i
    · exact hd.1
    · exact hd.2
  | true =>
    have := mul_nonpos_of_nonpos_of_nonneg hf hn
    rw [Interval.between_of_ge (by linarith)] at hg
    subst hg
    cases i
    · exact hd.2
    · exact hd.1

theorem lands_of_near (hsx : t.shearX = 0) (hsy : t.shearY = 0)
    (hgx : gx = .between (t.scaleX * k + t.translateX) (t.scaleX * (k + w) + t.translateX))
    (hgy : gy = .between (t.scaleY * m + t.translateY) (t.scaleY * (m + h) + t.translateY))
    (hx : |gx.min - x.min| ≤ dx ∧ |gx.max - x.max| ≤ dx)
    (hy : |gy.min - y.min| ≤ dy ∧ |gy.max - y.max| ≤ dy) :
    t.Lands ⟨false, decide (t.scaleX < 0), decide (t.scaleY ≤ 0)⟩ ⟨k, k + w⟩ ⟨m, m + h⟩ x y
      dx dy := by
  have hflipX : if decide (t.scaleX < 0) then t.scaleX ≤ 0 else 0 ≤ t.scaleX := by
    by_cases hneg : t.scaleX < 0
    · rw [decide_eq_true hneg]
      exact hneg.le
    · rw [decide_eq_false hneg]
      exact not_lt.mp hneg
  have hflipY : if decide (t.scaleY ≤ 0) then t.scaleY ≤ 0 else 0 ≤ t.scaleY := by
    by_cases hneg : t.scaleY ≤ 0
    · rw [decide_eq_true hneg]
      exact hneg
    · rw [decide_eq_false hneg]
      exact (not_le.mp hneg).le
  intro i j
  simp only [easting, northing, hsx, hsy, zero_mul, add_zero, zero_add, Bool.false_eq_true,
    if_false]
  exact ⟨abs_bound_le (Nat.cast_nonneg w) hflipX hgx hx i,
    abs_bound_le (Nat.cast_nonneg h) hflipY hgy hy j⟩

theorem Upright.fits (hu : t.Upright w h) :
    (⟨false, decide (t.scaleX < 0), decide (t.scaleY ≤ 0)⟩ : Laying).Fits w h := by
  refine ⟨fun ht => absurd ht Bool.false_ne_true, fun hf => ?_, fun hf => ?_⟩
  · exact hu.columns.resolve_left (not_le.mpr (of_decide_eq_true hf))
  · exact hu.rows.resolve_left (of_decide_eq_false hf)

theorem length_of_cell {n : ℕ} {d : ℚ} (hn : 0 < n) (hd : 0 ≤ d) (hx : 4 * d < x.cell n) :
    4 * d < x.length := by
  have hcell : 0 ≤ x.cell n := by linarith
  have hlong := le_mul_of_one_le_left hcell (Nat.one_le_cast.mpr hn : (1 : ℚ) ≤ n)
  rw [x.mul_cell hn] at hlong
  exact hx.trans_le hlong

theorem Lands.upright (hsx : t.shearX = 0) (hsy : t.shearY = 0) (hx : 4 * dx < x.cell w)
    (hy : 4 * dy < y.cell h) (hw : 0 < w) (hh : 0 < h) (hf : l.Fits w h)
    (hl : t.Lands l ⟨k, k + w⟩ ⟨m, m + h⟩ x y dx dy) : t.Upright w h := by
  have hdx : 0 ≤ dx := (abs_nonneg _).trans (hl false false).1
  have hdy : 0 ≤ dy := (abs_nonneg _).trans (hl false false).2
  have hcols : t.easting (k + w) m - t.easting k m = t.scaleX * w := by
    simp only [easting]
    ring
  have hrows : t.northing k (m + h) - t.northing k m = t.scaleY * h := by
    simp only [northing]
    ring
  obtain ⟨turned, flipX, flipY⟩ := l
  obtain ⟨hturned, hflipX, hflipY⟩ := hf
  cases turned with
  | true =>
    obtain ⟨hw₁, hh₁⟩ := hturned rfl
    exact ⟨hsx, hsy, .inr hw₁, .inr hh₁⟩
  | false =>
    have hx' : |t.scaleX * w - (x.bound (!flipX) - x.bound flipX)| ≤ 2 * dx := by
      have hstep := abs_step_le (hl false false).1 (hl true false).1
      simpa [Interval.bound, hcols] using hstep
    have hy' : |t.scaleY * h - (y.bound (!flipY) - y.bound flipY)| ≤ 2 * dy := by
      have hstep := abs_step_le (hl false false).2 (hl false true).2
      simpa [Interval.bound, hrows] using hstep
    obtain ⟨hcolumns, -⟩ := flip_of_step hx' (length_of_cell hw hdx hx)
    obtain ⟨hrows, -⟩ := flip_of_step hy' (length_of_cell hh hdy hy)
    refine ⟨hsx, hsy, ?_, ?_⟩
    · cases flipX with
      | true => exact .inr (hflipX rfl)
      | false =>
        left
        have hnonneg := of_decide_eq_false hcolumns.symm
        exact nonneg_of_mul_nonneg_left (not_lt.mp hnonneg) (Nat.cast_pos.mpr hw)
    · cases flipY with
      | false => exact .inr (hflipY rfl)
      | true =>
        left
        have hneg := of_decide_eq_true hrows.symm
        exact (neg_of_mul_neg_left hneg (Nat.cast_nonneg h)).le

end Upright

end Affine

end GeoRaster
