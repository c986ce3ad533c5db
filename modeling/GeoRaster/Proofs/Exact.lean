import GeoRaster.Scalar.Exact
import Mathlib.Algebra.Order.Floor.Semiring
import Mathlib.Data.Rat.Floor
import Mathlib.Tactic.Linarith
import Mathlib.Tactic.NormNum

namespace GeoRaster.Exact

variable {p q : ℚ}

@[simp]
theorem finite_add (p q : ℚ) : (finite p + finite q : Exact) = finite (p + q) := rfl

@[simp]
theorem finite_sub (p q : ℚ) : (finite p - finite q : Exact) = finite (p - q) := by
  rw [sub_eq_add_neg]
  rfl

@[simp]
theorem finite_mul (p q : ℚ) : (finite p * finite q : Exact) = finite (p * q) := rfl

@[simp]
theorem neg_finite (q : ℚ) : (-finite q : Exact) = finite (-q) := rfl

theorem finite_div (p : ℚ) (hq : q ≠ 0) : (finite p / finite q : Exact) = finite (p / q) := by
  show div _ _ = _
  simp [div, hq]

theorem ofScientific_eq (m : ℕ) (s : Bool) (e : ℕ) :
    (OfScientific.ofScientific m s e : Exact) = finite (OfScientific.ofScientific m s e : ℚ) := rfl

@[simp]
theorem zero_eq : (0.0 : Exact) = finite 0 := by
  rw [ofScientific_eq]
  norm_num

@[simp]
theorem one_eq : (1.0 : Exact) = finite 1 := by
  rw [ofScientific_eq]
  norm_num

@[simp]
theorem half_eq : (0.5 : Exact) = finite (1 / 2) := by
  rw [ofScientific_eq]
  norm_num

theorem quarter_eq : (90.0 : Exact) = finite 90 := by
  rw [ofScientific_eq]
  norm_num

theorem halfTurn_eq : (180.0 : Exact) = finite 180 := by
  rw [ofScientific_eq]
  norm_num

theorem turn_eq : (360.0 : Exact) = finite 360 := by
  rw [ofScientific_eq]
  norm_num

@[simp]
theorem ofNat_eq (n : ℕ) : (Scalar.ofNat n : Exact) = finite n := rfl

@[simp]
theorem ofInt64_eq (i : Int64) : (Scalar.ofInt64 i : Exact) = finite i.toInt := rfl

@[simp]
theorem finite_lt : (finite p : Exact) < finite q ↔ p < q := by
  show lt _ _ = true ↔ _
  simp [lt]

@[simp]
theorem finite_le : (finite p : Exact) ≤ finite q ↔ p ≤ q := by
  show (lt _ _ || eq _ _) = true ↔ _
  simp [lt, eq, le_iff_lt_or_eq]

theorem finite_lt_iff {a : Exact} :
    finite p < a ↔ a = .infinity ∨ ∃ q, a = finite q ∧ p < q := by
  show lt _ _ = true ↔ _
  cases a <;> simp [lt]

theorem lt_finite_iff {a : Exact} :
    a < finite q ↔ a = .negInfinity ∨ ∃ p, a = finite p ∧ p < q := by
  show lt _ _ = true ↔ _
  cases a <;> simp [lt]

@[simp]
theorem finite_beq : ((finite p : Exact) == finite q) = decide (p = q) := by
  show eq _ _ = _
  simp [eq]

@[simp]
theorem isNaN_finite (q : ℚ) : Scalar.isNaN (finite q) = false := rfl

@[simp]
theorem isFinite_finite (q : ℚ) : Scalar.isFinite (finite q) = true := rfl

theorem isFinite_iff {a : Exact} : Scalar.isFinite a = true ↔ ∃ q, a = finite q := by
  cases a <;> simp [Scalar.isFinite]

@[simp]
theorem min_finite (p q : ℚ) : Scalar.min (finite p) (finite q) = finite (min p q) := by
  simp only [Scalar.min, isNaN_finite, finite_lt, Bool.false_eq_true, ↓reduceIte]
  split <;> rename_i h
  · rw [min_eq_right h.le]
  · rw [min_eq_left (not_lt.mp h)]

@[simp]
theorem max_finite (p q : ℚ) : Scalar.max (finite p) (finite q) = finite (max p q) := by
  simp only [Scalar.max, isNaN_finite, finite_lt, Bool.false_eq_true, ↓reduceIte]
  split <;> rename_i h
  · rw [max_eq_right h.le]
  · rw [max_eq_left (not_lt.mp h)]

@[simp]
theorem max_negInfinity (p : ℚ) : Scalar.max (finite p) .negInfinity = finite p := rfl

@[simp]
theorem min_infinity (p : ℚ) : Scalar.min (finite p) .infinity = finite p := rfl

@[simp]
theorem clamp_finite (p q r : ℚ) :
    Scalar.clamp (finite p) (finite q) (finite r) = finite (min (max r p) q) := by
  simp only [Scalar.clamp, finite_lt]
  split_ifs <;> simp_all [min_def, max_def] <;> grind

@[simp]
theorem abs_finite (q : ℚ) : Scalar.abs (finite q) = finite |q| := by
  show (if sign _ < 0 then neg _ else _) = _
  rcases lt_trichotomy q 0 with h | rfl | h
  · simp [sign, h, not_lt.mpr h.le, neg, abs_of_neg h]
  · simp [sign]
  · simp [sign, h, abs_of_pos h]

@[simp]
theorem floor_finite (q : ℚ) : Scalar.floor (finite q) = finite ⌊q⌋ := rfl

@[simp]
theorem ceil_finite (q : ℚ) : Scalar.ceil (finite q) = finite ⌈q⌉ := by
  show finite (q.ceil : ℚ) = _
  rw [Rat.ceil_eq_neg_floor_neg]
  rfl

@[simp]
theorem round_finite (q : ℚ) : Scalar.round (finite q) = finite (roundRat q) := rfl

theorem remainder_finite (p : ℚ) (hq : 0 < q) :
    Scalar.remainder (finite p) (finite q) = finite (p - q * ⌊p / q⌋) := by
  show (if q = 0 then nan else _) = _
  rw [if_neg hq.ne', if_neg hq.not_gt]
  rfl

theorem truncate_of_nonneg (hq : 0 ≤ q) : truncate q = ⌊q⌋ := by
  rw [truncate, if_pos hq]
  rfl

theorem truncate_nonpos (hq : q < 0) : truncate q ≤ 0 := by
  rw [truncate, if_neg (not_le.mpr hq), Rat.ceil_le_iff]
  exact_mod_cast hq.le

@[simp]
theorem truncate_intCast (k : ℤ) : truncate (k : ℚ) = k := by
  unfold truncate
  split_ifs <;> simp

@[simp]
theorem toCount_finite (q : ℚ) : Scalar.toCount (finite q) = min ⌊q⌋₊ (2 ^ 64 - 1) := by
  have hsize : ((UInt64.size : ℕ) : ℤ) - 1 = 2 ^ 64 - 1 := by decide
  show (UInt64.ofNat (toRange 0 (UInt64.size - 1) (finite q)).toNat).toNat = _
  rw [hsize]
  have hr : (toRange 0 (2 ^ 64 - 1) (finite q)).toNat = min ⌊q⌋₊ (2 ^ 64 - 1) := by
    rcases le_or_gt 0 q with hq | hq
    · have hf := Int.natCast_floor_eq_floor hq
      simp only [toRange, truncate_of_nonneg hq]
      split_ifs <;> omega
    · have ht := truncate_nonpos hq
      rw [Nat.floor_of_nonpos hq.le]
      simp only [toRange]
      split_ifs <;> omega
  rw [hr, UInt64.toNat_ofNat']
  exact Nat.mod_eq_of_lt (by omega)

theorem toCount_floor (q : ℚ) :
    Scalar.toCount (Scalar.floor (finite q)) = min ⌊q⌋₊ (2 ^ 64 - 1) := by
  rw [floor_finite, toCount_finite, ← Int.floor_toNat, Int.floor_intCast, Int.floor_toNat]

theorem toInt_toInt64 (k : ℤ) :
    (Scalar.toInt64 (finite k)).toInt = max (-2 ^ 63) (min k (2 ^ 63 - 1)) := by
  have hmin : Int64.minValue.toInt = -2 ^ 63 := by decide
  have hmax : Int64.maxValue.toInt = 2 ^ 63 - 1 := by decide
  show (Int64.ofInt (toRange Int64.minValue.toInt Int64.maxValue.toInt (finite k))).toInt = _
  rw [hmin, hmax]
  have hr : toRange (-2 ^ 63) (2 ^ 63 - 1) (finite k) = max (-2 ^ 63) (min k (2 ^ 63 - 1)) := by
    simp only [toRange, truncate_intCast]
    split_ifs <;> omega
  rw [hr, Int64.toInt_ofInt_of_le (by omega) (by omega)]

theorem toInt_toInt64_of_mem {k : ℤ} (hl : -2 ^ 63 ≤ k) (hu : k < 2 ^ 63) :
    (Scalar.toInt64 (finite k)).toInt = k := by
  rw [toInt_toInt64]
  omega

end GeoRaster.Exact
