import GeoRaster.Envelope
import GeoRaster.Proofs.Single

namespace GeoRaster.Double

open Float.Model (Format UnpackedFloat)
open Float.Model.UnpackedFloat

variable {u v : UnpackedFloat} {x y z : Float}

section Order

def rank : UnpackedFloat → ℤ ×ₗ ℤ ×ₗ ℤ
  | .infinity .negative => toLex (-2, toLex (0, 0))
  | .finite .negative m e _ => toLex (-1, toLex (-e, -m))
  | .zero _ | .notANumber => toLex (0, toLex (0, 0))
  | .finite .positive m e _ => toLex (1, toLex (e, m))
  | .infinity .positive => toLex (2, toLex (0, 0))

theorem compare_swap (u v : UnpackedFloat) : v.compare u = (u.compare v).map Ordering.swap := by
  cases u with
  | notANumber => cases v <;> rfl
  | infinity s | zero s =>
    cases v with
    | notANumber => cases s <;> rfl
    | infinity t | zero t | finite t => cases s <;> cases t <;> rfl
  | finite s m e =>
    cases v with
    | notANumber => cases s <;> rfl
    | infinity t | zero t => cases s <;> cases t <;> rfl
    | finite t n f =>
      have h : (compare f e).then (compare n m) = ((compare e f).then (compare m n)).swap := by
        rw [Ordering.swap_then, Int.compare_swap, Nat.compare_swap]
      cases s <;> cases t <;> simp [UnpackedFloat.compare, h]

theorem finite_lt_iff (e f : ℤ) (m n : ℕ) :
    (compare e f).then (compare m n) = .lt ↔ e < f ∨ e = f ∧ m < n := by
  rw [Ordering.then_eq_lt, compare_lt_iff_lt, compare_eq_iff_eq, compare_lt_iff_lt]

theorem finite_gt_iff (e f : ℤ) (m n : ℕ) :
    (compare e f).then (compare m n) = .gt ↔ f < e ∨ e = f ∧ n < m := by
  rw [Ordering.then_eq_gt, compare_gt_iff_gt, compare_eq_iff_eq, compare_gt_iff_gt]

theorem lt_iff_rank (hu : u.isNaN = false) (hv : v.isNaN = false) :
    u.lt v = true ↔ rank u < rank v := by
  have hsign : compare Sign.negative Sign.positive = .lt := rfl
  cases u with
  | notANumber => exact absurd hu (by simp [isNaN])
  | infinity s | zero s | finite s =>
    cases v with
    | notANumber => exact absurd hv (by simp [isNaN])
    | infinity t | zero t | finite t =>
      cases s <;> cases t <;>
        simp [UnpackedFloat.lt, UnpackedFloat.compare, rank, Prod.Lex.toLex_lt_toLex, hsign,
          finite_lt_iff, finite_gt_iff, @eq_comm ℤ]

theorem isNaN_eq_false_of_compare {o : Ordering} (h : u.compare v = some o) :
    u.isNaN = false ∧ v.isNaN = false := by
  cases u with
  | notANumber => exact absurd h (by cases v <;> simp [UnpackedFloat.compare])
  | infinity s | zero s | finite s =>
    cases v with
    | notANumber => exact absurd h (by cases s <;> simp [UnpackedFloat.compare])
    | infinity t | zero t | finite t => exact ⟨rfl, rfl⟩

theorem exists_compare (hu : u.isNaN = false) (hv : v.isNaN = false) :
    ∃ o, u.compare v = some o := by
  cases u with
  | notANumber => exact absurd hu (by simp [isNaN])
  | infinity s | zero s | finite s =>
    cases v with
    | notANumber => exact absurd hv (by simp [isNaN])
    | infinity t | zero t | finite t => cases s <;> cases t <;> exact ⟨_, rfl⟩

theorem le_iff_not_lt (hu : u.isNaN = false) (hv : v.isNaN = false) :
    u.le v = true ↔ v.lt u ≠ true := by
  obtain ⟨o, ho⟩ := exists_compare hu hv
  rw [UnpackedFloat.le, UnpackedFloat.lt, compare_swap u v, ho]
  cases o <;> decide

def place (x : Float) : ℤ ×ₗ ℤ ×ₗ ℤ :=
  rank x.toModel.unpack

theorem lt_iff : x < y ↔ x.isNaN = false ∧ y.isNaN = false ∧ place x < place y := by
  show decide (x.toModel.unpack.lt y.toModel.unpack = true) = true ↔
    x.toModel.unpack.isNaN = false ∧ y.toModel.unpack.isNaN = false ∧ _
  rw [decide_eq_true_iff]
  constructor
  · intro h
    obtain ⟨hx, hy⟩ := isNaN_eq_false_of_compare (eq_of_beq h)
    exact ⟨hx, hy, (lt_iff_rank hx hy).mp h⟩
  · rintro ⟨hx, hy, h⟩
    exact (lt_iff_rank hx hy).mpr h

theorem le_iff : x ≤ y ↔ x.isNaN = false ∧ y.isNaN = false ∧ place x ≤ place y := by
  show decide (x.toModel.unpack.le y.toModel.unpack = true) = true ↔
    x.toModel.unpack.isNaN = false ∧ y.toModel.unpack.isNaN = false ∧ _
  rw [decide_eq_true_iff]
  constructor
  · intro h
    obtain ⟨o, ho, -⟩ := (Option.any_eq_true _ _).mp h
    obtain ⟨hx, hy⟩ := isNaN_eq_false_of_compare ho
    exact ⟨hx, hy, not_lt.mp fun hlt => (le_iff_not_lt hx hy).mp h ((lt_iff_rank hy hx).mpr hlt)⟩
  · rintro ⟨hx, hy, h⟩
    exact (le_iff_not_lt hx hy).mpr fun hlt => h.not_gt ((lt_iff_rank hy hx).mp hlt)

theorem lt_of_lt_of_le (h : x < y) (h' : y ≤ z) : x < z := by
  obtain ⟨hx, -, h⟩ := lt_iff.mp h
  obtain ⟨-, hz, h'⟩ := le_iff.mp h'
  exact lt_iff.mpr ⟨hx, hz, h.trans_le h'⟩

theorem lt_of_le_of_lt (h : x ≤ y) (h' : y < z) : x < z := by
  obtain ⟨hx, -, h⟩ := le_iff.mp h
  obtain ⟨-, hz, h'⟩ := lt_iff.mp h'
  exact lt_iff.mpr ⟨hx, hz, h.trans_lt h'⟩

theorem le_trans (h : x ≤ y) (h' : y ≤ z) : x ≤ z := by
  obtain ⟨hx, -, h⟩ := le_iff.mp h
  obtain ⟨-, hz, h'⟩ := le_iff.mp h'
  exact le_iff.mpr ⟨hx, hz, h.trans h'⟩

theorem not_lt_of_le (h : x ≤ y) : ¬ y < x :=
  fun h' => (le_iff.mp h).2.2.not_gt (lt_iff.mp h').2.2

theorem le_of_not_lt (hx : x.isNaN = false) (hy : y.isNaN = false) (h : ¬ y < x) : x ≤ y :=
  le_iff.mpr ⟨hx, hy, not_lt.mp fun h' => h (lt_iff.mpr ⟨hy, hx, h'⟩)⟩

end Order

section Signs

def IsNonneg : UnpackedFloat → Prop
  | .notANumber => False
  | .zero _ => True
  | .infinity s | .finite s .. => s = .positive

theorem unpackSign_packComponents {spec : Format} {s : Sign} {e : BitVec spec.exponentBits}
    {m : BitVec spec.mantissaBitsWithoutImplicit} :
    unpackSign (packComponents spec s e m) = s.toBitVec := by
  ext i hi
  obtain rfl : i = 0 := by omega
  simp [unpackSign, packComponents, BitVec.getLsbD_append, BitVec.getElem_append]

theorem ofBitVec_positive : Sign.ofBitVec Sign.positive.toBitVec = .positive := rfl

theorem isNonneg_unpack {spec : Format} {e : BitVec spec.exponentBits}
    {m : BitVec spec.mantissaBitsWithoutImplicit} (h : e ≠ -1#_ ∨ m = 0#_) :
    IsNonneg (unpack spec (packComponents spec .positive e m)) := by
  rw [unpack]
  simp only [unpackMantissa_packComponents, unpackExponent_packComponents,
    unpackSign_packComponents, ofBitVec_positive]
  split
  · rename_i he
    rw [if_pos (h.resolve_left fun hne => hne he)]
    rfl
  · split
    · split
      · trivial
      · rfl
    · rfl

theorem IsNonneg.unpack_pack (h : IsNonneg u) :
    IsNonneg (unpack .binary64 (pack .binary64 u)) := by
  cases u with
  | notANumber => exact h.elim
  | zero s => cases s <;> trivial
  | infinity s =>
    obtain rfl : s = .positive := h
    exact isNonneg_unpack (.inr rfl)
  | finite s m e hm =>
    obtain rfl : s = .positive := h
    rw [pack]
    split
    · exact isNonneg_unpack (.inr rfl)
    · rename_i hsmall
      split
      · -- A finite number's stored exponent is below the one of infinity.
        apply isNonneg_unpack (.inl _)
        intro he
        have h := congrArg BitVec.toNat he
        rw [BitVec.toNat_ofNat, Nat.mod_eq_of_lt (by omega)] at h
        exact hsmall (by rw [h]; decide)
      · exact isNonneg_unpack (.inl (by decide))

theorem unpack_zero : (0.0 : Float).toModel.unpack = .zero .positive := by
  rfl

theorem zero_le_iff : 0.0 ≤ x ↔ IsNonneg x.toModel.unpack := by
  show decide ((0.0 : Float).toModel.unpack.le x.toModel.unpack = true) = true ↔ _
  rw [decide_eq_true_iff, unpack_zero]
  cases x.toModel.unpack with
  | notANumber => simp [UnpackedFloat.le, UnpackedFloat.compare, IsNonneg]
  | zero s => simp [UnpackedFloat.le, UnpackedFloat.compare, IsNonneg]
  | infinity s | finite s => cases s <;> simp [UnpackedFloat.le, UnpackedFloat.compare, IsNonneg]

theorem isNonneg_roundWithAccuracy (spec : Format) (m : ℕ) (e : ℤ) (a : Accuracy) :
    IsNonneg (roundWithAccuracy spec .positive m e a) := by
  rw [roundWithAccuracy]
  dsimp only
  split
  · trivial
  · rfl

theorem IsNonneg.mul (spec : Format) {m : ℕ} {e : ℤ} {hm : 0 < m} (h : IsNonneg u) :
    IsNonneg (UnpackedFloat.mul spec (.finite .positive m e hm) u) := by
  cases u with
  | notANumber => exact h.elim
  | zero s => trivial
  | infinity s =>
    obtain rfl : s = .positive := h
    rfl
  | finite s n f =>
    obtain rfl : s = .positive := h
    exact isNonneg_roundWithAccuracy ..

theorem unpacked_sub_self (spec : Format) (h : u.isFinite = true) :
    u.sub spec u = .zero .positive := by
  cases u with
  | notANumber | infinity s => exact absurd h (by simp [isFinite])
  | zero s => cases s <;> rfl
  | finite s m e hm => simp [UnpackedFloat.sub, UnpackedFloat.normalize]

theorem sub_self (h : x.isFinite = true) : x - x = 0.0 := by
  show (⟨.pack (x.toModel.unpack.sub .binary64 x.toModel.unpack)⟩ : Float) = 0.0
  rw [unpacked_sub_self _ h]
  rfl

theorem abs_zero : (0.0 : Float).abs = 0.0 := by
  rfl

theorem exists_unpack_of_pos (h : 0.0 < x) (hf : x.isFinite = true) :
    ∃ m e hm, x.toModel.unpack = .finite .positive m e hm := by
  have hlt : UnpackedFloat.lt (.zero .positive) x.toModel.unpack = true := by
    rw [← unpack_zero]
    exact of_decide_eq_true h
  have hfinite : x.toModel.unpack.isFinite = true := hf
  revert hlt hfinite
  cases x.toModel.unpack with
  | notANumber | infinity s => simp [isFinite]
  | zero s => simp [UnpackedFloat.lt, UnpackedFloat.compare]
  | finite s m e hm => cases s <;> simp [UnpackedFloat.lt, UnpackedFloat.compare, hm]

theorem mul_nonneg (hx : 0.0 < x) (hf : x.isFinite = true) (hy : 0.0 ≤ y) : 0.0 ≤ x * y := by
  obtain ⟨m, e, hm, hu⟩ := exists_unpack_of_pos hx hf
  have hmul : IsNonneg (x.toModel.unpack.mul .binary64 y.toModel.unpack) := by
    rw [hu]
    exact (zero_le_iff.mp hy).mul _
  exact zero_le_iff.mpr hmul.unpack_pack

end Signs

section Intervals

variable {a b : Interval Float}

theorem le_max_right (hy : y.isNaN = false) : y ≤ Scalar.max x y := by
  have hself : y ≤ y := le_iff.mpr ⟨hy, hy, le_rfl⟩
  rw [Scalar.max]
  split
  · exact hself
  · rename_i hx
    split
    · exact hself
    · rename_i hlt
      exact le_of_not_lt hy (Bool.eq_false_iff.mpr hx) hlt

theorem isNear_self (hmin : a.min.isFinite = true) (hmax : a.max.isFinite = true) {t : Float}
    (ht : 0.0 < t) (hf : t.isFinite = true) : a.isNear t a = true := by
  have hleast : (0.0 : Float) ≤ 2.2250738585072014e-308 := by decide +kernel
  have hdefined : (2.2250738585072014e-308 : Float).isNaN = false := by decide +kernel
  have hnonneg (s : Float) : 0.0 ≤ t * Scalar.max s 2.2250738585072014e-308 :=
    mul_nonneg ht hf (le_trans hleast (le_max_right hdefined))
  have hzero (x : Float) (hx : x.isFinite = true) : Scalar.abs (x - x) = 0.0 := by
    show (x - x).abs = 0.0
    rw [sub_self hx, abs_zero]
  rw [Interval.isNear, Bool.and_eq_true, decide_eq_true_iff, decide_eq_true_iff]
  rw [hzero a.min hmin, hzero a.max hmax]
  exact ⟨hnonneg _, hnonneg _⟩

theorem holds_iff : b.holds a = true ↔ b.min ≤ a.min ∧ a.max ≤ b.max := by
  rw [Interval.holds, Bool.and_eq_true, decide_eq_true_iff, decide_eq_true_iff]

theorem overlaps_of_holds (ha : a.min < a.max) (h : b.holds a = true) : a.overlaps b = true := by
  obtain ⟨hmin, hmax⟩ := holds_iff.mp h
  rw [Interval.overlaps, Bool.and_eq_true, decide_eq_true_iff, decide_eq_true_iff]
  exact ⟨lt_of_lt_of_le ha hmax, lt_of_le_of_lt hmin ha⟩

theorem meet_of_holds (h : b.holds a = true) : a.meet b = a := by
  obtain ⟨hmin, hmax⟩ := holds_iff.mp h
  have hnan : Scalar.isNaN a.min = false := (le_iff.mp hmin).2.1
  have hnan' : Scalar.isNaN a.max = false := (le_iff.mp hmax).1
  rw [Interval.meet, Scalar.max, Scalar.min, hnan, hnan']
  rw [if_neg (not_lt_of_le hmin), if_neg (not_lt_of_le hmax)]
  rfl

end Intervals

end GeoRaster.Double
