import GeoRaster.Proofs.Double
import GeoRaster.Proofs.Exact

namespace GeoRaster

namespace Scalar

class IsOrdered (α : Type) [Scalar α] : Prop where
  defined_of_le : ∀ {a b : α}, a ≤ b → isNaN a = false ∧ isNaN b = false
  le_total : ∀ {a b : α}, isNaN a = false → isNaN b = false → a ≤ b ∨ b ≤ a
  le_trans : ∀ {a b c : α}, a ≤ b → b ≤ c → a ≤ c
  lt_iff : ∀ {a b : α}, a < b ↔ a ≤ b ∧ ¬ b ≤ a
  beq_of_le : ∀ {a b : α}, a ≤ b → b ≤ a → (a == b) = true

export IsOrdered (defined_of_le)

theorem isOrdered_of_rank {α β : Type} [Scalar α] [LinearOrder β] {rank : α → β}
    (hlt : ∀ {a b : α}, a < b ↔ isNaN a = false ∧ isNaN b = false ∧ rank a < rank b)
    (hle : ∀ {a b : α}, a ≤ b ↔ isNaN a = false ∧ isNaN b = false ∧ rank a ≤ rank b)
    (hbeq : ∀ {a b : α}, isNaN a = false → isNaN b = false → rank a = rank b →
      (a == b) = true) : IsOrdered α where
  defined_of_le h := ⟨(hle.mp h).1, (hle.mp h).2.1⟩
  le_total ha hb := (le_total _ _).imp (fun h => hle.mpr ⟨ha, hb, h⟩) fun h => hle.mpr ⟨hb, ha, h⟩
  le_trans h h' := by
    obtain ⟨ha, -, hab⟩ := hle.mp h
    obtain ⟨-, hc, hbc⟩ := hle.mp h'
    exact hle.mpr ⟨ha, hc, hab.trans hbc⟩
  lt_iff {a b} := by
    rw [hlt, hle, hle]
    constructor
    · rintro ⟨ha, hb, h⟩
      exact ⟨⟨ha, hb, h.le⟩, fun h' => h'.2.2.not_gt h⟩
    · rintro ⟨⟨ha, hb, -⟩, h⟩
      exact ⟨ha, hb, not_le.mp fun h' => h ⟨hb, ha, h'⟩⟩
  beq_of_le h h' := by
    obtain ⟨ha, hb, hab⟩ := hle.mp h
    exact hbeq ha hb (hab.antisymm (hle.mp h').2.2)

variable {α : Type} [Scalar α] [IsOrdered α] {a b c d : α}

theorem le_refl (ha : isNaN a = false) : a ≤ a :=
  (IsOrdered.le_total ha ha).elim id id

theorem le_of_lt (h : a < b) : a ≤ b :=
  (IsOrdered.lt_iff.mp h).1

theorem lt_of_lt_of_le (h : a < b) (h' : b ≤ c) : a < c := by
  obtain ⟨hab, hba⟩ := IsOrdered.lt_iff.mp h
  exact IsOrdered.lt_iff.mpr
    ⟨IsOrdered.le_trans hab h', fun hca => hba (IsOrdered.le_trans h' hca)⟩

theorem lt_of_le_of_lt (h : a ≤ b) (h' : b < c) : a < c := by
  obtain ⟨hbc, hcb⟩ := IsOrdered.lt_iff.mp h'
  exact IsOrdered.lt_iff.mpr
    ⟨IsOrdered.le_trans h hbc, fun hca => hcb (IsOrdered.le_trans hca h)⟩

theorem le_of_not_lt (ha : isNaN a = false) (hb : isNaN b = false) (h : ¬ a < b) : b ≤ a := by
  by_contra hba
  have hab := (IsOrdered.le_total ha hb).resolve_right hba
  exact h (IsOrdered.lt_iff.mpr ⟨hab, hba⟩)

section Extremes

variable (ha : isNaN a = false) (hb : isNaN b = false)
include ha hb

theorem max_cases : (max a b = a ∧ b ≤ a) ∨ (max a b = b ∧ a ≤ b) := by
  rw [max, ha]
  by_cases h : a < b
  · exact .inr ⟨by simp [h], le_of_lt h⟩
  · exact .inl ⟨by simp [h], le_of_not_lt ha hb h⟩

theorem min_cases : (min a b = a ∧ a ≤ b) ∨ (min a b = b ∧ b ≤ a) := by
  rw [min, ha]
  by_cases h : b < a
  · exact .inr ⟨by simp [h], le_of_lt h⟩
  · exact .inl ⟨by simp [h], le_of_not_lt hb ha h⟩

theorem max_le_iff : max a b ≤ c ↔ a ≤ c ∧ b ≤ c := by
  obtain ⟨h, hle⟩ | ⟨h, hle⟩ := max_cases ha hb <;> rw [h]
  · exact ⟨fun hc => ⟨hc, IsOrdered.le_trans hle hc⟩, And.left⟩
  · exact ⟨fun hc => ⟨IsOrdered.le_trans hle hc, hc⟩, And.right⟩

theorem le_min_iff : c ≤ min a b ↔ c ≤ a ∧ c ≤ b := by
  obtain ⟨h, hle⟩ | ⟨h, hle⟩ := min_cases ha hb <;> rw [h]
  · exact ⟨fun hc => ⟨hc, IsOrdered.le_trans hc hle⟩, And.left⟩
  · exact ⟨fun hc => ⟨IsOrdered.le_trans hc hle, hc⟩, And.right⟩

theorem max_lt_iff : max a b < c ↔ a < c ∧ b < c := by
  obtain ⟨h, hle⟩ | ⟨h, hle⟩ := max_cases ha hb <;> rw [h]
  · exact ⟨fun hc => ⟨hc, lt_of_le_of_lt hle hc⟩, And.left⟩
  · exact ⟨fun hc => ⟨lt_of_le_of_lt hle hc, hc⟩, And.right⟩

theorem lt_min_iff : c < min a b ↔ c < a ∧ c < b := by
  obtain ⟨h, hle⟩ | ⟨h, hle⟩ := min_cases ha hb <;> rw [h]
  · exact ⟨fun hc => ⟨hc, lt_of_lt_of_le hc hle⟩, And.left⟩
  · exact ⟨fun hc => ⟨lt_of_lt_of_le hc hle, hc⟩, And.right⟩

end Extremes

end Scalar

namespace Exact

def rank : Exact → ℤ ×ₗ ℚ
  | negInfinity => toLex (-1, 0)
  | nan => toLex (0, 0)
  | finite q => toLex (0, q)
  | infinity => toLex (1, 0)

theorem lt_iff_rank {a b : Exact} :
    a < b ↔ Scalar.isNaN a = false ∧ Scalar.isNaN b = false ∧ rank a < rank b := by
  show lt a b = true ↔ decide (a = nan) = false ∧ decide (b = nan) = false ∧ _
  cases a <;> cases b <;> simp [lt, rank, Prod.Lex.toLex_lt_toLex]

theorem rank_inj {a b : Exact} (ha : Scalar.isNaN a = false) (hb : Scalar.isNaN b = false)
    (h : rank a = rank b) : a = b := by
  cases a <;> cases b <;> simp_all [rank, Scalar.isNaN]

theorem beq_of_eq {a b : Exact} (ha : Scalar.isNaN a = false) (h : a = b) : (a == b) = true := by
  show eq a b = true
  subst h
  cases a <;> simp_all [eq, Scalar.isNaN]

theorem le_iff_rank {a b : Exact} :
    a ≤ b ↔ Scalar.isNaN a = false ∧ Scalar.isNaN b = false ∧ rank a ≤ rank b := by
  show (lt a b || eq a b) = true ↔ decide (a = nan) = false ∧ decide (b = nan) = false ∧ _
  cases a <;> cases b <;> simp [lt, eq, rank, Prod.Lex.toLex_le_toLex]
  exact le_iff_lt_or_eq.symm

instance : Scalar.IsOrdered Exact :=
  Scalar.isOrdered_of_rank lt_iff_rank le_iff_rank fun ha hb h => beq_of_eq ha (rank_inj ha hb h)

end Exact

namespace Double

open Float.Model (UnpackedFloat)

theorem beq_of_place {x y : Float} (hx : x.isNaN = false) (hy : y.isNaN = false)
    (h : place x = place y) : (x == y) = true := by
  have hlt : ¬ x.toModel.unpack.lt y.toModel.unpack = true :=
    fun hlt => ((lt_iff_rank hx hy).mp hlt).ne h
  have hgt : ¬ y.toModel.unpack.lt x.toModel.unpack = true :=
    fun hgt => ((lt_iff_rank hy hx).mp hgt).ne' h
  obtain ⟨o, ho⟩ := exists_compare hx hy
  rw [UnpackedFloat.lt, ho] at hlt
  rw [UnpackedFloat.lt, compare_swap, ho] at hgt
  show (x.toModel.unpack.compare y.toModel.unpack == some .eq) = true
  rw [ho]
  cases o with
  | lt => exact absurd rfl hlt
  | eq => rfl
  | gt => exact absurd rfl hgt

instance : Scalar.IsOrdered Float :=
  Scalar.isOrdered_of_rank lt_iff le_iff beq_of_place

end Double

end GeoRaster
