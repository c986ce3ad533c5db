import GeoRaster.Json.Basic
import GeoRaster.Json.Parser
import Mathlib.Data.List.Basic

namespace GeoRaster.Json

theorem hexDigit?_digitChar : ∀ n < 16, hexDigit? (Nat.digitChar n) = some n := by
  decide

theorem takeUnit?_hexByte {n : ℕ} (hn : n < 256) (rest : List Char) :
    takeUnit? ('0' :: '0' :: hexByte n ++ rest) = some (n, rest) := by
  have hzero : hexDigit? '0' = some 0 := rfl
  have hhigh := hexDigit?_digitChar (n / 16 % 16) (Nat.mod_lt _ (by decide))
  have hlow := hexDigit?_digitChar (n % 16) (Nat.mod_lt _ (by decide))
  have hvalue : ((0 * 16 + 0) * 16 + n / 16 % 16) * 16 + n % 16 = n := by omega
  simp only [hexByte, List.cons_append, List.nil_append, takeUnit?, hzero, hhigh, hlow,
    Option.bind_eq_bind, Option.bind_some, hvalue]

theorem takeEscapedUnit?_hexByte {n : ℕ} (hn : n < 256) (rest : List Char) :
    takeEscapedUnit? ('0' :: '0' :: hexByte n ++ rest) = some (some (Char.ofNat n), rest) := by
  have hleading : isLeadingSurrogate n = false := by
    simp only [isLeadingSurrogate, Bool.and_eq_false_iff, decide_eq_false_iff_not]
    omega
  have htrailing : isTrailingSurrogate n = false := by
    simp only [isTrailingSurrogate, Bool.and_eq_false_iff, decide_eq_false_iff_not]
    omega
  rw [takeEscapedUnit?, takeUnit?_hexByte hn]
  simp [hleading, htrailing]

def IsPlain (c : Char) : Prop :=
  0x20 ≤ c.toNat ∧ c ≠ '"' ∧ c ≠ '\\'

theorem escapeChar_of_isPlain {c : Char} (h : IsPlain c) : escapeChar c = [c] := by
  obtain ⟨hlow, hquote, hslash⟩ := h
  rw [escapeChar.eq_def]
  split
  · exact absurd rfl hquote
  · exact absurd rfl hslash
  iterate 5 exact absurd hlow (by decide)
  exact if_neg (Nat.not_lt.mpr hlow)

theorem takeString?_of_isPlain {c : Char} (h : IsPlain c) (fuel : ℕ) (sound : Bool)
    (acc rest : List Char) :
    takeString? (fuel + 1) sound acc (c :: rest) = takeString? fuel sound (c :: acc) rest := by
  obtain ⟨hlow, hquote, hslash⟩ := h
  rw [takeString?.eq_def]
  split
  · contradiction
  · rename_i heq
    obtain rfl := Nat.succ.inj heq
    split <;> rename_i heq
    · exact absurd (List.cons.inj heq).1 hquote
    · exact absurd (List.cons.inj heq).1 hslash
    · exact absurd (List.cons.inj heq).1 hslash
    · obtain ⟨rfl, rfl⟩ := List.cons.inj heq
      simp [Nat.not_lt.mpr hlow, hslash]
    · contradiction

theorem takeString?_escapeChar (fuel : ℕ) (sound : Bool) (acc : List Char) (c : Char)
    (rest : List Char) : takeString? (fuel + 1) sound acc (escapeChar c ++ rest) =
      takeString? fuel sound (c :: acc) rest := by
  by_cases hplain : IsPlain c
  · rw [escapeChar_of_isPlain hplain]
    exact takeString?_of_isPlain hplain fuel sound acc rest
  rw [escapeChar.eq_def]
  split
  iterate 7 rfl
  rename_i hquote hslash _ _ _ _ _
  have hlow : c.toNat < 0x20 := by
    by_contra hlow
    exact hplain ⟨Nat.not_lt.mp hlow, hquote, hslash⟩
  have hunit := takeEscapedUnit?_hexByte (n := c.toNat) (by omega) rest
  rw [Char.ofNat_toNat] at hunit
  rw [if_pos hlow, List.cons_append, List.cons_append, takeString?, hunit]
  rfl

theorem toList_quote (s : String) :
    (quote s).toList = '"' :: (s.toList.flatMap escapeChar ++ ['"']) := by
  rw [quote]
  split
  · rw [String.toList_ofList, List.cons_append]
  · rename_i hplain
    have hself : s.toList.flatMap escapeChar = s.toList := by
      have hmem : ∀ c ∈ s.toList, escapeChar c = [c] := by
        intro c hc
        simp only [List.any_eq_true, Bool.or_eq_true, decide_eq_true_eq, beq_iff_eq,
          not_exists, not_and, not_or, Nat.not_lt] at hplain
        obtain ⟨⟨hlow, hquote⟩, hslash⟩ := hplain c hc
        exact escapeChar_of_isPlain ⟨hlow, hquote, hslash⟩
      rw [List.flatMap_congr hmem, List.flatMap_singleton']
    rw [hself]
    simp

theorem takeString?_escaped {cs : List Char} {fuel : ℕ} (hf : cs.length < fuel) (acc : List Char)
    (rest : List Char) : takeString? fuel true acc (cs.flatMap escapeChar ++ '"' :: rest) =
      some (some (String.ofList (acc.reverse ++ cs)), rest) := by
  induction cs generalizing fuel acc with
  | nil =>
    obtain ⟨fuel, rfl⟩ := Nat.exists_eq_succ_of_ne_zero (Nat.ne_zero_of_lt hf)
    rw [List.flatMap_nil, List.nil_append, List.append_nil]
    rfl
  | cons c cs ih =>
    obtain ⟨fuel, rfl⟩ := Nat.exists_eq_succ_of_ne_zero (Nat.ne_zero_of_lt hf)
    rw [List.flatMap_cons, List.append_assoc, takeString?_escapeChar,
      ih (Nat.lt_of_succ_lt_succ hf), List.reverse_cons, List.append_assoc]
    rfl

theorem length_le_escaped (cs : List Char) : cs.length ≤ (cs.flatMap escapeChar).length := by
  induction cs with
  | nil => exact Nat.le_refl _
  | cons c cs ih =>
    have hc : 0 < (escapeChar c).length := by
      rw [escapeChar.eq_def]
      split
      iterate 7 exact Nat.two_pos
      split <;> simp
    rw [List.flatMap_cons, List.length_append, List.length_cons]
    omega

/-- A quoted text with the opening quote taken off is read back, whatever follows it. -/
theorem takeString?_quote (s : String) (rest : List Char) :
    ∃ r, (quote s).toList ++ rest = '"' :: r ∧
      takeString? (r.length + 1) true [] r = some (some s, rest) := by
  refine ⟨s.toList.flatMap escapeChar ++ '"' :: rest, by simp [toList_quote], ?_⟩
  rw [takeString?_escaped]
  · rw [List.reverse_nil, List.nil_append, String.ofList_toList]
  · have := length_le_escaped s.toList
    rw [List.length_append]
    omega

end GeoRaster.Json
