import GeoRaster.Json.Basic
import GeoRaster.Json.Parser
import Mathlib.Data.Int.Init
import Mathlib.Data.List.Basic
import Mathlib.Tactic.NormNum
import Mathlib.Tactic.Ring

namespace GeoRaster

namespace Decimal

@[simp]
theorem digitsValue_digits (n : ℕ) : digitsValue 0 (digits n) = n :=
  Nat.ofDigitChars_ten_toDigits

theorem digitsValue_append (acc : ℕ) (ds ds' : List Char) :
    digitsValue acc (ds ++ ds') = digitsValue (digitsValue acc ds) ds' :=
  Nat.ofDigitChars_append acc

theorem digitsValue_zeros (acc n : ℕ) :
    digitsValue acc (List.replicate n '0') = 10 ^ n * acc :=
  Nat.ofDigitChars_replicate_zero

theorem digits_ne_nil (n : ℕ) : digits n ≠ [] :=
  Nat.toDigits_ne_nil

theorem isDigit_of_mem_digits {n : ℕ} {c : Char} (h : c ∈ digits n) : c.isDigit = true :=
  Nat.isDigit_of_mem_toDigits (by decide) (by decide) h

theorem isDigit_of_mem_zeros {n : ℕ} {c : Char} (h : c ∈ List.replicate n '0') :
    c.isDigit = true := by
  rw [List.eq_of_mem_replicate h]
  rfl

theorem head?_digits {n : ℕ} (hn : n ≠ 0) : (digits n).head? ≠ some '0' := by
  induction n using Nat.strongRecOn with
  | ind n ih =>
    by_cases hlt : n < 10
    · rw [digits, Nat.toDigits_of_lt_base hlt, List.head?_cons]
      simpa using hn
    · rw [digits, Nat.toDigits_of_base_le (by decide) (Nat.le_of_not_lt hlt),
        List.head?_append_of_ne_nil _ Nat.toDigits_ne_nil]
      exact ih (n / 10) (by omega) (by omega)

theorem spanDigits_append {ds rest : List Char} (hd : ∀ c ∈ ds, c.isDigit = true)
    (hr : ∀ c ∈ rest.head?, c.isDigit = false) : spanDigits (ds ++ rest) = (ds, rest) := by
  rw [spanDigits, List.takeWhile_append_of_pos hd, List.dropWhile_append_of_pos hd]
  cases rest with
  | nil => simp
  | cons c rest =>
    have hc := ne_true_of_eq_false (hr c rfl)
    rw [List.takeWhile_cons_of_neg hc, List.dropWhile_cons_of_neg hc, List.append_nil]

end Decimal

namespace Json

open Decimal

variable {α : Type}

/-- What follows cannot be taken for more of a number. -/
def EndsNumber (rest : List Char) : Prop :=
  ∀ c ∈ rest.head?, c.isDigit = false ∧ c ≠ '.' ∧ c ≠ 'e' ∧ c ≠ 'E'

theorem endsNumber_nil : EndsNumber [] := by
  simp [EndsNumber]

theorem endsNumber_cons {c : Char} {rest : List Char} (hd : c.isDigit = false)
    (hc : c ≠ '.' ∧ c ≠ 'e' ∧ c ≠ 'E') : EndsNumber (c :: rest) := by
  rintro d hmem
  obtain rfl : c = d := Option.some.inj hmem
  exact ⟨hd, hc⟩

structure NumberParts where
  negative : Bool
  whole : List Char
  fraction : List Char
  exponent : Option ℤ

namespace NumberParts

def exponentText : Option ℤ → List Char
  | none => []
  | some e => 'e' :: (if e < 0 then ['-'] else []) ++ digits e.natAbs

def fractionText (ds : List Char) : List Char :=
  if ds = [] then [] else '.' :: ds

def text (p : NumberParts) : List Char :=
  (if p.negative then ['-'] else []) ++
    (p.whole ++ (fractionText p.fraction ++ exponentText p.exponent))

structure WellFormed (p : NumberParts) : Prop where
  whole_ne_nil : p.whole ≠ []
  whole_digits : ∀ c ∈ p.whole, c.isDigit = true
  whole_head : p.whole = ['0'] ∨ p.whole.head? ≠ some '0'
  fraction_digits : ∀ c ∈ p.fraction, c.isDigit = true

def decimal (p : NumberParts) : Decimal :=
  ⟨p.negative, digitsValue 0 (p.whole ++ p.fraction), p.exponent.getD 0 - p.fraction.length⟩

section Parts

variable {rest : List Char}

theorem takeWhole?_append {ds : List Char} (hne : ds ≠ []) (hd : ∀ c ∈ ds, c.isDigit = true)
    (hzero : ds = ['0'] ∨ ds.head? ≠ some '0') (hr : ∀ c ∈ rest.head?, c.isDigit = false) :
    takeWhole? (ds ++ rest) = some (ds, rest) := by
  rw [takeWhole?, spanDigits_append hd hr]
  obtain rfl | hhead := hzero
  · rfl
  · obtain ⟨c, ds, rfl⟩ := List.exists_cons_of_ne_nil hne
    have hc : c ≠ '0' := fun h => hhead (by rw [h]; rfl)
    split <;> rename_i heq
    · exact absurd (Prod.mk.inj heq).1 (List.cons_ne_nil _ _)
    · exact absurd (List.cons.inj (Prod.mk.inj heq).1).1 hc
    · exact absurd (List.cons.inj (Prod.mk.inj heq).1).1 hc
    · rw [Prod.mk.inj heq |>.1, Prod.mk.inj heq |>.2]

theorem takeFraction?_append {ds : List Char} (hd : ∀ c ∈ ds, c.isDigit = true)
    (hr : ∀ c ∈ rest.head?, c.isDigit = false ∧ c ≠ '.') :
    takeFraction? (fractionText ds ++ rest) = some (ds, rest) := by
  cases ds with
  | nil =>
    rw [fractionText, if_pos rfl, List.nil_append]
    cases rest with
    | nil => rfl
    | cons c rest =>
      rw [takeFraction?.eq_def]
      split
      · rename_i heq
        exact absurd (List.cons.inj heq).1 (hr c rfl).2
      · rfl
  | cons d ds =>
    rw [fractionText, if_neg (List.cons_ne_nil _ _), List.cons_append, takeFraction?,
      spanDigits_append hd fun c hc => (hr c hc).1]

theorem takeExponent?_append {e : Option ℤ} (hr : EndsNumber rest) :
    takeExponent? (exponentText e ++ rest) = some (e, rest) := by
  cases e with
  | none =>
    cases rest with
    | nil => rfl
    | cons c rest =>
      obtain ⟨-, -, hlower, hupper⟩ := hr c rfl
      rw [exponentText, List.nil_append, takeExponent?, if_neg (not_or.mpr ⟨hlower, hupper⟩)]
  | some e =>
    have hspan := spanDigits_append (fun _ => isDigit_of_mem_digits (n := e.natAbs))
      fun c hc => (hr c hc).1
    have hsign : takeSign ((if e < 0 then ['-'] else []) ++ digits e.natAbs ++ rest) =
        (decide (e < 0), digits e.natAbs ++ rest) := by
      by_cases he : e < 0
      · rw [if_pos he, decide_eq_true he]
        rfl
      · rw [if_neg he, decide_eq_false he, List.nil_append]
        obtain ⟨d, ds, hds⟩ := List.exists_cons_of_ne_nil (digits_ne_nil e.natAbs)
        have hd : d.isDigit = true := isDigit_of_mem_digits (hds ▸ List.mem_cons_self)
        rw [hds, List.cons_append, takeSign.eq_def]
        split
        · rename_i heq
          exact absurd ((List.cons.inj heq).1 ▸ hd) (by decide)
        · rename_i heq
          exact absurd ((List.cons.inj heq).1 ▸ hd) (by decide)
        · rfl
    rw [exponentText, List.cons_append, List.cons_append, takeExponent?, if_pos (.inl rfl), hsign]
    simp only [hspan]
    obtain ⟨d, ds, hds⟩ := List.exists_cons_of_ne_nil (digits_ne_nil e.natAbs)
    have hvalue : digitsValue 0 (d :: ds) = e.natAbs := by
      rw [← hds, digitsValue_digits]
    simp only [hds, hvalue, decide_eq_true_eq]
    congr 3
    split <;> omega

variable [Scalar α]

def value (p : NumberParts) : Json α :=
  let n := digitsValue 0 p.whole
  if p.fraction.isEmpty && p.exponent.isNone &&
      (if p.negative then 0 < n && n ≤ Nat.pow 2 63 else n < UInt64.size) then
    .integer (if p.negative then -n else n)
  else ofDecimal p.decimal

theorem head?_fractionText_append (ds : List Char) (hr : ∀ c ∈ rest.head?, c.isDigit = false) :
    ∀ c ∈ (fractionText ds ++ rest).head?, c.isDigit = false := by
  rw [fractionText]
  split
  · exact hr
  · rintro c hc
    obtain rfl : '.' = c := Option.some.inj hc
    rfl

theorem head?_exponentText_append (e : Option ℤ) (hr : EndsNumber rest) :
    ∀ c ∈ (exponentText e ++ rest).head?, c.isDigit = false ∧ c ≠ '.' := by
  cases e with
  | none => exact fun c hc => ⟨(hr c hc).1, (hr c hc).2.1⟩
  | some e =>
    rintro c hc
    obtain rfl : 'e' = c := Option.some.inj hc
    exact ⟨rfl, by decide⟩

theorem takeNumber?_text {p : NumberParts} (hp : p.WellFormed) (hr : EndsNumber rest) :
    takeNumber? (p.text ++ rest) = some ((p.value : Json α), rest) := by
  have hexponent := takeExponent?_append (e := p.exponent) hr
  have hpoint := head?_exponentText_append p.exponent hr
  have hfraction := takeFraction?_append hp.fraction_digits hpoint
  have hwhole := takeWhole?_append hp.whole_ne_nil hp.whole_digits hp.whole_head
    (head?_fractionText_append p.fraction fun c hc => (hpoint c hc).1)
  obtain ⟨negative, whole, fraction, exponent⟩ := p
  dsimp only at hexponent hfraction hwhole
  cases negative with
  | true =>
    simp only [text, if_true, List.append_assoc, List.cons_append, List.nil_append]
    rw [takeNumber?, hwhole]
    simp only [Option.bind_eq_bind, Option.bind_some, hfraction, hexponent, value, decimal,
      digitsValue_append]
  | false =>
    have hsign : ∀ r, whole ++ (fractionText fraction ++ (exponentText exponent ++ rest)) =
        '-' :: r → False := by
      obtain ⟨d, ds, rfl⟩ := List.exists_cons_of_ne_nil hp.whole_ne_nil
      intro r heq
      exact absurd ((List.cons.inj heq).1 ▸ hp.whole_digits d List.mem_cons_self) (by decide)
    simp only [text, Bool.false_eq_true, if_false, List.append_assoc, List.nil_append]
    rw [takeNumber?, hwhole]
    · simp only [Option.bind_eq_bind, Option.bind_some, hfraction, hexponent, value, decimal,
        digitsValue_append]
    · exact hsign

end Parts

end NumberParts

section Numbers

def intParts (n : ℤ) : NumberParts :=
  ⟨decide (n < 0), digits n.natAbs, [], none⟩

theorem intParts_wellFormed (n : ℤ) : (intParts n).WellFormed where
  whole_ne_nil := digits_ne_nil _
  whole_digits _ := isDigit_of_mem_digits
  whole_head := by
    by_cases hn : n.natAbs = 0
    · exact .inl (by rw [intParts, hn]; rfl)
    · exact .inr (head?_digits hn)
  fraction_digits := by simp [intParts]

theorem text_intParts (n : ℤ) : (intParts n).text = (toString n).toList := by
  rw [Int.toString_eq_repr, Int.repr_eq_if]
  by_cases hn : 0 ≤ n
  · have habs : n.natAbs = n.toNat := by omega
    simp [NumberParts.text, intParts, NumberParts.fractionText, NumberParts.exponentText, hn, habs,
      digits]
  · have habs : n.natAbs = (-n).toNat := by omega
    have hneg : n < 0 := by omega
    simp [NumberParts.text, intParts, NumberParts.fractionText, NumberParts.exponentText, hn, habs,
      hneg, digits]

variable [Scalar α]

def ofInt (n : ℤ) : Json α :=
  if -2 ^ 63 ≤ n ∧ n < 2 ^ 64 then .integer n else ofDecimal ⟨decide (n < 0), n.natAbs, 0⟩

theorem value_intParts (n : ℤ) : ((intParts n).value : Json α) = ofInt n := by
  have hdecimal : (intParts n).decimal = ⟨decide (n < 0), n.natAbs, 0⟩ := by
    simp [NumberParts.decimal, intParts]
  rw [NumberParts.value, hdecimal, ofInt]
  refine if_congr ?_ (congrArg integer ?_) rfl
  · by_cases hn : n < 0 <;> simp [intParts, hn, UInt64.size] <;> omega
  · simp only [intParts, digitsValue_digits, decide_eq_true_eq]
    split <;> omega

/-- The text of these parts is given, and it stands for a decimal that is no integer to the
reader. -/
structure NumberParts.Writes (p : NumberParts) (text : List Char) (d : Decimal) : Prop where
  wellFormed : p.WellFormed
  text_eq : p.text = text
  isReal : p.fraction ≠ [] ∨ p.exponent ≠ none
  decimal_eq : p.decimal = d

theorem NumberParts.Writes.takeNumber? {p : NumberParts} {text : List Char} {d : Decimal}
    (h : p.Writes text d) {rest : List Char} (hr : EndsNumber rest) :
    takeNumber? (text ++ rest) = some ((ofDecimal d : Json α), rest) := by
  have hvalue : (p.value : Json α) = ofDecimal d := by
    rw [value, h.decimal_eq]
    obtain hfraction | hexponent := h.isReal
    · simp [hfraction]
    · simp [hexponent]
  rw [← h.text_eq, takeNumber?_text h.wellFormed hr, hvalue]

omit [Scalar α]

section Layouts

variable {ds : List Char} (negative : Bool)

structure IsNumeral (ds : List Char) : Prop where
  ne_nil : ds ≠ []
  all_digits : ∀ c ∈ ds, c.isDigit = true
  head : ds = ['0'] ∨ ds.head? ≠ some '0'

theorem isNumeral_digits {n : ℕ} (hn : n ≠ 0) : IsNumeral (digits n) :=
  ⟨digits_ne_nil n, fun _ => isDigit_of_mem_digits, .inr (head?_digits hn)⟩

theorem isNumeral_zero : IsNumeral ['0'] :=
  ⟨List.cons_ne_nil _ _, List.forall_mem_singleton.mpr rfl, .inl rfl⟩

theorem exists_writes_whole (h : IsNumeral ds) {exponent : ℤ} (hexp : 0 ≤ exponent)
    (hzero : ds.head? = some '0' → exponent = 0) :
    ∃ p : NumberParts, p.Writes ((if negative then ['-'] else []) ++ positional true ds exponent)
      ⟨negative, digitsValue 0 ds * 10 ^ (exponent.natAbs + 1), -1⟩ := by
  refine ⟨⟨negative, ds ++ List.replicate exponent.natAbs '0', ['0'], none⟩, ⟨?_, ?_, ?_, ?_⟩, ?_,
    .inl (List.cons_ne_nil _ _), ?_⟩
  · simp [h.ne_nil]
  · intro c hc
    obtain hc | hc := List.mem_append.mp hc
    · exact h.all_digits c hc
    · exact isDigit_of_mem_zeros hc
  · by_cases hhead : ds.head? = some '0'
    · left
      simpa [hzero hhead] using h.head.resolve_right (not_not.mpr hhead)
    · right
      rwa [List.head?_append_of_ne_nil _ h.ne_nil]
  · simp
  · simp [NumberParts.text, NumberParts.fractionText, NumberParts.exponentText, positional, hexp]
  · have hzeros : List.replicate exponent.natAbs '0' ++ ['0'] =
        List.replicate (exponent.natAbs + 1) '0' := (List.replicate_succ' ..).symm
    rw [NumberParts.decimal, List.append_assoc, hzeros, digitsValue_append, digitsValue_zeros,
      Nat.mul_comm]
    rfl

theorem exists_writes_fraction (h : IsNumeral ds) (hhead : ds.head? ≠ some '0') {exponent : ℤ}
    (hexp : exponent < 0) :
    ∃ p : NumberParts, p.Writes ((if negative then ['-'] else []) ++ positional true ds exponent)
      ⟨negative, digitsValue 0 ds, exponent⟩ := by
  have hplaces : (0 : ℤ) - exponent.natAbs = exponent := by omega
  have hpos : 0 < exponent.natAbs := by omega
  rw [positional, if_neg (Int.not_le.mpr hexp)]
  dsimp only
  by_cases hlt : exponent.natAbs < ds.length
  · have htake : ds.take (ds.length - exponent.natAbs) ≠ [] := by
      rw [Ne, List.take_eq_nil_iff, not_or]
      exact ⟨by omega, h.ne_nil⟩
    have hdrop : (ds.drop (ds.length - exponent.natAbs)).length = exponent.natAbs := by
      rw [List.length_drop]
      omega
    have hfraction : ds.drop (ds.length - exponent.natAbs) ≠ [] := by
      rw [← List.length_pos_iff, hdrop]
      exact hpos
    rw [if_pos hlt]
    refine ⟨⟨negative, ds.take (ds.length - exponent.natAbs),
      ds.drop (ds.length - exponent.natAbs), none⟩, ⟨htake, ?_, .inr ?_, ?_⟩, ?_,
      .inl hfraction, ?_⟩
    · exact fun c hc => h.all_digits c (List.mem_of_mem_take hc)
    · rwa [List.head?_take, if_neg (by omega)]
    · exact fun c hc => h.all_digits c (List.mem_of_mem_drop hc)
    · simp [NumberParts.text, NumberParts.fractionText, NumberParts.exponentText, hfraction]
    · simp only [NumberParts.decimal, List.take_append_drop, hdrop, Option.getD_none, hplaces]
  · rw [if_neg hlt]
    refine ⟨⟨negative, ['0'], List.replicate (exponent.natAbs - ds.length) '0' ++ ds, none⟩,
      ⟨List.cons_ne_nil _ _, ?_, .inl rfl, ?_⟩, ?_, .inl (by simp [h.ne_nil]), ?_⟩
    · simp
    · intro c hc
      obtain hc | hc := List.mem_append.mp hc
      · exact isDigit_of_mem_zeros hc
      · exact h.all_digits c hc
    · simp [NumberParts.text, NumberParts.fractionText, NumberParts.exponentText, h.ne_nil]
    · have hlength : (List.replicate (exponent.natAbs - ds.length) '0' ++ ds).length =
          exponent.natAbs := by
        rw [List.length_append, List.length_replicate]
        omega
      have hvalue : digitsValue 0 (['0'] ++ (List.replicate (exponent.natAbs - ds.length) '0' ++
          ds)) = digitsValue 0 ds := by
        rw [digitsValue_append, digitsValue_append, digitsValue_zeros]
        rfl
      simp only [NumberParts.decimal, hlength, hvalue, Option.getD_none, hplaces]

theorem exists_writes_withExponent (h : IsNumeral ds) (exponent : ℤ) :
    ∃ p : NumberParts, p.Writes ((if negative then ['-'] else []) ++ withExponent ds exponent)
      ⟨negative, digitsValue 0 ds, exponent⟩ := by
  obtain ⟨d, ds, rfl⟩ := List.exists_cons_of_ne_nil h.ne_nil
  refine ⟨⟨negative, [d], ds, some (exponent + (d :: ds).length - 1)⟩, ⟨?_, ?_, ?_, ?_⟩, ?_,
    .inr (Option.some_ne_none _), ?_⟩
  · exact List.cons_ne_nil _ _
  · rintro c hc
    obtain rfl := List.mem_singleton.mp hc
    exact h.all_digits c List.mem_cons_self
  · by_cases hd : d = '0'
    · exact .inl (by rw [hd])
    · exact .inr fun hhead => hd (Option.some.inj hhead)
  · exact fun c hc => h.all_digits c (List.mem_cons_of_mem _ hc)
  · cases ds <;>
      simp [NumberParts.text, NumberParts.fractionText, NumberParts.exponentText, withExponent]
  · have hexponent : exponent + (d :: ds).length - 1 - ds.length = exponent := by
      rw [List.length_cons]
      omega
    simp only [NumberParts.decimal, Option.getD_some, hexponent, List.singleton_append]

end Layouts

end Numbers

end Json

namespace Decimal

/-- A decimal as the reader finds it in a document: one that is written out as a whole number has
got one more digit, a zero after the point. -/
def laidOut (d : Decimal) : Decimal :=
  if d.coefficient = 0 then ⟨d.negative, 0, -1⟩
  else if Layout.document.isPositional (d.exponent + (digits d.coefficient).length - 1) = true ∧
      0 ≤ d.exponent then
    ⟨d.negative, d.coefficient * 10 ^ (d.exponent.natAbs + 1), -1⟩
  else d

theorem toRat_laidOut (d : Decimal) : d.laidOut.toRat = d.toRat := by
  obtain ⟨negative, coefficient, exponent⟩ := d
  rw [laidOut]
  split_ifs with hzero hwhole
  · obtain rfl : coefficient = 0 := hzero
    simp [toRat]
  · obtain ⟨-, hexp : 0 ≤ exponent⟩ := hwhole
    have hten : mkRat (coefficient * 10 ^ (exponent.natAbs + 1) : ℕ) (Nat.pow 10 1) =
        (coefficient * Nat.pow 10 exponent.natAbs : ℕ) := by
      rw [Rat.mkRat_eq_div, Nat.pow_eq, Nat.pow_eq]
      push_cast
      ring
    have hneg : ¬ exponent < 0 := Int.not_lt.mpr hexp
    have hone : (-1 : ℤ) < 0 := by decide
    have habs : (-1 : ℤ).natAbs = 1 := rfl
    simp only [toRat, if_pos hone, if_neg hneg, habs, hten]
  · rfl

/-- The text of a decimal in a document stands for this decimal as it is laid out. -/
theorem exists_writes_document (d : Decimal) :
    ∃ p : Json.NumberParts, p.Writes (Layout.document.text d) d.laidOut := by
  obtain ⟨negative, coefficient, exponent⟩ := d
  rw [Layout.text, laidOut]
  dsimp only
  by_cases hzero : coefficient = 0
  · rw [if_pos hzero, if_pos hzero]
    exact Json.exists_writes_whole negative Json.isNumeral_zero le_rfl fun _ => rfl
  have hnumeral := Json.isNumeral_digits hzero
  have hhead := head?_digits hzero
  rw [if_neg hzero, if_neg hzero]
  by_cases hpositional :
      Layout.document.isPositional (exponent + (digits coefficient).length - 1) = true
  · simp only [hpositional, if_true, true_and]
    by_cases hexp : 0 ≤ exponent
    · obtain ⟨p, hp⟩ := Json.exists_writes_whole negative hnumeral hexp (absurd · hhead)
      rw [digitsValue_digits] at hp
      rw [if_pos hexp]
      exact ⟨p, hp⟩
    · obtain ⟨p, hp⟩ := Json.exists_writes_fraction negative hnumeral hhead (Int.not_le.mp hexp)
      rw [digitsValue_digits] at hp
      rw [if_neg hexp]
      exact ⟨p, hp⟩
  · obtain ⟨p, hp⟩ := Json.exists_writes_withExponent negative hnumeral exponent
    rw [digitsValue_digits] at hp
    rw [if_neg hpositional, if_neg (not_and_of_not_left _ hpositional)]
    exact ⟨p, hp⟩

end Decimal

namespace Json

/-- A number that is written into a document and read again, in an arithmetic that may be another
one. -/
def rereadNumber {α β : Type} [ShortestText α] [Scalar β] (x : α) : Json β :=
  match ShortestText.written x with
  | .finite d => ofDecimal d.laidOut
  | _ => .null

theorem NumberParts.WellFormed.head?_text {p : NumberParts} (hp : p.WellFormed) :
    ∃ c r, p.text = c :: r ∧ (c = '-' ∨ c.isDigit = true) := by
  obtain ⟨d, ds, hds⟩ := List.exists_cons_of_ne_nil hp.whole_ne_nil
  have hd := hp.whole_digits d (hds ▸ List.mem_cons_self)
  rw [text, hds]
  cases p.negative with
  | true => exact ⟨'-', _, rfl, .inl rfl⟩
  | false => exact ⟨d, _, rfl, .inr hd⟩

end Json

end GeoRaster
