import GeoRaster.Proofs.Bandwise

namespace GeoRaster

namespace Text

structure Numeral (most : ℕ) (cs : List Char) (n : ℕ) : Prop where
  le : n ≤ most
  written : ∃ ds, (cs = ds ∨ cs = '+' :: ds) ∧ ds ≠ [] ∧ (∀ c ∈ ds, c.isDigit) ∧
    Decimal.digitsValue 0 ds = n

theorem readDigits?_eq_some {ds : List Char} {n : ℕ} :
    readDigits? ds = some n ↔ ds ≠ [] ∧ (∀ c ∈ ds, c.isDigit) ∧ Decimal.digitsValue 0 ds = n := by
  rw [readDigits?]
  split
  · rename_i h
    simp only [Bool.or_eq_true, List.isEmpty_iff, Bool.not_eq_true', List.all_eq_false] at h
    constructor
    · exact fun hn => absurd hn (by simp)
    · rintro ⟨hne, hdigits, -⟩
      obtain hnil | ⟨c, hc, hnot⟩ := h
      · exact absurd hnil hne
      · exact absurd (hdigits c hc) hnot
  · rename_i h
    simp only [Bool.or_eq_true, List.isEmpty_iff, Bool.not_eq_true', not_or, Bool.not_eq_false,
      List.all_eq_true] at h
    obtain ⟨hne, hdigits⟩ := h
    exact ⟨fun hn => ⟨hne, hdigits, Option.some.inj hn⟩, fun hn => congrArg some hn.2.2⟩

theorem readNat?_eq_some {most : ℕ} {cs : List Char} {n : ℕ} :
    readNat? most cs = some n ↔ Numeral most cs n := by
  rw [readNat?.eq_def]
  simp only [Option.filter_eq_some_iff, decide_eq_true_eq, readDigits?_eq_some]
  split
  · rename_i r
    constructor
    · rintro ⟨hr, hle⟩
      exact ⟨hle, r, .inr rfl, hr⟩
    · rintro ⟨hle, ds, rfl | hds, h⟩
      · -- a sign is no digit
        exact absurd (h.2.1 '+' (List.mem_cons_self ..)) (by decide)
      · obtain rfl := (List.cons.inj hds).2
        exact ⟨h, hle⟩
  · rename_i hsign
    constructor
    · rintro ⟨hr, hle⟩
      exact ⟨hle, cs, .inl rfl, hr⟩
    · rintro ⟨hle, ds, rfl | rfl, h⟩
      · exact ⟨h, hle⟩
      · exact absurd rfl (hsign ds)

end Text

namespace BandSelection

variable {names : List String} {key : String} {low high step i : ℕ} {is : List ℕ}

section Keys

/-- A text denotes the first band whose name has the same key. When there is none, it denotes the
band whose number it writes, counted from one. -/
inductive Denotes (names : List String) (key : String) (i : ℕ) : Prop
  | named (name : String) (at_place : names[i]? = some name) (same : nameKey name = nameKey key)
      (first : ∀ other ∈ names.take i, nameKey other ≠ nameKey key)
  | numbered (unnamed : ∀ name ∈ names, nameKey name ≠ nameKey key)
      (written : Text.Numeral maxCount (Text.trimList key.toList) (i + 1)) (lt : i < names.length)

theorem named?_eq_some : named? names key = some i ↔
    ∃ name, names[i]? = some name ∧ nameKey name = nameKey key ∧
      ∀ other ∈ names.take i, nameKey other ≠ nameKey key := by
  rw [named?, List.findIdx?_eq_some_iff_getElem]
  simp only [beq_iff_eq]
  constructor
  · rintro ⟨hi, hsame, hfirst⟩
    refine ⟨names[i], List.getElem?_eq_getElem hi, hsame, fun other hother => ?_⟩
    obtain ⟨j, hj, rfl⟩ := List.mem_take_iff_getElem.mp hother
    exact hfirst j (by omega)
  · rintro ⟨name, hname, hsame, hfirst⟩
    obtain ⟨hi, rfl⟩ := List.getElem?_eq_some_iff.mp hname
    refine ⟨hi, hsame, fun j hj => hfirst _ ?_⟩
    exact List.mem_take_iff_getElem.mpr ⟨j, by omega, rfl⟩

theorem named?_eq_none :
    named? names key = none ↔ ∀ name ∈ names, nameKey name ≠ nameKey key := by
  simp only [named?, List.findIdx?_eq_none_iff, beq_eq_false_iff_ne]

theorem lookup_eq_ok : lookup names key = .ok i ↔ Denotes names key i := by
  rw [lookup]
  cases hnamed : named? names key with
  | some j =>
    obtain ⟨name, hplace, hsame, hfirst⟩ := named?_eq_some.mp hnamed
    constructor
    · intro h
      obtain rfl : j = i := Except.ok.inj h
      exact .named name hplace hsame hfirst
    · rintro (⟨other, hi, hother, hbefore⟩ | ⟨hnone, -, -⟩)
      · rw [named?_eq_some.mpr ⟨other, hi, hother, hbefore⟩] at hnamed
        exact congrArg _ (Option.some.inj hnamed).symm
      · exact absurd hsame (hnone name (List.mem_of_getElem? hplace))
  | none =>
    have hnone := named?_eq_none.mp hnamed
    constructor
    · intro h
      dsimp only at h
      split at h
      · exact absurd h (by simp)
      · rename_i n hn
        split at h
        · exact absurd h (by simp)
        · rename_i hrange
          obtain rfl : n - 1 = i := Except.ok.inj h
          have hpos : n - 1 + 1 = n := by omega
          refine .numbered hnone ?_ (by omega)
          rw [hpos]
          exact Text.readNat?_eq_some.mp hn
    · rintro (⟨name, hplace, hsame, -⟩ | ⟨-, hwritten, hlt⟩)
      · exact absurd hsame (hnone name (List.mem_of_getElem? hplace))
      · dsimp only
        rw [Text.readNat?_eq_some.mpr hwritten]
        exact if_neg (by omega)

/-- A band is denoted by its own name unless an earlier one takes the name away. -/
theorem denotes_own (hi : i < names.length) :
    Denotes names names[i] i ↔ ∀ other ∈ names.take i, nameKey other ≠ nameKey names[i] := by
  constructor
  · rintro (⟨-, -, -, hfirst⟩ | ⟨hnone, -, -⟩)
    · exact hfirst
    · exact absurd rfl (hnone names[i] (List.getElem_mem hi))
  · exact .named names[i] (List.getElem?_eq_getElem hi) rfl

end Keys

section Steps

structure Progression (low high step : ℕ) (is : List ℕ) : Prop where
  increasing : is.Pairwise (· < ·)
  mem_iff : ∀ i, i ∈ is ↔ low ≤ i ∧ i ≤ high ∧ step ∣ i - low
  length_eq : is.length = (high - low) / step + 1

theorem mem_stepped (hle : low ≤ high) (hstep : 0 < step) :
    i ∈ stepped low high step ↔ low ≤ i ∧ i ≤ high ∧ step ∣ i - low := by
  constructor
  · intro h
    have hhigh := stepped_le hle h
    obtain ⟨k, -, rfl⟩ := List.mem_map.mp h
    exact ⟨Nat.le_add_right .., hhigh, by simp⟩
  · rintro ⟨hlow, hhigh, k, hk⟩
    refine List.mem_map.mpr ⟨k, List.mem_range.mpr ?_, by omega⟩
    rw [Nat.lt_succ_iff, Nat.le_div_iff_mul_le hstep, Nat.mul_comm, ← hk]
    exact Nat.sub_le_sub_right hhigh low

theorem progression_stepped (hle : low ≤ high) (hstep : 0 < step) :
    Progression low high step (stepped low high step) where
  increasing := by
    rw [stepped, List.pairwise_map]
    refine List.pairwise_lt_range.imp fun {a b} hlt => ?_
    exact Nat.add_lt_add_left (Nat.mul_lt_mul_of_pos_left hlt hstep) low
  mem_iff _ := mem_stepped hle hstep
  length_eq := by rw [stepped, List.length_map, List.length_range]

theorem Progression.eq_stepped (h : Progression low high step is) (hle : low ≤ high)
    (hstep : 0 < step) : stepped low high step = is := by
  have hs := progression_stepped hle hstep
  exact hs.increasing.eq_of_mem_iff h.increasing fun i => (hs.mem_iff i).trans (h.mem_iff i).symm

def IsStep (text : Option String) (n : ℕ) : Prop :=
  match text with
  | none => n = 1
  | some s =>
    let cs := Text.trimList s.toList
    if cs = [] then n = 1 else 0 < n ∧ Text.Numeral maxCount cs n

theorem readStep_eq_ok {text : Option String} {n : ℕ} :
    readStep text = .ok n ↔ IsStep text n := by
  cases text with
  | none => simp [readStep, IsStep, eq_comm]
  | some s =>
    simp only [readStep, IsStep, List.isEmpty_iff]
    split
    · simp [eq_comm]
    · rw [← Text.readNat?_eq_some]
      cases Text.readNat? maxCount (Text.trimList s.toList) with
      | none => simp
      | some m =>
        cases m with
        | zero =>
          simp only [reduceCtorEq, Option.some.injEq, false_iff, not_and]
          omega
        | succ m =>
          simp only [Except.ok.injEq, Option.some.injEq]
          omega

theorem IsStep.pos {text : Option String} {n : ℕ} (h : IsStep text n) : 0 < n := by
  cases text with
  | none => exact h ▸ Nat.one_pos
  | some s =>
    simp only [IsStep] at h
    split at h
    · exact h ▸ Nat.one_pos
    · exact h.1

end Steps

/-- The places that a selection stands for among bands with the given names. -/
def Selects (names : List String) : Option AxisSelection → List ℕ → Prop
  | none, is => is = List.range names.length
  | some (.values keys), is => keys ≠ [] ∧ List.Forall₂ (Denotes names) keys is
  | some (.interval min max step), is =>
    ∃ low high n, Denotes names min low ∧ Denotes names max high ∧ low ≤ high ∧ IsStep step n ∧
      Progression low high n is

theorem resolve_eq_ok {selection : Option AxisSelection} :
    resolve names selection = .ok is ↔ Selects names selection is := by
  match selection with
  | none => simp [resolve, Selects, eq_comm]
  | some (.values keys) =>
    rw [resolve, Selects]
    by_cases hkeys : keys = []
    · simp [hkeys]
    · rw [if_neg (by simpa using hkeys), mapM_eq_ok_iff]
      simp only [lookup_eq_ok, ne_eq, hkeys, not_false_eq_true, true_and]
  | some (.interval min max step) =>
    rw [resolve, Selects]
    constructor
    · intro h
      obtain ⟨low, hlow, h⟩ := bind_eq_ok.mp h
      obtain ⟨high, hhigh, h⟩ := bind_eq_ok.mp h
      split at h
      · exact absurd h (by simp)
      · rename_i hle
        obtain ⟨n, hn, h⟩ := bind_eq_ok.mp h
        obtain rfl : stepped low high n = is := Except.ok.inj h
        have hstep := readStep_eq_ok.mp hn
        exact ⟨low, high, n, lookup_eq_ok.mp hlow, lookup_eq_ok.mp hhigh, not_lt.mp hle, hstep,
          progression_stepped (not_lt.mp hle) hstep.pos⟩
    · rintro ⟨low, high, n, hlow, hhigh, hle, hn, his⟩
      refine bind_eq_ok.mpr ⟨low, lookup_eq_ok.mpr hlow, ?_⟩
      refine bind_eq_ok.mpr ⟨high, lookup_eq_ok.mpr hhigh, ?_⟩
      rw [if_neg (not_lt.mpr hle), ← his.eq_stepped hle hn.pos]
      exact bind_eq_ok.mpr ⟨n, readStep_eq_ok.mpr hn, rfl⟩

theorem Selects.single : Selects names (some (.values [key])) [i] ↔ Denotes names key i := by
  simp [Selects]

end BandSelection

theorem Band.exists_select {σ : Type} {bands : List (Band σ)} {is : List ℕ}
    (h : ∀ i ∈ is, i < bands.length) :
    ∃ picked, Band.select bands is = .ok picked ∧
      List.Forall₂ (fun i b => bands[i]? = some b) is picked := by
  obtain ⟨picked, hpicked⟩ := exists_forall₂ (R := fun i b => bands[i]? = some b) fun i hi =>
    ⟨bands.get ⟨i, h i hi⟩, List.getElem?_eq_getElem (h i hi)⟩
  exact ⟨picked, Band.select_eq_ok.mpr hpicked, hpicked⟩

namespace CoverageDescriptor

variable {α : Type} {d : CoverageDescriptor α}

def bandNames (d : CoverageDescriptor α) : List String :=
  d.bands.map BandDefinition.name

theorem bandsFor_eq_ok {subset : Option AxisSubset} {is : List ℕ} :
    d.bandsFor subset = .ok is ↔
      BandSelection.Selects d.bandNames (subset.map AxisSubset.selection) is := by
  rw [← BandSelection.resolve_eq_ok, bandsFor, selectBands, bandNames]
  cases BandSelection.resolve _ _ <;> simp

/-- Places of bands are what a subset stands for. All of them are there, so that bands can be picked
from every raster with as many, and what stands for nothing is refused as a parameter. A band
answers to its own name unless an earlier one has it. -/
theorem bandsFor_selects (d : CoverageDescriptor α) (subset : Option AxisSubset) :
    (∀ is, d.bandsFor subset = .ok is ↔
      BandSelection.Selects d.bandNames (subset.map AxisSubset.selection) is) ∧
    (∀ is, d.bandsFor subset = .ok is → (∀ i ∈ is, i < d.bands.length) ∧
      ∀ {σ : Type} (bands : List (Band σ)), bands.length = d.bands.length →
        ∃ picked, Band.select bands is = .ok picked ∧
          List.Forall₂ (fun i b => bands[i]? = some b) is picked) ∧
    (∀ e, d.bandsFor subset = .error e →
      e.code = .invalidParameterValue ∧ e.locator = some "RangeSubset") ∧
    ∀ (i : ℕ) (hi : i < d.bandNames.length) (axis : String),
      d.bandsFor (some ⟨axis, .values [d.bandNames[i]]⟩) = .ok [i] ↔
        ∀ other ∈ d.bandNames.take i,
          BandSelection.nameKey other ≠ BandSelection.nameKey d.bandNames[i] := by
  refine ⟨fun is => bandsFor_eq_ok, fun is his => ?_, fun e he => ?_, fun i hi axis => ?_⟩
  · have hlt : ∀ i ∈ is, i < d.bands.length := fun i => band_lt_of_bandsFor his
    exact ⟨hlt, fun bands hbands => Band.exists_select fun i hi => (hlt i hi).trans_eq hbands.symm⟩
  · obtain ⟨f, rfl⟩ := bandsFor_error he
    exact ⟨rfl, rfl⟩
  · rw [bandsFor_eq_ok]
    exact BandSelection.Selects.single.trans (BandSelection.denotes_own hi)

/-- A band named after a number hides the band with that number, and the second of two bands of one
name is still found by its number. -/
theorem bandsFor_selects_shadowed :
    (small (α := Exact) ["Red", "red", "1", "near IR"]).bandsFor
      (some ⟨"Band", .values ["RED ", "+2", "1", "Near_ir"]⟩) = .ok [0, 1, 2, 3] := by
  obtain ⟨hselects, -⟩ := bandsFor_selects (small (α := Exact) ["Red", "red", "1", "near IR"])
    (some ⟨"Band", .values ["RED ", "+2", "1", "Near_ir"]⟩)
  have hnumber : Text.Numeral maxCount (Text.trimList "+2".toList) (1 + 1) :=
    ⟨by decide, ['2'], .inr (by decide), by decide, List.forall_mem_singleton.mpr rfl, rfl⟩
  rw [hselects]
  refine ⟨by decide, .cons ?_ (.cons ?_ (.cons ?_ (.cons ?_ .nil)))⟩
  · exact .named "Red" rfl (by decide) (by decide)
  · exact .numbered (by decide) hnumber (by decide)
  · exact .named "1" rfl (by decide) (by decide)
  · exact .named "near IR" rfl (by decide) (by decide)

end CoverageDescriptor

end GeoRaster
