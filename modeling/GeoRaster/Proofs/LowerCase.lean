import GeoRaster.Text.Basic
import GeoRaster.Text.LowerCase
import Mathlib.Data.List.TakeWhile

namespace GeoRaster.Text

variable {before rest cs pre tail : List Char} {c d : Char}

section AsciiCase

theorem isAlpha_iff : c.isAlpha = true ↔
    65 ≤ c.toNat ∧ c.toNat ≤ 90 ∨ 97 ≤ c.toNat ∧ c.toNat ≤ 122 := by
  have hletter : c.isAlpha =
      (decide (65 ≤ c.val ∧ c.val ≤ 90) || (decide (97 ≤ c.val) && decide (c.val ≤ 122))) := rfl
  simp only [hletter, Bool.or_eq_true, Bool.and_eq_true, decide_eq_true_eq,
    UInt32.le_iff_toNat_le]
  rfl

theorem toLower_of_not_isAlpha (h : c.isAlpha = false) : c.toLower = c := by
  refine dif_neg fun ⟨hlow, hhigh⟩ => Bool.eq_false_iff.mp h (isAlpha_iff.mpr (.inl ?_))
  exact ⟨UInt32.le_iff_toNat_le.mp hlow, UInt32.le_iff_toNat_le.mp hhigh⟩

theorem toLower_of_not_ascii (h : ¬ c.toNat < 128) : c.toLower = c := by
  refine toLower_of_not_isAlpha (Bool.eq_false_iff.mpr fun halpha => ?_)
  have := isAlpha_iff.mp halpha
  omega

/-- What the case of no ASCII letter decides about a character. -/
theorem apply_toLower {β : Type} {f : Char → β}
    (hascii : ∀ n < 128, f (Char.ofNat n).toLower = f (Char.ofNat n)) (c : Char) :
    f c.toLower = f c := by
  by_cases h : c.toNat < 128
  · have hc := hascii c.toNat h
    rwa [Char.ofNat_toNat] at hc
  · rw [toLower_of_not_ascii h]

theorem isAlpha_toLower (c : Char) : c.toLower.isAlpha = c.isAlpha :=
  apply_toLower (by decide) c

theorem toNat_toLower_lt : c.toLower.toNat < 128 ↔ c.toNat < 128 := by
  have h : (c.toLower.toNat < 128 : Bool) = (c.toNat < 128 : Bool) :=
    apply_toLower (f := fun c => (c.toNat < 128 : Bool)) (by decide) c
  simpa only [decide_eq_true_eq] using Bool.eq_iff_iff.mp h

theorem isBlank_toLower (c : Char) : isBlank c.toLower = isBlank c :=
  apply_toLower (by decide) c

theorem trimList_map_toLower (cs : List Char) :
    trimList (cs.map Char.toLower) = (trimList cs).map Char.toLower := by
  have hblank : isBlank ∘ Char.toLower = isBlank := funext isBlank_toLower
  simp only [trimList, List.dropWhile_map, hblank, ← List.map_reverse]

theorem sameIgnoringCase_iff {a b : String} :
    sameIgnoringCase a b = true ↔ a.toList.map Char.toLower = b.toList.map Char.toLower := by
  rw [sameIgnoringCase, beq_iff_eq]

theorem isCased_toLower (c : Char) : isCased c.toLower = isCased c :=
  apply_toLower (by decide) c

theorem skippedRanges_letters : ∀ r ∈ skippedRanges.toList,
    r.2 < 65 ∨ 90 < r.1 ∧ r.2 < 97 ∨ 122 < r.1 := by
  decide +kernel

theorem isSkipped_of_isAlpha (h : c.isAlpha = true) : isSkipped c = false := by
  rw [Bool.eq_false_iff]
  intro hskipped
  obtain ⟨r, hr, hin⟩ := inRanges_iff.mp hskipped
  have houtside := skippedRanges_letters r (Array.mem_toList_iff.mpr hr)
  have hletter := isAlpha_iff.mp h
  omega

theorem isSkipped_toLower (c : Char) : isSkipped c.toLower = isSkipped c := by
  cases h : c.isAlpha with
  | true => rw [isSkipped_of_isAlpha h, isSkipped_of_isAlpha ((isAlpha_toLower c).trans h)]
  | false => rw [toLower_of_not_isAlpha h]

theorem lowerChar_toLower (c : Char) : lowerChar c.toLower = lowerChar c :=
  apply_toLower (by decide +kernel) c

theorem startsCased_map_toLower (cs : List Char) :
    startsCased (cs.map Char.toLower) = startsCased cs := by
  have hskipped : isSkipped ∘ Char.toLower = isSkipped := by
    funext c
    rw [Function.comp_apply, isSkipped_toLower]
  rw [startsCased, startsCased, List.dropWhile_map, hskipped]
  cases cs.dropWhile isSkipped with
  | nil => rfl
  | cons c _ => exact isCased_toLower c

/-- The lower-case form of a character between `before`, which is listed backwards, and `rest`. -/
def lowerAt (before rest : List Char) (c : Char) : List Char :=
  if c.toNat = 0x3a3 then
    [Char.ofNat (if startsCased before && !startsCased rest then 0x3c2 else 0x3c3)]
  else lowerChar c

theorem lowerFrom_cons (before rest : List Char) (c : Char) :
    lowerFrom before (c :: rest) = lowerAt before rest c ++ lowerFrom (c :: before) rest :=
  rfl

theorem lowerAt_toLower (before rest : List Char) (c : Char) :
    lowerAt (before.map Char.toLower) (rest.map Char.toLower) c.toLower =
      lowerAt before rest c := by
  have h : (c.toLower.toNat == 0x3a3) = (c.toNat == 0x3a3) :=
    apply_toLower (f := fun c => c.toNat == 0x3a3) (by decide) c
  have hsigma : c.toLower.toNat = 0x3a3 ↔ c.toNat = 0x3a3 := by
    simpa only [beq_iff_eq] using Bool.eq_iff_iff.mp h
  simp only [lowerAt, hsigma, startsCased_map_toLower, lowerChar_toLower]

theorem lowerFrom_map_toLower (before cs : List Char) :
    lowerFrom (before.map Char.toLower) (cs.map Char.toLower) = lowerFrom before cs := by
  induction cs generalizing before with
  | nil => rfl
  | cons c cs ih =>
    rw [List.map_cons, lowerFrom_cons, lowerFrom_cons, lowerAt_toLower, ← List.map_cons, ih]

end AsciiCase

section Blanks

theorem trimList_append {after : List Char} (hb : ∀ c ∈ before, isBlank c = true)
    (ha : ∀ c ∈ after, isBlank c = true) (cs : List Char) :
    trimList (before ++ cs ++ after) = trimList cs := by
  have hrev : ∀ c ∈ after.reverse, isBlank c = true := fun c hc => ha c (List.mem_reverse.mp hc)
  rw [trimList, trimList, List.append_assoc, List.dropWhile_append_of_pos hb, List.dropWhile_append]
  split
  · -- there is nothing but blanks
    rename_i hempty
    rw [List.isEmpty_iff.mp hempty, List.dropWhile_eq_nil_iff.mpr ha]
  · rw [List.reverse_append, List.dropWhile_append_of_pos hrev]

end Blanks

section Forms

theorem lowerRuns_image : ∀ r ∈ lowerRuns.toList,
    128 ≤ r.2.2.2 ∧ r.2.2.2 + (r.2.1 - r.1) < 0xd800 ∨
      0xe000 ≤ r.2.2.2 ∧ r.2.2.2 + (r.2.1 - r.1) < 0x110000 ∨ r = (0x212a, 0x212a, 1, 0x6b) := by
  decide +kernel

theorem le_toNat_ofNat {n : ℕ} (hn : 128 ≤ n) (h : n < 0xd800 ∨ 0xe000 ≤ n ∧ n < 0x110000) :
    128 ≤ (Char.ofNat n).toNat := by
  have hvalid : n.isValidChar := h.imp_right fun h => ⟨by omega, h.2⟩
  rw [Char.ofNat, dif_pos hvalid]
  exact hn

/-- The lower-case forms that a character can have. -/
inductive IsLowerForm (c : Char) : List Char → Prop
  | ascii (h : c.toNat < 128) : IsLowerForm c [c.toLower]
  | other (d : Char) (h : 128 ≤ d.toNat) : IsLowerForm c [d]
  | kelvin : IsLowerForm c ['k']
  | dotted : IsLowerForm c ['i', Char.ofNat 0x307]

theorem isLowerForm_lowerChar (c : Char) : IsLowerForm c (lowerChar c) := by
  rw [lowerChar]
  split_ifs with hascii
  · exact .ascii hascii
  · exact .dotted
  · split
    · rename_i first last step image hfind
      have hin := Array.find?_some hfind
      have himage := lowerRuns_image _ (Array.mem_toList_iff.mpr (Array.mem_of_find?_eq_some hfind))
      simp only [Bool.and_eq_true, decide_eq_true_eq] at hin himage
      obtain h | h | h := himage
      · exact .other _ (le_toNat_ofNat (by omega) (by omega))
      · exact .other _ (le_toNat_ofNat (by omega) (by omega))
      · obtain ⟨rfl, rfl, rfl, rfl⟩ := by simpa only [Prod.mk.injEq] using h
        rw [show c.toNat - 0x212a = 0 by omega]
        exact .kelvin
    · exact .other c (by omega)

theorem isLowerForm_lowerAt (before rest : List Char) (c : Char) :
    IsLowerForm c (lowerAt before rest c) := by
  rw [lowerAt]
  split
  · split
    · exact .other _ (by decide)
    · exact .other _ (by decide)
  · exact isLowerForm_lowerChar c

end Forms

section Fronts

theorem lowerFrom_ascii_append {head : List Char} (h : ∀ c ∈ head, c.toNat < 128) :
    lowerFrom before (head ++ rest) =
      head.map Char.toLower ++ lowerFrom (head.reverse ++ before) rest := by
  induction head generalizing before with
  | nil => rfl
  | cons c head ih =>
    obtain ⟨hc, hhead⟩ := List.forall_mem_cons.mp h
    have hsigma : ¬ c.toNat = 0x3a3 := by omega
    rw [List.cons_append, lowerFrom_cons, ih hhead, lowerAt, if_neg hsigma, lowerChar, if_pos hc,
      List.reverse_cons, List.append_assoc]
    rfl

/-- A text that is the lower case of ASCII alone: neither the Kelvin sign, which becomes `k`, nor
the dotted capital, which becomes `i` and a mark, have a part in it. -/
structure IsPlain (lead : List Char) : Prop where
  ascii : ∀ c ∈ lead, c.toNat < 128
  not_kelvin : 'k' ∉ lead
  not_dotted : lead.getLast? ≠ some 'i'

variable {lead : List Char}

theorem isPlain_iff : IsPlain lead ↔
    lead.all (·.toNat < 128) = true ∧ 'k' ∉ lead ∧ lead.getLast? ≠ some 'i' := by
  simp only [List.all_eq_true, decide_eq_true_eq]
  exact ⟨fun h => ⟨h.ascii, h.not_kelvin, h.not_dotted⟩, fun ⟨h₁, h₂, h₃⟩ => ⟨h₁, h₂, h₃⟩⟩

instance : Decidable (IsPlain lead) :=
  decidable_of_iff' _ isPlain_iff

theorem IsPlain.of_cons (h : IsPlain (c :: lead)) : IsPlain lead where
  ascii := fun d hd => h.ascii d (List.mem_cons_of_mem c hd)
  not_kelvin := fun hk => h.not_kelvin (List.mem_cons_of_mem c hk)
  not_dotted := fun hi => h.not_dotted (by rw [List.getLast?_cons, hi, Option.getD_some])

theorem IsPlain.head_eq (h : IsPlain (c :: lead)) {form ds es : List Char}
    (hform : IsLowerForm d form) (heq : form ++ ds = c :: lead ++ es) :
    d.toLower = c ∧ ds = lead ++ es := by
  have hascii := h.ascii c (List.mem_cons_self ..)
  cases hform with
  | ascii => exact List.cons.inj heq
  | other e he =>
    obtain ⟨rfl, -⟩ := List.cons.inj heq
    omega
  | kelvin =>
    obtain ⟨rfl, -⟩ := List.cons.inj heq
    exact absurd (List.mem_cons_self ..) h.not_kelvin
  | dotted =>
    obtain ⟨rfl, hmark⟩ := List.cons.inj heq
    cases lead with
    | nil => exact absurd rfl h.not_dotted
    | cons e lead =>
      -- the mark that comes with the letter is not of ASCII
      obtain ⟨rfl, -⟩ := List.cons.inj hmark
      exact absurd (h.ascii _ (List.mem_cons_of_mem _ (List.mem_cons_self ..))) (by decide)

theorem lowerFrom_eq_append_iff (h : IsPlain lead) {es : List Char} :
    lowerFrom before cs = lead ++ es ↔
      ∃ head rest, cs = head ++ rest ∧ head.map Char.toLower = lead ∧
        lowerFrom (head.reverse ++ before) rest = es := by
  constructor
  · intro heq
    induction lead generalizing before cs with
    | nil => exact ⟨[], cs, rfl, rfl, heq⟩
    | cons c lead ih =>
      cases cs with
      | nil => exact nomatch heq
      | cons d cs =>
        obtain ⟨hd, hcs⟩ := h.head_eq (isLowerForm_lowerAt before cs d) heq
        obtain ⟨head, rest, rfl, hhead, hrest⟩ := ih h.of_cons hcs
        refine ⟨d :: head, rest, rfl, by rw [List.map_cons, hd, hhead], ?_⟩
        rwa [List.reverse_cons, List.append_assoc]
  · rintro ⟨head, rest, rfl, rfl, rfl⟩
    exact lowerFrom_ascii_append fun c hc =>
      toNat_toLower_lt.mp (h.ascii _ (List.mem_map_of_mem hc))

end Fronts

section Ends

def IsSign (c : Char) : Prop :=
  c.toNat < 128 ∧ c.isAlpha = false

instance : Decidable (IsSign c) :=
  inferInstanceAs (Decidable (_ ∧ _))

theorem isSign_of_isDigit (h : c.isDigit = true) : IsSign c := by
  have hbounds : 48 ≤ c.toNat ∧ c.toNat ≤ 57 := by
    simpa [Char.isDigit, UInt32.le_iff_toNat_le] using h
  refine ⟨by omega, Bool.eq_false_iff.mpr fun halpha => ?_⟩
  have hletter := isAlpha_iff.mp halpha
  omega

theorem IsLowerForm.ne_nil {form : List Char} (h : IsLowerForm c form) : form ≠ [] := by
  rintro rfl
  cases h

theorem IsSign.eq_of_mem (hc : IsSign c) {form : List Char} (hform : IsLowerForm d form)
    (hmem : c ∈ form) : d = c ∧ form = [c] := by
  obtain ⟨hascii, halpha⟩ := hc
  cases hform with
  | ascii =>
    obtain rfl := List.mem_singleton.mp hmem
    have hd : d.toLower = d := toLower_of_not_isAlpha ((isAlpha_toLower d).symm.trans halpha)
    exact ⟨hd.symm, rfl⟩
  | other e he =>
    obtain rfl := List.mem_singleton.mp hmem
    omega
  | kelvin =>
    obtain rfl := List.mem_singleton.mp hmem
    exact absurd halpha (by decide)
  | dotted =>
    obtain rfl | hmem := List.mem_cons.mp hmem
    · exact absurd halpha (by decide)
    · obtain rfl := List.mem_singleton.mp hmem
      exact absurd hascii (by decide)

theorem lowerFrom_append (before cs rest : List Char) :
    ∃ pre, lowerFrom before (cs ++ rest) = pre ++ lowerFrom (cs.reverse ++ before) rest := by
  induction cs generalizing before with
  | nil => exact ⟨[], rfl⟩
  | cons c cs ih =>
    obtain ⟨pre, hpre⟩ := ih (c :: before)
    refine ⟨lowerAt before (cs ++ rest) c ++ pre, ?_⟩
    rw [List.cons_append, lowerFrom_cons, hpre, List.reverse_cons, List.append_assoc,
      List.append_assoc, List.singleton_append]

theorem lowerFrom_signs (h : ∀ c ∈ tail, IsSign c) : lowerFrom before tail = tail := by
  have hsame : ∀ c ∈ tail, c.toLower = id c := fun c hc => toLower_of_not_isAlpha (h c hc).2
  calc lowerFrom before tail
      = tail.map Char.toLower ++ lowerFrom (tail.reverse ++ before) [] := by
        rw [← lowerFrom_ascii_append fun c hc => (h c hc).1, List.append_nil]
    _ = tail := by rw [List.map_congr_left hsame, List.map_id, lowerFrom, List.append_nil]

theorem eq_of_lowerFrom_eq (h : ∀ c ∈ tail, IsSign c) (heq : lowerFrom before cs = tail) :
    cs = tail := by
  induction cs generalizing before tail with
  | nil => exact heq
  | cons d cs ih =>
    have hform := isLowerForm_lowerAt before cs d
    rw [lowerFrom_cons] at heq
    generalize lowerAt before cs d = form at hform heq
    cases form with
    | nil => exact absurd rfl hform.ne_nil
    | cons e form =>
      subst heq
      have he : IsSign e := h e (List.mem_cons_self ..)
      obtain ⟨rfl, hsingle⟩ := he.eq_of_mem hform (List.mem_cons_self ..)
      obtain rfl := (List.cons.inj hsingle).2
      rw [List.cons_append, List.nil_append]
      exact congrArg (d :: ·) (ih (fun c hc => h c (List.mem_cons_of_mem d hc)) rfl)

theorem lowerFrom_eq_iff (h : ∀ c ∈ tail, IsSign c) : lowerFrom before cs = tail ↔ cs = tail :=
  ⟨eq_of_lowerFrom_eq h, fun heq => by rw [heq, lowerFrom_signs h]⟩

theorem exists_eq_append_of_lowerFrom (h : ∀ c ∈ tail, IsSign c)
    (heq : lowerFrom before cs = pre ++ tail) : ∃ pre', cs = pre' ++ tail := by
  induction cs generalizing before pre with
  | nil => exact ⟨[], (List.append_eq_nil_iff.mp heq.symm).2.symm⟩
  | cons d cs ih =>
    rw [lowerFrom_cons] at heq
    obtain ⟨mid, -, hrest⟩ | ⟨mid, hmid, htail⟩ := List.append_eq_append_iff.mp heq
    · obtain ⟨pre', rfl⟩ := ih hrest
      exact ⟨d :: pre', rfl⟩
    · cases mid with
      | nil => exact ⟨[d], congrArg (d :: ·) (eq_of_lowerFrom_eq h htail.symm)⟩
      | cons e mid =>
        -- the form of `d` reaches into the signs, so it is one of them and nothing is before it
        have he : IsSign e := h e (htail ▸ List.mem_cons_self ..)
        obtain ⟨rfl, hsingle⟩ := he.eq_of_mem (isLowerForm_lowerAt before cs d)
          (hmid ▸ List.mem_append_right pre (List.mem_cons_self ..))
        obtain ⟨rfl, -⟩ | ⟨-, hnone⟩ := List.append_eq_singleton_iff.mp (hmid.symm.trans hsingle)
        · exact ⟨[], eq_of_lowerFrom_eq h heq⟩
        · exact nomatch hnone

theorem exists_lowerFrom_eq_append_iff (h : ∀ c ∈ tail, IsSign c) :
    (∃ pre, lowerFrom before cs = pre ++ tail) ↔ ∃ pre, cs = pre ++ tail := by
  constructor
  · rintro ⟨pre, heq⟩
    exact exists_eq_append_of_lowerFrom h heq
  · rintro ⟨pre, rfl⟩
    obtain ⟨pre', heq⟩ := lowerFrom_append before pre tail
    exact ⟨pre', by rw [heq, lowerFrom_signs h]⟩

theorem lastSegment_eq_iff {separator : Char} :
    lastSegment separator cs = tail ↔
      separator ∉ tail ∧ (cs = tail ∨ ∃ pre, cs = pre ++ separator :: tail) := by
  constructor
  · rintro rfl
    refine ⟨fun hmem => ?_, ?_⟩
    · have hsep := List.mem_takeWhile_imp (List.mem_reverse.mp hmem)
      exact absurd rfl (of_decide_eq_true hsep)
    · have hsplit : cs =
          (cs.reverse.dropWhile (· ≠ separator)).reverse ++ lastSegment separator cs := by
        rw [lastSegment, ← List.reverse_append, List.takeWhile_append_dropWhile,
          List.reverse_reverse]
      have hstop := List.head?_dropWhile_not (· ≠ separator) cs.reverse
      cases hrest : cs.reverse.dropWhile (· ≠ separator) with
      | nil => exact .inl (hsplit.trans (by rw [hrest]; rfl))
      | cons c rest =>
        rw [hrest] at hstop
        obtain rfl : c = separator := by simpa using hstop
        exact .inr ⟨rest.reverse, hsplit.trans (by
          rw [hrest, List.reverse_cons, List.append_assoc, List.singleton_append])⟩
  · have hkeep : separator ∉ tail → ∀ c ∈ tail.reverse, decide (c ≠ separator) = true :=
      fun hsep c hc => decide_eq_true fun heq => hsep (heq ▸ List.mem_reverse.mp hc)
    rintro ⟨hsep, rfl | ⟨pre, rfl⟩⟩
    · rw [lastSegment, List.takeWhile_eq_self_iff.mpr (hkeep hsep), List.reverse_reverse]
    · rw [lastSegment, List.reverse_append, List.reverse_cons, List.append_assoc,
        List.takeWhile_append_of_pos (hkeep hsep), List.singleton_append,
        List.takeWhile_cons_of_neg (by simp), List.append_nil, List.reverse_reverse]

/-- A last segment of signs, between signs, is that of the lower case. -/
theorem lastSegment_lowerFrom_iff {separator : Char} (hs : IsSign separator)
    (h : ∀ c ∈ tail, IsSign c) :
    lastSegment separator (lowerFrom before cs) = tail ↔ lastSegment separator cs = tail := by
  have hall : ∀ c ∈ separator :: tail, IsSign c := List.forall_mem_cons.mpr ⟨hs, h⟩
  rw [lastSegment_eq_iff, lastSegment_eq_iff, lowerFrom_eq_iff h,
    exists_lowerFrom_eq_append_iff hall]

end Ends

end GeoRaster.Text
