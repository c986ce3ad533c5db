import GeoRaster.Sidecar
import Mathlib.Data.List.TakeWhile

namespace GeoRaster

namespace Path

inductive IsTail : List Char → Prop
  | nil : IsTail []
  | slash {t : List Char} (h : IsTail t) : IsTail ('/' :: t)
  | here {t : List Char} (h : IsTail t) : IsTail ('/' :: '.' :: t)

/-- The last name of a path is something's own, and it comes after the beginning, which is empty or
ends with a slash. -/
structure EndsIn (path before name : List Char) : Prop where
  own : name ≠ [] ∧ name ≠ ['.'] ∧ name ≠ ['.', '.']
  whole : '/' ∉ name
  before_end : before = [] ∨ before.getLast? = some '/'
  exists_tail : ∃ t, IsTail t ∧ path = before ++ (name ++ t)

variable {path before name t r : List Char}

theorem isOwnName_iff : isOwnName name = true ↔ name ≠ [] ∧ name ≠ ['.'] ∧ name ≠ ['.', '.'] := by
  simp [isOwnName, and_assoc]

theorem dropTail_tail (h : IsTail t) : dropTail (t.reverse ++ r) = dropTail r := by
  induction h generalizing r with
  | nil => rfl
  | slash _ ih =>
    rw [List.reverse_cons, List.append_assoc, ih]
    rfl
  | here _ ih =>
    rw [List.reverse_cons, List.reverse_cons, List.append_assoc, List.append_assoc, ih]
    rfl

theorem IsTail.append {u : List Char} (ht : IsTail t) (hu : IsTail u) : IsTail (t ++ u) := by
  induction ht with
  | nil => exact hu
  | slash _ ih => exact .slash ih
  | here _ ih => exact .here ih

theorem exists_tail (r : List Char) : ∃ t, IsTail t ∧ r = t.reverse ++ dropTail r := by
  fun_induction dropTail r with
  | case1 r ih =>
    obtain ⟨t, ht, hr⟩ := ih
    refine ⟨t ++ ['/'], ht.append (.slash .nil), ?_⟩
    rw [List.reverse_append, List.append_assoc, ← hr]
    rfl
  | case2 r ih =>
    obtain ⟨t, ht, hr⟩ := ih
    refine ⟨t ++ ['/', '.'], ht.append (.here .nil), ?_⟩
    rw [List.reverse_append, List.append_assoc, ← hr]
    rfl
  | case3 r _ _ => exact ⟨[], .nil, rfl⟩

theorem dropTail_name (hown : isOwnName name = true) (hwhole : '/' ∉ name) :
    dropTail (name.reverse ++ r) = name.reverse ++ r := by
  obtain ⟨hne, hdot, -⟩ := isOwnName_iff.mp hown
  obtain ⟨c, cs, hcs⟩ := List.exists_cons_of_ne_nil (List.reverse_ne_nil_iff.mpr hne)
  have hslash : ∀ d ∈ c :: cs, d ≠ '/' := by
    rintro d hd rfl
    exact hwhole (List.mem_reverse.mp (hcs ▸ hd))
  rw [hcs, List.cons_append, dropTail.eq_def]
  split
  · rename_i heq
    exact absurd (List.cons.inj heq).1 (hslash c List.mem_cons_self)
  · rename_i heq
    obtain ⟨rfl, hcs'⟩ := List.cons.inj heq
    cases cs with
    | nil => exact absurd (List.reverse_eq_iff.mp hcs) hdot
    | cons d cs =>
      exact absurd (List.cons.inj hcs').1 (hslash d (by simp))
  · rfl

theorem endsIn_iff :
    EndsIn path before name ↔ splitLast path = (before, name) ∧ isOwnName name = true := by
  constructor
  · rintro ⟨hown, hwhole, hend, t, ht, rfl⟩
    have hown := isOwnName_iff.mpr hown
    have hname : ∀ c ∈ name.reverse, decide (c ≠ '/') = true := by
      rintro c hc
      refine decide_eq_true ?_
      rintro rfl
      exact hwhole (List.mem_reverse.mp hc)
    have hbefore : before.reverse.takeWhile (· ≠ '/') = [] ∧
        before.reverse.dropWhile (· ≠ '/') = before.reverse := by
      obtain rfl | hend := hend
      · simp
      · rw [← List.head?_reverse, List.head?_eq_some_iff] at hend
        obtain ⟨r, hr⟩ := hend
        simp [hr]
    refine ⟨?_, hown⟩
    rw [splitLast, List.reverse_append, List.reverse_append, List.append_assoc, dropTail_tail ht,
      dropTail_name hown hwhole, List.dropWhile_append_of_pos hname,
      List.takeWhile_append_of_pos hname, hbefore.1, hbefore.2]
    simp
  · rintro ⟨hsplit, hown⟩
    obtain ⟨rfl, rfl⟩ := Prod.mk.inj hsplit
    obtain ⟨t, ht, hpath⟩ := exists_tail path.reverse
    refine ⟨isOwnName_iff.mp hown, ?_, ?_, t, ht, ?_⟩
    · intro hmem
      simpa using List.mem_takeWhile_imp (List.mem_reverse.mp hmem)
    · rw [List.getLast?_reverse]
      have hhead := List.head?_dropWhile_not (· ≠ '/') (dropTail path.reverse)
      cases hrest : (dropTail path.reverse).dropWhile (· ≠ '/') with
      | nil => exact .inl rfl
      | cons c r =>
        rw [hrest] at hhead
        exact .inr (congrArg some (by simpa using hhead))
    · rw [← List.append_assoc, ← List.reverse_append, List.takeWhile_append_dropWhile]
      exact (List.reverse_eq_iff.mp hpath).trans (by rw [List.reverse_append, List.reverse_reverse])

section Stem

theorem exists_extension (h : '.' ∈ name.tail) :
    ∃ b e : List Char, b ≠ [] ∧ '.' ∉ e ∧ name = b ++ '.' :: e := by
  cases name with
  | nil => contradiction
  | cons c cs =>
    obtain ⟨e, b, hcs, he⟩ := List.eq_append_cons_of_mem (List.mem_reverse.mpr h)
    refine ⟨c :: b.reverse, e.reverse, List.cons_ne_nil _ _, fun hmem => he (List.mem_reverse.mp hmem),
      ?_⟩
    rw [List.tail_cons, List.reverse_eq_iff, List.reverse_append, List.reverse_cons,
      List.append_assoc] at hcs
    exact congrArg (c :: ·) hcs

theorem stem_append {b e : List Char} (hb : b ≠ []) (he : '.' ∉ e) : stem (b ++ '.' :: e) = b := by
  have hskip : ∀ c ∈ e.reverse, decide (c ≠ '.') = true := by
    rintro c hc
    refine decide_eq_true ?_
    rintro rfl
    exact he (List.mem_reverse.mp hc)
  obtain ⟨c, r, hr⟩ := List.exists_cons_of_ne_nil (List.reverse_ne_nil_iff.mpr hb)
  have hrest : (b ++ '.' :: e).reverse.dropWhile (· ≠ '.') = '.' :: c :: r := by
    rw [List.reverse_append, List.reverse_cons, List.append_assoc,
      List.dropWhile_append_of_pos hskip, hr]
    rfl
  rw [stem, hrest]
  exact (List.reverse_eq_iff.mp hr).symm

theorem stem_eq_self (h : '.' ∉ name.tail) : stem name = name := by
  cases name with
  | nil => rfl
  | cons c cs =>
    have hskip : ∀ d ∈ cs.reverse, decide (d ≠ '.') = true := by
      rintro d hd
      refine decide_eq_true ?_
      rintro rfl
      exact h (List.mem_reverse.mp hd)
    rw [stem, List.reverse_cons, List.dropWhile_append_of_pos hskip]
    by_cases hc : c = '.'
    · subst hc
      rfl
    · simp [hc]

theorem isPrefix_stem (name : List Char) : stem name <+: name := by
  by_cases h : '.' ∈ name.tail
  · obtain ⟨b, e, hb, he, rfl⟩ := exists_extension h
    rw [stem_append hb he]
    exact List.prefix_append _ _
  · exact ⟨[], by rw [stem_eq_self h, List.append_nil]⟩

theorem stem_eq_self_iff : stem name = name ↔ '.' ∉ name.tail := by
  refine ⟨fun h hmem => ?_, stem_eq_self⟩
  obtain ⟨b, e, hb, he, rfl⟩ := exists_extension hmem
  rw [stem_append hb he] at h
  simp at h

theorem stem_ne_nil (h : name ≠ []) : stem name ≠ [] := by
  by_cases hmem : '.' ∈ name.tail
  · obtain ⟨b, e, hb, he, rfl⟩ := exists_extension hmem
    rwa [stem_append hb he]
  · rwa [stem_eq_self hmem]

end Stem

section Beside

variable {target extension : String}

theorem toList_withExtension (h : EndsIn target.toList before name) (extension : String) :
    (withExtension target extension).toList =
      before ++ (stem name ++ '.' :: extension.toList) := by
  obtain ⟨hsplit, hown⟩ := endsIn_iff.mp h
  rw [withExtension, hsplit]
  simp [hown]

/-- A file beside what a path names has the name's stem and lies in the same directory. -/
theorem EndsIn.withExtension (h : EndsIn target.toList before name) (hne : extension ≠ "")
    (hwhole : '/' ∉ extension.toList) :
    EndsIn (withExtension target extension).toList before (stem name ++ '.' :: extension.toList) := by
  have hstem := List.length_pos_iff.mpr (stem_ne_nil h.own.1)
  have hlength : 0 < extension.toList.length :=
    List.length_pos_iff.mpr fun he => hne (String.toList_inj.mp he)
  have hlong : ∀ cs : List Char, cs.length ≤ 2 → stem name ++ '.' :: extension.toList ≠ cs := by
    rintro cs hcs rfl
    rw [List.length_append, List.length_cons] at hcs
    omega
  refine ⟨⟨hlong _ (by decide), hlong _ (by decide), hlong _ (by decide)⟩, ?_, h.before_end, [], .nil,
    ?_⟩
  · rw [List.mem_append, List.mem_cons, not_or, not_or]
    exact ⟨fun hmem => h.whole ((isPrefix_stem name).subset hmem), by decide, hwhole⟩
  · rw [toList_withExtension h, List.append_nil]

theorem withExtension_eq_append_iff (h : EndsIn target.toList before name) (extension : String) :
    withExtension target extension = target ++ "." ++ extension ↔
      target.toList = before ++ name ∧ '.' ∉ name.tail := by
  obtain ⟨t, -, htarget⟩ := h.exists_tail
  have hprefix := isPrefix_stem name
  rw [← String.toList_inj, toList_withExtension h, ← stem_eq_self_iff, htarget]
  have happend : (target ++ "." ++ extension).toList =
      before ++ ((name ++ t) ++ '.' :: extension.toList) := by
    simp [htarget]
  rw [happend, List.append_cancel_left_eq, List.append_cancel_left_eq, List.append_cancel_right_eq]
  constructor
  · intro heq
    have hlength := congrArg List.length heq
    rw [List.length_append] at hlength
    have ht : t = [] := List.eq_nil_of_length_eq_zero (by have := hprefix.length_le; omega)
    rw [ht, List.append_nil] at heq ⊢
    exact ⟨rfl, heq⟩
  · rintro ⟨hname, hstem⟩
    rw [hname, hstem]

end Beside

end Path

end GeoRaster
