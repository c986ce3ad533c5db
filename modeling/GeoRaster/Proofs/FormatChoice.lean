import GeoRaster.Proofs.FirstFault
import GeoRaster.Proofs.LowerCase
import Mathlib.Data.List.DropRight

namespace GeoRaster

namespace Text

theorem trimList_eq (cs : List Char) : trimList cs = (cs.dropWhile isBlank).rdropWhile isBlank :=
  rfl

theorem trimList_trimList (cs : List Char) : trimList (trimList cs) = trimList cs := by
  have hfront : (trimList cs).dropWhile isBlank = trimList cs := by
    rw [List.dropWhile_eq_self_iff]
    intro hlen
    -- the first character is the one that the blanks at the front gave way to
    have hpre : trimList cs <+: cs.dropWhile isBlank := List.rdropWhile_prefix isBlank _
    have hidem := List.dropWhile_idempotent isBlank cs
    rw [hpre.getElem hlen]
    exact List.dropWhile_eq_self_iff.mp hidem _
  rw [trimList_eq, hfront, trimList_eq]
  exact List.rdropWhile_idempotent isBlank _

theorem trim_trim (s : String) : trim (trim s) = trim s := by
  simp only [trim, String.toList_ofList, trimList_trimList]

/-- What is the same as a text without blanks around it has none itself. -/
theorem sameIgnoringCase_trim {a b : String} (h : sameIgnoringCase a (trim b) = true) :
    sameIgnoringCase (trim a) (trim b) = true := by
  rw [sameIgnoringCase_iff] at h ⊢
  simp only [trim, String.toList_ofList] at h ⊢
  calc (trimList a.toList).map Char.toLower
      = trimList (a.toList.map Char.toLower) := (trimList_map_toLower _).symm
    _ = trimList ((trimList b.toList).map Char.toLower) := by rw [h]
    _ = (trimList (trimList b.toList)).map Char.toLower := trimList_map_toLower _
    _ = (trimList b.toList).map Char.toLower := by rw [trimList_trimList]

end Text

namespace Encoder

variable {registry : List Encoder} {e other : Encoder} {s t : String}

theorem produces_iff :
    e.produces s = true ↔ ∃ n ∈ e.names, Text.sameIgnoringCase n (Text.trim s) = true := by
  rw [produces, List.any_eq_true]

theorem produces_trim : e.produces (Text.trim s) = e.produces s := by
  rw [produces, produces, Text.trim_trim]

theorem produces_of_same (h : Text.sameIgnoringCase t (Text.trim s) = true) :
    e.produces t = e.produces s := by
  have hsame := Text.sameIgnoringCase_iff.mp (Text.sameIgnoringCase_trim h)
  rw [Bool.eq_iff_iff]
  simp only [produces_iff, Text.sameIgnoringCase_iff, hsame]

structure IsFirst (registry : List Encoder) (name : String) (e : Encoder) : Prop where
  produces : e.produces name = true
  first : ∃ before after, registry = before ++ e :: after ∧
    ∀ other ∈ before, other.produces name = false

theorem find?_eq_some : find? registry s = some e ↔ IsFirst registry s e := by
  simp only [find?, List.find?_eq_some_iff_append, Bool.not_eq_true']
  exact ⟨fun ⟨hp, before, after, heq, hfirst⟩ => ⟨hp, before, after, heq, hfirst⟩,
    fun ⟨hp, before, after, heq, hfirst⟩ => ⟨hp, before, after, heq, hfirst⟩⟩

theorem find?_eq_none : find? registry s = none ↔ ∀ e ∈ registry, e.produces s = false := by
  simp only [find?, List.find?_eq_none, Bool.not_eq_true]

/-- No two encoders share a name, whatever the case of its letters. -/
def Apart (registry : List Encoder) : Prop :=
  ∀ e ∈ registry, ∀ other ∈ registry, ∀ a ∈ e.names, ∀ b ∈ other.names,
    Text.sameIgnoringCase a b = true → e = other

theorem Apart.eq_of_produces (h : Apart registry) (he : e ∈ registry) (ho : other ∈ registry)
    (hes : e.produces s = true) (hos : other.produces s = true) : e = other := by
  obtain ⟨a, ha, has⟩ := produces_iff.mp hes
  obtain ⟨b, hb, hbs⟩ := produces_iff.mp hos
  rw [Text.sameIgnoringCase_iff] at has hbs
  exact h e he other ho a ha b hb (Text.sameIgnoringCase_iff.mpr (has.trans hbs.symm))

instance : Decidable (Apart registry) :=
  inferInstanceAs (Decidable (∀ e ∈ registry, ∀ other ∈ registry, ∀ a ∈ e.names,
    ∀ b ∈ other.names, Text.sameIgnoringCase a b = true → e = other))

theorem apart_standard : Apart standard := by
  decide +kernel

theorem Apart.find?_eq (h : Apart registry) (he : e ∈ registry) (hes : e.produces s = true) :
    find? registry s = some e := by
  cases hfind : find? registry s with
  | none => exact absurd hes (by simp [find?_eq_none.mp hfind e he])
  | some other =>
    have hother := find?_eq_some.mp hfind
    rw [h.eq_of_produces he (List.mem_of_find?_eq_some hfind) hes hother.produces]

def blankAlias : Encoder :=
  ⟨"GeoTIFF", "image/tiff", [""]⟩

end Encoder

namespace ResolvedFormat

variable {registry : List Encoder} {candidates : List String} {requested : String} {e : Encoder}
  {f : ResolvedFormat}

theorem byEncoder?_eq_some (h : byEncoder? registry requested candidates = some f) :
    ∃ declared ∈ candidates, ∃ e, Encoder.find? registry declared = some e ∧
      e.produces requested = true ∧ f = make declared (some e) := by
  induction candidates with
  | nil => exact absurd h (by simp [byEncoder?])
  | cons declared rest ih =>
    rw [List.exists_mem_cons_iff]
    rw [byEncoder?] at h
    split at h
    · rename_i e hfind
      split at h
      · rename_i hproduces
        exact .inl ⟨e, hfind, hproduces, (Option.some.inj h).symm⟩
      · exact .inr (ih h)
    · exact .inr (ih h)

/-- What comes of a request: a candidate with its own encoder, which also answers to the request. A
candidate without an encoder has the requested name itself. -/
theorem among_eq_ok (h : among registry candidates requested = .ok f) :
    ∃ declared ∈ candidates, f = make declared (Encoder.find? registry declared) ∧
      (Text.sameIgnoringCase declared (Text.trim requested) = true ∨
        ∃ e, Encoder.find? registry declared = some e ∧ e.produces requested = true) := by
  rw [among] at h
  split at h
  · exact absurd h (by simp)
  · split at h
    · rename_i declared hfind
      have hsame := List.find?_some hfind
      exact ⟨declared, List.mem_of_find?_eq_some hfind, (Except.ok.inj h).symm, .inl hsame⟩
    · split at h
      · rename_i g hg
        obtain ⟨declared, hmem, e, hfind, hproduces, rfl⟩ := byEncoder?_eq_some hg
        rw [Encoder.produces_trim] at hproduces
        refine ⟨declared, hmem, ?_, .inr ⟨e, hfind, hproduces⟩⟩
        rw [hfind, ← Except.ok.inj h]
      · exact absurd h (by simp)

theorem exists_among_iff_candidate : (∃ f, among registry candidates requested = .ok f) ↔
    Text.trim requested ≠ "" ∧ ∃ declared ∈ candidates,
      Text.sameIgnoringCase declared (Text.trim requested) = true ∨
        ∃ e, Encoder.IsFirst registry declared e ∧ e.produces requested = true := by
  simp only [exists_among_iff, Answers, Encoder.find?_eq_some, Encoder.produces_trim]
  rw [← Bool.not_eq_true, String.isEmpty_iff]

def WrittenBy (registry : List Encoder) (candidates : List String) (requested : String)
    (e : Encoder) : Prop :=
  ∃ f, among registry candidates requested = .ok f ∧ f.encoder = some e.name ∧
    f.mimeType = some e.mimeType

def Refused (registry : List Encoder) (candidates : List String) (requested : String) : Prop :=
  ∃ fault, among registry candidates requested = .error fault

theorem not_refused (h : among registry candidates requested = .ok f) :
    ¬ Refused registry candidates requested := by
  rintro ⟨fault, hfault⟩
  rw [h] at hfault
  exact absurd hfault (by simp)

section Apart

variable (h : Encoder.Apart registry) (he : e ∈ registry) (hproduces : e.produces requested = true)
include h he hproduces

theorem written_of_among (hf : among registry candidates requested = .ok f) :
    ∃ declared ∈ candidates, Encoder.find? registry declared = some e ∧
      f = make declared (some e) := by
  obtain ⟨declared, hmem, hmake, hsame | ⟨other, hfind, hother⟩⟩ := among_eq_ok hf
  · have hdeclared : e.produces declared = true := by rwa [Encoder.produces_of_same hsame]
    have hfind := h.find?_eq he hdeclared
    rw [hfind] at hmake
    exact ⟨declared, hmem, hfind, hmake⟩
  · obtain rfl := h.eq_of_produces he (List.mem_of_find?_eq_some hfind) hproduces hother
    rw [hfind] at hmake
    exact ⟨declared, hmem, hfind, hmake⟩

theorem refused_of_no_candidate
    (hcandidate : ¬ ∃ declared ∈ candidates, Encoder.find? registry declared = some e) :
    Refused registry candidates requested := by
  cases hf : among registry candidates requested with
  | error fault => exact ⟨fault, hf⟩
  | ok f =>
    obtain ⟨declared, hmem, hfind, -⟩ := written_of_among h he hproduces hf
    exact absurd ⟨declared, hmem, hfind⟩ hcandidate

theorem writtenBy_of_candidate (hname : Text.trim requested ≠ "")
    (hcandidate : ∃ declared ∈ candidates, Encoder.find? registry declared = some e) :
    WrittenBy registry candidates requested e := by
  obtain ⟨declared, hmem, hfind⟩ := hcandidate
  obtain ⟨f, hf⟩ := exists_among_iff_candidate.mpr
    ⟨hname, declared, hmem, .inr ⟨e, Encoder.find?_eq_some.mp hfind, hproduces⟩⟩
  obtain ⟨chosen, -, -, rfl⟩ := written_of_among h he hproduces hf
  exact ⟨_, hf, rfl, rfl⟩

end Apart

/-- Two requests are refused both or written both by the same encoder. -/
def SameEncoder (registry : List Encoder) (candidates : List String) (e : Encoder)
    (s t : String) : Prop :=
  Refused registry candidates s ∧ Refused registry candidates t ∨
    WrittenBy registry candidates s e ∧ WrittenBy registry candidates t e

/-- Whether a name of an encoder is taken depends on the candidates alone. -/
theorem sameEncoder_of_produces (h : Encoder.Apart registry) (he : e ∈ registry) {s t : String}
    (hs : e.produces s = true) (ht : e.produces t = true) (hsname : Text.trim s ≠ "")
    (htname : Text.trim t ≠ "") : SameEncoder registry candidates e s t := by
  by_cases hcandidate : ∃ declared ∈ candidates, Encoder.find? registry declared = some e
  · exact .inr ⟨writtenBy_of_candidate h he hs hsname hcandidate,
      writtenBy_of_candidate h he ht htname hcandidate⟩
  · exact .inl ⟨refused_of_no_candidate h he hs hcandidate,
      refused_of_no_candidate h he ht hcandidate⟩

/-- A request is met by a candidate that has its name or whose encoder answers to it. What comes of
it is a candidate with the first encoder for the candidate, which answers to the request too. Where
the names of encoders are apart, all names of one encoder lead to it or to nothing; a blank name is
no request. -/
theorem among_negotiates (registry : List Encoder) (candidates : List String)
    (requested : String) :
    ((∃ f, among registry candidates requested = .ok f) ↔
      Text.trim requested ≠ "" ∧ ∃ declared ∈ candidates,
        Text.sameIgnoringCase declared (Text.trim requested) = true ∨
          ∃ e, Encoder.IsFirst registry declared e ∧ e.produces requested = true) ∧
    (∀ f, among registry candidates requested = .ok f → f.declared ∈ candidates ∧
      ((f = make f.declared none ∧ ∀ e ∈ registry, e.produces f.declared = false) ∨
        ∃ e, f = make f.declared (some e) ∧ Encoder.IsFirst registry f.declared e ∧
          e.produces requested = true)) ∧
    (Encoder.Apart registry → ∀ e ∈ registry, ∀ other, e.produces requested = true →
      e.produces other = true → Text.trim requested ≠ "" → Text.trim other ≠ "" →
        SameEncoder registry candidates e requested other) := by
  refine ⟨exists_among_iff_candidate, fun f hf => ?_,
    fun h e he other hs ht => sameEncoder_of_produces h he hs ht⟩
  obtain ⟨declared, hmem, rfl, hanswer⟩ := among_eq_ok hf
  refine ⟨hmem, ?_⟩
  show (make declared _ = make declared none ∧ _) ∨ ∃ e, make declared _ = make declared _ ∧ _
  cases hfind : Encoder.find? registry declared with
  | none => exact .inl ⟨rfl, Encoder.find?_eq_none.mp hfind⟩
  | some e =>
    have hfirst := Encoder.find?_eq_some.mp hfind
    refine .inr ⟨e, rfl, hfirst, ?_⟩
    obtain hsame | ⟨e', he', hproduces⟩ := hanswer
    · rw [← Encoder.produces_of_same hsame]
      exact hfirst.produces
    · rw [hfind] at he'
      exact Option.some.inj he' ▸ hproduces

theorem among_negotiates_standard :
    Encoder.Apart Encoder.standard ∧
      WrittenBy Encoder.standard ["GRIB2", "ArcGrid", "geotiff"] " TIFF"
        ⟨"GeoTIFF", "image/tiff",
          ["image/geotiff", "geotiff", "tiff", "image/tiff;subtype=\"geotiff\""]⟩ := by
  have hmem : Encoder.standard.head (by decide) ∈ Encoder.standard := List.head_mem _
  obtain ⟨-, -, hsame⟩ :=
    among_negotiates Encoder.standard ["GRIB2", "ArcGrid", "geotiff"] " TIFF"
  obtain ⟨hrefused, -⟩ | ⟨hwritten, -⟩ := hsame Encoder.apart_standard _ hmem "GeoTIFF"
    (by decide +kernel) (by decide +kernel) (by decide) (by decide)
  · refine absurd hrefused (not_refused (f := ⟨"geotiff", some "GeoTIFF", some "image/tiff"⟩) ?_)
    decide +kernel
  · exact ⟨Encoder.apart_standard, hwritten⟩

/-- An encoder may have a blank among its names, but as a request that name is refused where the
others are not. -/
theorem sameEncoder_fails_on_blank :
    Encoder.Apart [.blankAlias] ∧ Encoder.blankAlias.produces "" = true ∧
      Encoder.blankAlias.produces "GeoTIFF" = true ∧
      ¬ SameEncoder [.blankAlias] ["GeoTIFF"] .blankAlias "" "GeoTIFF" := by
  refine ⟨by decide +kernel, by decide +kernel, by decide +kernel, ?_⟩
  rintro (⟨-, hrefused⟩ | ⟨⟨f, hf, -⟩, -⟩)
  · refine not_refused (f := ⟨"GeoTIFF", some "GeoTIFF", some "image/tiff"⟩) ?_ hrefused
    decide +kernel
  · exact absurd hf (by simp [among, Text.trim, Text.trimList])

end ResolvedFormat

end GeoRaster
