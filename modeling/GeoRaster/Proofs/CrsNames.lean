import GeoRaster.Crs
import GeoRaster.Proofs.Documents
import GeoRaster.Proofs.LowerCase
import GeoRaster.Proofs.SelectedBands

namespace GeoRaster

namespace Text

theorem dropLead?_eq_some {lead cs rest : List Char} :
    dropLead? lead cs = some rest ↔ cs = lead ++ rest := by
  rw [dropLead?]
  split
  · rename_i h
    obtain ⟨tail, rfl⟩ := List.isPrefixOf_iff_prefix.mp h
    rw [List.drop_left, Option.some_inj, List.append_cancel_left_eq]
  · rename_i h
    refine ⟨nofun, ?_⟩
    rintro rfl
    exact absurd (List.isPrefixOf_iff_prefix.mpr (List.prefix_append ..)) h

/-- The characters of a number are signs. -/
theorem Numeral.isSign {most n : ℕ} {cs : List Char} (h : Numeral most cs n) :
    ∀ c ∈ cs, IsSign c := by
  obtain ⟨ds, hcs, -, hdigits, -⟩ := h.written
  have hds : ∀ c ∈ ds, IsSign c := fun c hc => isSign_of_isDigit (hdigits c hc)
  obtain rfl | rfl := hcs
  · exact hds
  · exact List.forall_mem_cons.mpr ⟨by decide, hds⟩

end Text

namespace Crs

open Text

variable {s t : String} {c : Crs} {name rest number : List Char} {n : ℕ}

/-- A number stands for a system: it is its own, or one by which it was known before. -/
def Code.IsNumbered (code : Code) (n : ℕ) : Prop :=
  n = code.epsg ∨ (n, code) ∈ Code.aliases

theorem Code.ofEpsg?_eq_some_iff {code : Code} :
    Code.ofEpsg? n = some code ↔ code.IsNumbered n := by
  constructor
  · intro h
    rw [Code.ofEpsg?, Option.or_eq_some_iff] at h
    obtain hfind | ⟨-, hlookup⟩ := h
    · have hepsg := List.find?_some (p := fun code : Code => code.epsg == n) hfind
      exact .inl (beq_iff_eq.mp hepsg).symm
    · obtain ⟨pre, post, heq, -⟩ := List.lookup_eq_some_iff.mp hlookup
      exact .inr (heq ▸ List.mem_append_right pre (List.mem_cons_self ..))
  · rintro (rfl | h)
    · exact Code.ofEpsg?_epsg code
    · simp only [Code.aliases, List.mem_cons, Prod.mk.injEq, List.not_mem_nil, or_false] at h
      obtain ⟨rfl, rfl⟩ | ⟨rfl, rfl⟩ := h <;> rfl

section Leads

/-- What names start with: those without a number, and what comes before one. -/
def leads : List String :=
  numberlessNames ++ numberedForms.map (·.lead)

theorem leads_nodup : leads.Nodup := by
  decide +kernel

theorem leads_apart : ∀ a ∈ leads, ∀ b ∈ leads, a.toList <+: b.toList → a = b := by
  decide +kernel

theorem leads_plain : ∀ lead ∈ leads, IsPlain lead.toList := by
  decide +kernel

theorem separators_sign :
    ∀ separator ∈ numberedForms.filterMap (·.separator), IsSign separator := by
  have hlist : numberedForms.filterMap (·.separator) = [':', ':', '/'] := rfl
  rw [hlist]
  exact List.forall_mem_cons.mpr ⟨by decide, List.forall_mem_cons.mpr ⟨by decide,
    List.forall_mem_singleton.mpr (by decide)⟩⟩

variable {a b : String} {f g : NumberedForm} {cs : List Char}

theorem NumberedForm.lead_mem (hf : f ∈ numberedForms) : f.lead ∈ leads :=
  List.mem_append_right _ (List.mem_map_of_mem hf)

theorem lead_unique (ha : a ∈ leads) (hb : b ∈ leads) (hcs : a.toList <+: cs)
    (hcs' : b.toList <+: cs) : a = b := by
  obtain h | h := List.prefix_or_prefix_of_prefix hcs hcs'
  · exact leads_apart a ha b hb h
  · exact (leads_apart b hb a ha h).symm

theorem NumberedForm.eq_of_lead (hf : f ∈ numberedForms) (hg : g ∈ numberedForms)
    (h : f.lead = g.lead) : f = g :=
  List.inj_on_of_nodup_map (List.nodup_append.mp leads_nodup).2.1 hf hg h

theorem NumberedForm.lead_ne (hf : f ∈ numberedForms) (ha : a ∈ numberlessNames) : a ≠ f.lead :=
  (List.nodup_append.mp leads_nodup).2.2 a ha f.lead (List.mem_map_of_mem hf)

end Leads

section LowerNames

variable {f : NumberedForm}

def NumberedForm.segment (f : NumberedForm) (rest : List Char) : List Char :=
  match f.separator with
  | some s => Text.lastSegment s rest
  | none => rest

theorem NumberedForm.number?_eq_some :
    f.number? name = some number ↔
      ∃ rest, name = f.lead.toList ++ rest ∧ f.segment rest = number := by
  have hsegment : f.number? name = (dropLead? f.lead.toList name).map f.segment := rfl
  simp only [hsegment, Option.map_eq_some_iff, dropLead?_eq_some]

theorem NumberedForm.prefix_of_number? (h : f.number? name = some number) :
    f.lead.toList <+: name := by
  obtain ⟨rest, rfl, -⟩ := NumberedForm.number?_eq_some.mp h
  exact List.prefix_append ..

/-- At most one form has a number in a name, so that their order does not matter. -/
theorem findSome?_number (hf : f ∈ numberedForms) (h : f.number? name = some number) :
    numberedForms.findSome? (fun g => (g.number? name).map fun number => (g, number)) =
      some (f, number) := by
  cases hfind : numberedForms.findSome? fun g => (g.number? name).map fun number => (g, number) with
  | none =>
    have hnone := List.findSome?_eq_none_iff.mp hfind f hf
    rw [h] at hnone
    exact nomatch hnone
  | some found =>
    obtain ⟨g, hg, hfound⟩ := List.exists_of_findSome?_eq_some hfind
    obtain ⟨other, hother, rfl⟩ := Option.map_eq_some_iff.mp hfound
    obtain rfl := NumberedForm.eq_of_lead hf hg (lead_unique (NumberedForm.lead_mem hf)
      (NumberedForm.lead_mem hg) (NumberedForm.prefix_of_number? h)
      (NumberedForm.prefix_of_number? hother))
    rw [Option.some.inj (hother.symm.trans h)]

theorem ofLowerName?_eq_some_iff :
    ofLowerName? name = some c ↔
      String.ofList name ∈ numberlessNames ∧ c = ofCode .wgs84 ∨
        ∃ f ∈ numberedForms, ∃ number n code, f.number? name = some number ∧
          Numeral (UInt32.size - 1) number n ∧ Code.ofEpsg? n = some code ∧ c = f.system code := by
  rw [ofLowerName?]
  split
  · rename_i hmem
    have hname := List.contains_iff_mem.mp hmem
    simp only [Option.some_inj, hname, true_and]
    refine ⟨fun h => .inl h.symm, ?_⟩
    rintro (rfl | ⟨f, hf, number, n, code, hnumber, -⟩)
    · rfl
    · -- no form leads to a name without a number
      have hself : (String.ofList name).toList <+: name := by rw [String.toList_ofList]
      have hlead := lead_unique (List.mem_append_left _ hname) (NumberedForm.lead_mem hf) hself
        (NumberedForm.prefix_of_number? hnumber)
      exact absurd hlead (NumberedForm.lead_ne hf hname)
  · rename_i hmem
    have hname : String.ofList name ∉ numberlessNames := fun h =>
      hmem (List.contains_iff_mem.mpr h)
    simp only [hname, false_and, false_or, Option.bind_eq_bind, Option.bind_eq_some_iff,
      Option.some_inj]
    constructor
    · rintro ⟨⟨f, number⟩, hfind, n, hn, code, hcode, rfl⟩
      obtain ⟨g, hg, hfound⟩ := List.exists_of_findSome?_eq_some hfind
      obtain ⟨number', hnumber, heq⟩ := Option.map_eq_some_iff.mp hfound
      obtain ⟨rfl, rfl⟩ := Prod.mk.inj heq
      exact ⟨g, hg, number', n, code, hnumber, readNat?_eq_some.mp hn, hcode, rfl⟩
    · rintro ⟨f, hf, number, n, code, hnumber, hn, hcode, rfl⟩
      exact ⟨(f, number), findSome?_number hf hnumber, n, readNat?_eq_some.mpr hn, code, hcode, rfl⟩

end LowerNames

section Language

variable {f : NumberedForm} {lead : String} {separator : Char} {before : List Char}

/-- Without the blanks around it a text starts with `lead`, whatever the case of its letters, and
goes on with `rest`. -/
def Begins (lead s : String) (rest : List Char) : Prop :=
  ∃ head, trimList s.toList = head ++ rest ∧ head.map Char.toLower = lead.toList

def shortLeads : List String :=
  ["epsg:", "http://www.opengis.net/gml/srs/epsg.xml#"]

def registryLeads : List (String × Char) :=
  [("urn:ogc:def:crs:epsg:", ':'), ("urn:x-ogc:def:crs:epsg:", ':'),
    ("http://www.opengis.net/def/crs/epsg/", '/')]

/-- The names of systems: five of WGS 84 without a number, and five fronts with a number at the end
of what follows. -/
inductive Spells (s : String) : Crs → Prop
  | numberless {name : String}
    (listed : name ∈ ["crs:84", "ogc:crs84", "urn:ogc:def:crs:ogc:1.3:crs84",
      "urn:ogc:def:crs:ogc::crs84", "http://www.opengis.net/def/crs/ogc/1.3/crs84"])
    (begins : Begins name s []) : Spells s (ofCode .wgs84)
  | short {lead : String} {rest : List Char} {n : ℕ} {code : Code} (listed : lead ∈ shortLeads)
    (begins : Begins lead s rest) (number : Numeral (2 ^ 32 - 1) rest n)
    (numbered : code.IsNumbered n) : Spells s (ofCode code)
  | registry {lead : String} {separator : Char} {rest : List Char} {n : ℕ} {code : Code}
    (listed : (lead, separator) ∈ registryLeads) (begins : Begins lead s rest)
    (number : Numeral (2 ^ 32 - 1) (lastSegment separator rest) n)
    (numbered : code.IsNumbered n) : Spells s (inRegistryOrder code)

theorem mem_numberedForms : f ∈ numberedForms ↔
    f.separator = none ∧ f.lead ∈ shortLeads ∨
      ∃ separator, f.separator = some separator ∧ (f.lead, separator) ∈ registryLeads := by
  obtain ⟨lead, separator⟩ := f
  cases separator <;> simp [numberedForms, shortLeads, registryLeads]

theorem form_of_shortLeads (h : lead ∈ shortLeads) : ⟨lead, none⟩ ∈ numberedForms :=
  mem_numberedForms.mpr (.inl ⟨rfl, h⟩)

theorem form_of_registryLeads (h : (lead, separator) ∈ registryLeads) :
    ⟨lead, some separator⟩ ∈ numberedForms :=
  mem_numberedForms.mpr (.inr ⟨separator, rfl, h⟩)

theorem spells_iff : Spells s c ↔
    (∃ name ∈ numberlessNames, Begins name s [] ∧ c = ofCode .wgs84) ∨
      ∃ f ∈ numberedForms, ∃ rest n code, Begins f.lead s rest ∧
        Numeral (UInt32.size - 1) (f.segment rest) n ∧ Code.IsNumbered code n ∧
          c = f.system code := by
  constructor
  · intro h
    cases h with
    | numberless hname hbegins => exact .inl ⟨_, hname, hbegins, rfl⟩
    | @short lead rest n code hlead hbegins hnumber hcode =>
      exact .inr ⟨_, form_of_shortLeads hlead, rest, n, code, hbegins, hnumber, hcode, rfl⟩
    | @registry lead separator rest n code hlead hbegins hnumber hcode =>
      exact .inr ⟨_, form_of_registryLeads hlead, rest, n, code, hbegins, hnumber, hcode, rfl⟩
  · rintro (⟨name, hname, hbegins, rfl⟩ | ⟨f, hf, rest, n, code, hbegins, hnumber, hcode, rfl⟩)
    · exact .numberless hname hbegins
    · obtain ⟨lead, separator⟩ := f
      obtain ⟨hsep, hlead⟩ | ⟨separator', hsep, hlead⟩ := mem_numberedForms.mp hf
      · obtain rfl : separator = none := hsep
        exact .short hlead hbegins hnumber hcode
      · obtain rfl : separator = some separator' := hsep
        exact .registry hlead hbegins hnumber hcode

theorem lower_eq_iff_begins (h : lead ∈ leads) :
    lowerFrom [] (trimList s.toList) = lead.toList ↔ Begins lead s [] := by
  have hplain := leads_plain lead h
  have hnil : ∀ c ∈ ([] : List Char), IsSign c := fun c hc => nomatch hc
  calc lowerFrom [] (trimList s.toList) = lead.toList
      ↔ lowerFrom [] (trimList s.toList) = lead.toList ++ [] := by rw [List.append_nil]
    _ ↔ Begins lead s [] := by
      simp only [lowerFrom_eq_append_iff hplain, lowerFrom_eq_iff hnil, Begins]
      constructor
      · rintro ⟨head, rest, htrim, hhead, rfl⟩
        exact ⟨head, htrim, hhead⟩
      · rintro ⟨head, htrim, hhead⟩
        exact ⟨head, [], htrim, hhead, rfl⟩

theorem NumberedForm.segment_lowerFrom_iff (hf : f ∈ numberedForms)
    (hnumber : ∀ c ∈ number, IsSign c) :
    f.segment (lowerFrom before rest) = number ↔ f.segment rest = number := by
  rw [segment.eq_def, segment.eq_def]
  cases hsep : f.separator with
  | none => exact lowerFrom_eq_iff hnumber
  | some separator =>
    have hsign := separators_sign separator (List.mem_filterMap.mpr ⟨f, hf, hsep⟩)
    exact lastSegment_lowerFrom_iff hsign hnumber

theorem NumberedForm.number?_lower_iff (hf : f ∈ numberedForms)
    (hnumber : ∀ c ∈ number, IsSign c) :
    f.number? (lowerFrom [] (trimList s.toList)) = some number ↔
      ∃ rest, Begins f.lead s rest ∧ f.segment rest = number := by
  have hplain := leads_plain f.lead (NumberedForm.lead_mem hf)
  simp only [NumberedForm.number?_eq_some, lowerFrom_eq_append_iff hplain, Begins]
  constructor
  · rintro ⟨_, ⟨head, rest, htrim, hhead, rfl⟩, hsegment⟩
    exact ⟨rest, ⟨head, htrim, hhead⟩, (NumberedForm.segment_lowerFrom_iff hf hnumber).mp hsegment⟩
  · rintro ⟨rest, ⟨head, htrim, hhead⟩, hsegment⟩
    exact ⟨_, ⟨head, rest, htrim, hhead, rfl⟩,
      (NumberedForm.segment_lowerFrom_iff hf hnumber).mpr hsegment⟩

theorem ofIdentifier?_eq_some_iff : ofIdentifier? s = some c ↔ Spells s c := by
  rw [ofIdentifier?, ofLowerName?_eq_some_iff, spells_iff]
  constructor
  · rintro (⟨hname, rfl⟩ | ⟨f, hf, number, n, code, hnumber, hn, hcode, rfl⟩)
    · have hbegins := (lower_eq_iff_begins (List.mem_append_left _ hname)).mp
        String.toList_ofList.symm
      exact .inl ⟨_, hname, hbegins, rfl⟩
    · obtain ⟨rest, hbegins, rfl⟩ := (NumberedForm.number?_lower_iff hf hn.isSign).mp hnumber
      exact .inr ⟨f, hf, rest, n, code, hbegins, hn, Code.ofEpsg?_eq_some_iff.mp hcode, rfl⟩
  · rintro (⟨name, hname, hbegins, rfl⟩ | ⟨f, hf, rest, n, code, hbegins, hn, hcode, rfl⟩)
    · have hlower := (lower_eq_iff_begins (List.mem_append_left _ hname)).mpr hbegins
      exact .inl ⟨by rwa [hlower, String.ofList_toList], rfl⟩
    · exact .inr ⟨f, hf, f.segment rest, n, code,
        (NumberedForm.number?_lower_iff hf hn.isSign).mpr ⟨rest, hbegins, rfl⟩, hn,
        Code.ofEpsg?_eq_some_iff.mpr hcode, rfl⟩

/-- Neither the case of the ASCII letters nor blanks around a name make a difference, be it the name
of a system or not. -/
theorem ofIdentifier?_congr {before after : String} (hsame : sameIgnoringCase t s = true)
    (hb : isBlankText before = true) (ha : isBlankText after = true) :
    ofIdentifier? (before ++ t ++ after) = ofIdentifier? s := by
  have htrim : trimList (before ++ t ++ after).toList = trimList t.toList := by
    rw [String.toList_append, String.toList_append]
    exact trimList_append (List.all_eq_true.mp hb) (List.all_eq_true.mp ha) _
  have hlower : (trimList t.toList).map Char.toLower = (trimList s.toList).map Char.toLower := by
    rw [← trimList_map_toLower, sameIgnoringCase_iff.mp hsame, trimList_map_toLower]
  rw [ofIdentifier?, ofIdentifier?, htrim, ← lowerFrom_map_toLower [] (trimList t.toList), hlower,
    lowerFrom_map_toLower]

theorem Begins.lead_prefix (h : Begins lead s rest) :
    lead.toList <+: (trimList s.toList).map Char.toLower := by
  obtain ⟨head, htrim, hhead⟩ := h
  rw [htrim, List.map_append, hhead]
  exact List.prefix_append ..

end Language

section Order

variable {f : NumberedForm} {code : Code}

theorem NumberedForm.order_system_iff :
    (f.system code).order = .northingFirst ↔
      code.isGeographic = true ∧ f.separator.isSome = true := by
  rw [system]
  cases f.separator.isSome <;> cases code <;> decide

theorem NumberedForm.code_system : (f.system code).code = code := by
  rw [system]
  split <;> rfl

theorem Spells.order_iff (h : Spells s c) :
    c.order = .northingFirst ↔
      c.code.isGeographic = true ∧ ∃ lead ∈ registryLeads, ∃ rest, Begins lead.1 s rest := by
  obtain ⟨name, hname, hbegins, rfl⟩ | ⟨f, hf, rest, n, code, hbegins, -, -, rfl⟩ :=
    spells_iff.mp h
  · refine ⟨nofun, ?_⟩
    rintro ⟨-, ⟨lead, separator⟩, hlead, rest, hrest⟩
    have hg := form_of_registryLeads hlead
    have hsame := lead_unique (List.mem_append_left _ hname) (NumberedForm.lead_mem hg)
      hbegins.lead_prefix hrest.lead_prefix
    exact absurd hsame (NumberedForm.lead_ne hg hname)
  · rw [NumberedForm.order_system_iff, NumberedForm.code_system]
    refine and_congr_right fun _ => ⟨fun hsep => ?_, ?_⟩
    · obtain ⟨hnone, -⟩ | ⟨separator, -, hlead⟩ := mem_numberedForms.mp hf
      · rw [hnone] at hsep
        exact nomatch hsep
      · exact ⟨_, hlead, rest, hbegins⟩
    · rintro ⟨⟨lead, separator⟩, hlead, rest', hrest'⟩
      have hg := form_of_registryLeads hlead
      have hsame := lead_unique (NumberedForm.lead_mem hf) (NumberedForm.lead_mem hg)
        hbegins.lead_prefix hrest'.lead_prefix
      rw [NumberedForm.eq_of_lead hf hg hsame]
      rfl

theorem axes_direction (α : Type) [Scalar α] (c : Crs) (i : ℕ) :
    ((axes c : List (Axis α)).map (·.direction))[i]? = some .east ↔ i = c.eastingIndex := by
  obtain ⟨code, order⟩ := c
  cases order <;> rcases i with _ | _ | i <;> simp [axes, eastAxis, northAxis, eastingIndex]

/-- The names that are accepted are those in one of the ten spellings. A name that is accepted has
the same system however its ASCII letters are cased and whatever blanks are around it, and so does
the system's own name; latitude is first where a geographic system is named as in the registry; and
the axis to the east stands where the easting does. -/
theorem ofIdentifier?_reads (s : String) (c : Crs) :
    (ofIdentifier? s = some c ↔ Spells s c) ∧
    (ofIdentifier? s = some c →
      (∀ t before after, sameIgnoringCase t s = true → isBlankText before = true →
        isBlankText after = true → ofIdentifier? (before ++ t ++ after) = some c) ∧
      ofIdentifier? c.identifier = some c ∧
      (c.order = .northingFirst ↔
        c.code.isGeographic = true ∧ ∃ lead ∈ registryLeads, ∃ rest, Begins lead.1 s rest) ∧
      ∀ (α : Type) [Scalar α] (i : ℕ),
        ((axes c : List (Axis α)).map (·.direction))[i]? = some .east ↔ i = c.eastingIndex) := by
  refine ⟨ofIdentifier?_eq_some_iff, fun h => ⟨?_, ?_, ?_, ?_⟩⟩
  · intro t before after hsame hb ha
    exact (ofIdentifier?_congr hsame hb ha).trans h
  · exact ofIdentifier?_identifier (.inr (.inr ⟨s, h⟩))
  · exact (ofIdentifier?_eq_some_iff.mp h).order_iff
  · intro α _ i
    exact axes_direction α c i

theorem ofIdentifier?_reads_versioned :
    ofIdentifier? " Urn:X-OGC:def:crs:EPSG:6.6:+04326" = some (inRegistryOrder .wgs84) ∧
    Spells " Urn:X-OGC:def:crs:EPSG:6.6:+04326" (inRegistryOrder .wgs84) ∧
    ofIdentifier? ("\t" ++ " urn:x-ogc:DEF:crs:epsg:6.6:+04326" ++ "\u2003") =
      some (inRegistryOrder .wgs84) ∧
    ∃ lead ∈ registryLeads, ∃ rest,
      Begins lead.1 " Urn:X-OGC:def:crs:EPSG:6.6:+04326" rest := by
  have h : ofIdentifier? " Urn:X-OGC:def:crs:EPSG:6.6:+04326" = some (inRegistryOrder .wgs84) := by
    decide +kernel
  obtain ⟨hspells, hreads⟩ := ofIdentifier?_reads " Urn:X-OGC:def:crs:EPSG:6.6:+04326"
    (inRegistryOrder .wgs84)
  obtain ⟨hsame, -, horder, -⟩ := hreads h
  exact ⟨h, hspells.mp h, hsame " urn:x-ogc:DEF:crs:epsg:6.6:+04326" "\t" "\u2003"
    (by decide +kernel) (by decide +kernel) (by decide +kernel), (horder.mp rfl).2⟩

end Order

end Crs

end GeoRaster
