import GeoRaster.Proofs.CatalogHistory
import GeoRaster.Reader.RawFile

namespace GeoRaster

structure Tables (α : Type) where
  descriptor? : String → Option (CoverageDescriptor α)
  dataPath? : String → Option String

namespace Tables

variable {α : Type}

def empty : Tables α :=
  ⟨fun _ => none, fun _ => none⟩

def insert (t : Tables α) (d : CoverageDescriptor α) : Except (CatalogFault α) (Tables α) :=
  if (t.descriptor? d.id).isSome then .error (.duplicate d.id)
  else .ok { t with descriptor? := Function.update t.descriptor? d.id (some d) }

def setPath (t : Tables α) (id : String) : Option String → Tables α
  | none => t
  | some path => { t with dataPath? := Function.update t.dataPath? id (some path) }

def declare [Scalar α] (directory : Option String) (t : Tables α) (coverage : DeclaredCoverage α) :
    Except (CatalogFault α) (Tables α) :=
  match coverage.describe with
  | .error f => .error (.invalid coverage.id f)
  | .ok d => do
    let t ← t.insert d
    return t.setPath coverage.id (coverage.dataPath.map (resolvePath directory))

theorem setPath_eq {t : Tables α} {id : String} (h : t.dataPath? id = none)
    (path : Option String) :
    t.setPath id path = ⟨t.descriptor?, Function.update t.dataPath? id path⟩ := by
  cases path with
  | none =>
    show t = ⟨t.descriptor?, Function.update t.dataPath? id none⟩
    rw [← h, Function.update_eq_self]
  | some path => rfl

end Tables

namespace Catalog

variable {α : Type} {c c' : Catalog α} {e : CatalogEntry α}

def tables (c : Catalog α) : Tables α :=
  ⟨c.descriptor?, c.dataPath?⟩

theorem dataPath?_eq_some_iff {id path : String} : c.dataPath? id = some path ↔
    ∃ e ∈ c.entries, e.id = id ∧ e.dataPath = some path := by
  simp only [dataPath?, Option.bind_eq_bind, Option.bind_eq_some_iff, find?_eq_some_iff, and_assoc]

theorem descriptor?_of_mem (h : e ∈ c.entries) : c.descriptor? e.id = some e.descriptor := by
  rw [descriptor?, find?_eq_some h, Option.map_some]

theorem dataPath?_of_mem (h : e ∈ c.entries) : c.dataPath? e.id = e.dataPath := by
  rw [dataPath?, find?_eq_some h]
  rfl

section NewEntry

variable (hnew : e.id ∉ c.keys) (h : c'.entries = c.entries ++ [e])

theorem find?_eq_none_iff {id : String} : c.find? id = none ↔ id ∉ c.keys := by
  rw [mem_keys_iff, descriptor?, Option.isSome_map]
  simp

include hnew h

theorem find?_new : c'.find? = Function.update c.find? e.id (some e) := by
  funext id
  rw [find?_append h]
  by_cases hid : id = e.id
  · subst hid
    rw [find?_eq_none_iff.mpr hnew, if_pos rfl, Function.update_self, Option.none_or]
  · rw [if_neg (Ne.symm hid), Option.or_none, Function.update_of_ne hid]

theorem descriptor?_new :
    c'.descriptor? = Function.update c.descriptor? e.id (some e.descriptor) := by
  show Option.map CatalogEntry.descriptor ∘ c'.find? = _
  rw [find?_new hnew h, Function.comp_update]
  rfl

theorem dataPath?_new : c'.dataPath? = Function.update c.dataPath? e.id e.dataPath := by
  show (fun found : Option (CatalogEntry α) => found >>= CatalogEntry.dataPath) ∘ c'.find? = _
  rw [find?_new hnew h, Function.comp_update]
  rfl

theorem tables_new : c'.tables = Tables.setPath
    ⟨Function.update c.descriptor? e.id (some e.descriptor), c.dataPath?⟩ e.id e.dataPath := by
  have hnone : c.dataPath? e.id = none := by
    rw [dataPath?, find?_eq_none_iff.mpr hnew]
    rfl
  rw [Tables.setPath_eq hnone, tables, descriptor?_new hnew h, dataPath?_new hnew h]

end NewEntry

section Loading

variable [Scalar α] {directory : Option String}

/-- One coverage of a file goes into the tables as it goes into the catalog. -/
theorem map_tables_declare (c : Catalog α) (declared : DeclaredCoverage α) :
    (declare directory c declared).map tables = Tables.declare directory c.tables declared := by
  rw [declare, Tables.declare]
  cases hd : declared.describe with
  | error f => rfl
  | ok d =>
    have hid : d.id = declared.id := (DeclaredCoverage.describes_of_describe hd).id_eq
    dsimp only
    by_cases hmem : d.id ∈ c.keys
    · have hrefused : c.tables.insert d = .error (.duplicate d.id) := if_pos (mem_keys_iff.mp hmem)
      rw [hrefused, insertEntry_eq_error hmem]
      rfl
    · have hinserted : c.tables.insert d =
          .ok ⟨Function.update c.descriptor? d.id (some d), c.dataPath?⟩ :=
        if_neg fun hsome => hmem (mem_keys_iff.mpr hsome)
      obtain ⟨c', hc', hentries⟩ :=
        exists_insertEntry (e := ⟨d, declared.dataPath.map (resolvePath directory)⟩) hmem
      rw [hc', hinserted, ← hid]
      exact congrArg Except.ok (tables_new hmem hentries)

theorem map_tables_foldlM (c : Catalog α) (cs : List (DeclaredCoverage α)) :
    (cs.foldlM (declare directory) c).map tables =
      cs.foldlM (Tables.declare directory) c.tables := by
  induction cs generalizing c with
  | nil => rfl
  | cons declared cs ih =>
    rw [List.foldlM_cons, List.foldlM_cons, ← map_tables_declare]
    cases declare directory c declared with
    | error f => rfl
    | ok c' => exact ih c'

theorem forall₂_entries {cs : List (DeclaredCoverage α)}
    (h : cs.foldlM (declare directory) empty = .ok c) :
    List.Forall₂ (fun declared e => declared.describe = .ok e.descriptor ∧
      e.dataPath = declared.dataPath.map (resolvePath directory)) cs c.entries := by
  obtain ⟨es, hes, hall⟩ := foldlM_declare_ok h
  rwa [hes]

end Loading

end Catalog

theorem lookup_eq_some_iff_mem {β : Type} {rows : List (String × β)}
    (h : (rows.map Prod.fst).Nodup) {key : String} {b : β} :
    rows.lookup key = some b ↔ (key, b) ∈ rows := by
  rw [List.lookup_eq_some_iff]
  constructor
  · rintro ⟨before, after, rfl, -⟩
    exact List.mem_append_right _ (List.mem_cons_self ..)
  · intro hmem
    obtain ⟨before, after, hrows, hne⟩ := exists_split_of_nodup h hmem
    exact ⟨before, after, hrows, fun row hrow => by simpa using (hne row hrow).symm⟩

/-- The layout of a file is that of a description. What stands for no data is as narrow as the
samples are, and the system has its easting first, as that of the envelope does. -/
structure RawFileEntry.Follows {α σ : Type} [Narrowing α σ] (r : RawFileEntry α σ)
    (d : CoverageDescriptor α) (path : String) : Prop where
  path_eq : r.path = path
  width_eq : r.width = d.gridGeometry.width
  height_eq : r.height = d.gridGeometry.height
  bandNames_eq : r.bandNames = d.bands.map BandDefinition.name
  noData_eq : r.noData = (List.range d.bandCount).map fun i => (d.bandNoData i).map narrow
  envelope_eq : r.envelope = d.nativeEnvelope
  crs_eq : r.crs = d.nativeCrs.eastingFirst

theorem RawFileEntry.follows_ofDescriptor {α σ : Type} [Narrowing α σ] (d : CoverageDescriptor α)
    (path : String) : (RawFileEntry.ofDescriptor d path : RawFileEntry α σ).Follows d path where
  path_eq := rfl
  width_eq := rfl
  height_eq := rfl
  bandNames_eq := rfl
  noData_eq := by
    apply List.ext_getElem
    · simp [ofDescriptor, CoverageDescriptor.bandCount]
    · intro i hi _
      have hband : i < d.bands.length := by simpa [ofDescriptor] using hi
      simp [ofDescriptor, CoverageDescriptor.bandNoData, List.getElem?_eq_getElem hband]
  envelope_eq := rfl
  crs_eq := rfl

theorem RawFileEntry.follows_iff {α σ : Type} [Narrowing α σ] {r : RawFileEntry α σ}
    {d : CoverageDescriptor α} {path : String} : r.Follows d path ↔ r = .ofDescriptor d path := by
  constructor
  · intro h
    have hown : (RawFileEntry.ofDescriptor d path : RawFileEntry α σ).Follows d path :=
      follows_ofDescriptor d path
    obtain ⟨path', width, height, bandNames, noData, envelope, crs⟩ := r
    rw [RawFileEntry.mk.injEq]
    exact ⟨h.path_eq.trans hown.path_eq.symm, h.width_eq.trans hown.width_eq.symm,
      h.height_eq.trans hown.height_eq.symm, h.bandNames_eq.trans hown.bandNames_eq.symm,
      h.noData_eq.trans hown.noData_eq.symm, h.envelope_eq.trans hown.envelope_eq.symm,
      h.crs_eq.trans hown.crs_eq.symm⟩
  · rintro rfl
    exact follows_ofDescriptor d path

namespace Catalog

variable {α σ : Type} [Narrowing α σ] (c : Catalog α)

theorem mem_rawFileReader {id : String} {r : RawFileEntry α σ} :
    (id, r) ∈ c.rawFileReader.entries ↔ ∃ d path, c.descriptor? id = some d ∧
      c.dataPath? id = some path ∧ r = .ofDescriptor d path := by
  simp only [rawFileReader, List.mem_filterMap, Option.map_eq_some_iff, Prod.mk.injEq]
  constructor
  · rintro ⟨e, he, path, hpath, rfl, rfl⟩
    exact ⟨e.descriptor, path, descriptor?_of_mem he, (dataPath?_of_mem he).trans hpath, rfl⟩
  · rintro ⟨d, path, hd, hpath, rfl⟩
    obtain ⟨e, he, rfl, hown⟩ := dataPath?_eq_some_iff.mp hpath
    rw [descriptor?_of_mem he, Option.some_inj] at hd
    exact ⟨e, he, path, hown, rfl, by rw [hd]⟩

theorem nodup_rawFileReader :
    ((c.rawFileReader : RawFileReader α σ).entries.map Prod.fst).Nodup := by
  refine List.Sublist.nodup ?_ c.nodup_keys
  rw [keys, rawFileReader]
  induction c.entries with
  | nil => exact List.Sublist.slnil
  | cons e es ih =>
    cases hpath : e.dataPath with
    | none =>
      rw [List.filterMap_cons_none (by rw [hpath]; rfl)]
      exact ih.cons _
    | some path =>
      rw [List.filterMap_cons_some (by rw [hpath]; rfl)]
      exact ih.cons_cons _

theorem rawFileReader_find? {id : String} {r : RawFileEntry α σ} :
    c.rawFileReader.find? id = some r ↔ ∃ d path, c.descriptor? id = some d ∧
      c.dataPath? id = some path ∧ r.Follows d path := by
  simp only [RawFileEntry.follows_iff]
  rw [RawFileReader.find?, lookup_eq_some_iff_mem c.nodup_rawFileReader, mem_rawFileReader]

/-- Of the descriptions that came under an identifier, the catalog has the first. -/
structure HoldsFirst (c : Catalog α) (ds : List (CoverageDescriptor α)) : Prop where
  descriptor_eq : ∀ id, c.descriptor? id = ds.find? (·.id == id)
  ids_increasing : c.ids.Pairwise (· < ·)
  mem_ids_iff : ∀ id, id ∈ c.ids ↔ ∃ d ∈ ds, d.id = id
  length_ids : c.ids.length = c.size

/-- The catalog has the coverages of a file and their data paths, and its reader has an entry for
each path. -/
structure HoldsFiles (c : Catalog α) (σ : Type) [Scalar α] [Narrowing α σ]
    (directory : Option String) (cs : List (DeclaredCoverage α)) : Prop where
  tables_eq : cs.foldlM (Tables.declare directory) .empty = .ok c.tables
  mem_ids_iff : ∀ id, id ∈ c.ids ↔ ∃ declared ∈ cs, declared.id = id
  path_eq : ∀ declared ∈ cs,
    c.dataPath? declared.id = declared.dataPath.map (resolvePath directory)
  path_described : ∀ id path, c.dataPath? id = some path → ∃ d, c.descriptor? id = some d
  reader_nodup : ((c.rawFileReader : RawFileReader α σ).entries.map Prod.fst).Nodup
  reader_find : ∀ id (r : RawFileEntry α σ), c.rawFileReader.find? id = some r ↔
    ∃ d path, c.descriptor? id = some d ∧ c.dataPath? id = some path ∧ r.Follows d path
  envelope_crs : ∀ id d, c.descriptor? id = some d →
    d.nativeEnvelope.crs = some d.nativeCrs.eastingFirst

theorem holdsFirst_attempts (ds : List (CoverageDescriptor α)) : (attempts ds).HoldsFirst ds where
  descriptor_eq := descriptor?_attempts ds
  ids_increasing := (attempts ds).ids_increasing
  mem_ids_iff _ := mem_ids_attempts
  length_ids := (attempts ds).length_ids

theorem holdsFiles_of_foldlM [Scalar α] {directory : Option String}
    {cs : List (DeclaredCoverage α)} {c : Catalog α}
    (h : cs.foldlM (declare directory) empty = .ok c) : c.HoldsFiles σ directory cs where
  tables_eq := by
    rw [show Tables.empty = (empty : Catalog α).tables from rfl, ← map_tables_foldlM, h]
    rfl
  mem_ids_iff id := by
    rw [mem_ids, keys, List.mem_map]
    constructor
    · rintro ⟨e, he, rfl⟩
      obtain ⟨declared, hdeclared, hd, -⟩ := exists_of_forall₂_left (forall₂_entries h).flip he
      exact ⟨declared, hdeclared, (DeclaredCoverage.describes_of_describe hd).id_eq.symm⟩
    · rintro ⟨declared, hdeclared, rfl⟩
      obtain ⟨e, he, hd, -⟩ := exists_of_forall₂_left (forall₂_entries h) hdeclared
      exact ⟨e, he, (DeclaredCoverage.describes_of_describe hd).id_eq⟩
  path_eq declared hdeclared := by
    obtain ⟨e, he, hd, hpath⟩ := exists_of_forall₂_left (forall₂_entries h) hdeclared
    have hid : e.id = declared.id := (DeclaredCoverage.describes_of_describe hd).id_eq
    rw [← hid, dataPath?_of_mem he, hpath]
  path_described id path hpath := by
    obtain ⟨e, he, rfl, -⟩ := dataPath?_eq_some_iff.mp hpath
    exact ⟨_, descriptor?_of_mem he⟩
  reader_nodup := c.nodup_rawFileReader
  reader_find _ _ := c.rawFileReader_find?
  envelope_crs id d hd := by
    obtain ⟨e, he, rfl⟩ := Option.map_eq_some_iff.mp hd
    obtain ⟨declared, -, hdescribe, -⟩ :=
      exists_of_forall₂_left (forall₂_entries h).flip (find?_eq_some_iff.mp he).1
    rw [(DeclaredCoverage.describes_of_describe hdescribe).envelope_eq]

/-- However often identifiers come again, a catalog holds the first description under each; what
comes again is refused as a duplicate and changes nothing. Of a file that is accepted, the catalog
holds every coverage and the data paths of those that have one, and the reader of the data has an
entry under each of these identifiers, laid out as the description says. -/
theorem holds_first_and_files (α σ : Type) [Scalar α] [Narrowing α σ] :
    (∀ ds : List (CoverageDescriptor α), (attempts ds).HoldsFirst ds ∧
      (∀ d, d.id ∈ (attempts ds).ids →
        (attempts ds).attempt d = (attempts ds, .error (.duplicate d.id))) ∧
      (∀ d, d.id ∉ (attempts ds).ids → ((attempts ds).attempt d).2 = .ok ()) ∧
      ∀ c, ofDescriptors ds = .ok c ↔ (ds.map (·.id)).Nodup ∧ c = attempts ds) ∧
    ∀ directory text, ∀ c : Catalog α, ofText directory text = .ok c →
      ∃ cs, declaredOfText? text = some cs ∧ c.HoldsFiles σ directory cs := by
  refine ⟨fun ds => ⟨holdsFirst_attempts ds, fun d hd => attempt_of_mem (mem_ids.mp hd),
    fun d hd => ?_, fun c => ofDescriptors_eq_ok_iff⟩, fun directory text c h => ?_⟩
  · obtain ⟨c', hok, -⟩ := attempt_of_not_mem (mt mem_ids.mpr hd)
    rw [hok]
  · rw [ofText] at h
    split at h
    · exact absurd h (by simp)
    · rename_i cs hcs
      exact ⟨cs, hcs, holdsFiles_of_foldlM h⟩

def pairText : String :=
  "coverages: [\x7bid: b, crs: CRS:84, envelope: [0, 0, 4, 4], width: 4, height: 3, " ++
    "bands: [\x7bname: x\x7d], data_path: x.f32\x7d, " ++
    "\x7bid: a, crs: EPSG:3857, envelope: [0, 0, 4, 4], width: 2, height: 2, " ++
    "bands: [\x7bname: y\x7d]\x7d]"

theorem holds_first_and_files_pair : ∃ c : Catalog Exact, ofText (some "/data") pairText = .ok c ∧
    c.HoldsFiles Exact (some "/data") ((declaredOfText? pairText).getD []) ∧
    c.dataPath? "b" = some "/data/x.f32" ∧
    ∃ r : RawFileEntry Exact Exact, c.rawFileReader.find? "b" = some r ∧
      r.path = "/data/x.f32" := by
  have hparsed : (declaredOfText? (α := Exact) pairText).map (fun cs =>
      (cs.map fun d => (d.id, d.dataPath),
        (cs.foldlM (declare (some "/data")) empty).toOption.map keys)) =
      some ([("b", some "x.f32"), ("a", none)], some ["b", "a"]) := by decide +kernel
  obtain ⟨cs, hcs, hread⟩ := Option.map_eq_some_iff.mp hparsed
  obtain ⟨hrows, hkeys⟩ := Prod.mk.inj hread
  obtain ⟨c, hc, -⟩ := exists_of_toOption_map hkeys
  have hloaded : ofText (some "/data") pairText = .ok c := by
    rw [ofText, hcs]
    exact hc
  obtain ⟨cs', hcs', hfiles⟩ := (holds_first_and_files Exact Exact).2 _ _ c hloaded
  obtain rfl : cs = cs' := Option.some.inj (hcs.symm.trans hcs')
  obtain ⟨b, rest, rfl, hb, -⟩ := List.map_eq_cons_iff.mp hrows
  obtain ⟨hid, hpath⟩ : b.id = "b" ∧ b.dataPath = some "x.f32" := by simpa using hb
  have hdata : c.dataPath? "b" = some "/data/x.f32" := by
    rw [← hid, hfiles.path_eq b (List.mem_cons_self ..), hpath]
    decide +kernel
  obtain ⟨d, hd⟩ := hfiles.path_described _ _ hdata
  have hfollows := RawFileEntry.follows_ofDescriptor (σ := Exact) d "/data/x.f32"
  refine ⟨c, hloaded, ?_, hdata, _, (hfiles.reader_find _ _).mpr ⟨d, _, hd, hdata, hfollows⟩,
    hfollows.path_eq⟩
  rwa [hcs]

end Catalog

end GeoRaster
