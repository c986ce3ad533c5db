import GeoRaster.Proofs.LoadedCoverages

namespace GeoRaster

/-- Where no key comes twice, none comes before its row. -/
theorem exists_split_of_nodup {β γ : Type} {rows : List β} {key : β → γ} {row : β}
    (h : (rows.map key).Nodup) (hrow : row ∈ rows) :
    ∃ before after, rows = before ++ row :: after ∧ ∀ other ∈ before, key other ≠ key row := by
  obtain ⟨before, after, rfl⟩ := List.append_of_mem hrow
  rw [List.map_append, List.nodup_append] at h
  refine ⟨before, after, rfl, fun other hother => ?_⟩
  exact h.2.2 _ (List.mem_map_of_mem hother) _ (List.mem_map_of_mem (List.mem_cons_self ..))

namespace Catalog

variable {α : Type} {c c' : Catalog α} {d : CoverageDescriptor α} {e : CatalogEntry α} {id : String}

def keys (c : Catalog α) : List String :=
  c.entries.map CatalogEntry.id

@[simp] theorem keys_empty : (empty : Catalog α).keys = [] := rfl

theorem nodup_keys (c : Catalog α) : c.keys.Nodup :=
  c.distinct

theorem insertEntry_eq_error (h : e.id ∈ c.keys) :
    c.insertEntry e = .error (.duplicate e.id) :=
  dif_pos h

theorem exists_insertEntry (h : e.id ∉ c.keys) :
    ∃ c', c.insertEntry e = .ok c' ∧ c'.entries = c.entries ++ [e] :=
  ⟨_, dif_neg h, rfl⟩

section Lookup

theorem find?_eq_some (h : e ∈ c.entries) : c.find? e.id = some e := by
  obtain ⟨before, after, hentries, hne⟩ := exists_split_of_nodup c.nodup_keys h
  rw [find?, List.find?_eq_some_iff_append]
  exact ⟨beq_self_eq_true e.id, before, after, hentries, fun a ha => by simpa using hne a ha⟩

theorem find?_eq_some_iff : c.find? id = some e ↔ e ∈ c.entries ∧ e.id = id := by
  constructor
  · intro h
    exact ⟨List.mem_of_find?_eq_some h, by simpa using List.find?_some h⟩
  · rintro ⟨hmem, rfl⟩
    exact find?_eq_some hmem

theorem find?_append (h : c'.entries = c.entries ++ [e]) :
    c'.find? id = (c.find? id).or (if e.id = id then some e else none) := by
  rw [find?, h, List.find?_append, List.find?_singleton, find?]
  simp only [beq_iff_eq]

theorem mem_keys_iff : id ∈ c.keys ↔ (c.descriptor? id).isSome = true := by
  rw [descriptor?, Option.isSome_map, find?, List.find?_isSome, keys]
  simp

end Lookup

section Identifiers

theorem ids_perm (c : Catalog α) : c.ids.Perm c.keys :=
  List.mergeSort_perm ..

theorem mem_ids : id ∈ c.ids ↔ id ∈ c.keys :=
  c.ids_perm.mem_iff

theorem length_ids (c : Catalog α) : c.ids.length = c.size := by
  rw [c.ids_perm.length_eq, keys, List.length_map, size]

theorem ids_increasing (c : Catalog α) : c.ids.Pairwise (· < ·) := by
  have hsorted : c.ids.Pairwise fun a b => decide (a ≤ b) = true := by
    apply List.pairwise_mergeSort
    · intro a b d hab hbd
      simp only [decide_eq_true_eq] at hab hbd ⊢
      exact String.le_trans hab hbd
    · intro a b
      simpa using String.le_total a b
  have hnodup : c.ids.Nodup := c.ids_perm.nodup_iff.mpr c.nodup_keys
  refine (hsorted.and hnodup).imp fun {a b} h => ?_
  obtain ⟨hle, hne⟩ := h
  rw [decide_eq_true_eq] at hle
  exact String.not_le.mp fun hge => hne (String.le_antisymm hle hge)

end Identifiers

section Insertions

def attempt (c : Catalog α) (d : CoverageDescriptor α) :
    Catalog α × Except (CatalogFault α) Unit :=
  match c.insert d with
  | .ok c' => (c', .ok ())
  | .error f => (c, .error f)

def attempts (ds : List (CoverageDescriptor α)) : Catalog α :=
  ds.foldl (fun c d => (c.attempt d).1) empty

@[simp] theorem attempts_append (ds : List (CoverageDescriptor α)) (d : CoverageDescriptor α) :
    attempts (ds ++ [d]) = ((attempts ds).attempt d).1 :=
  List.foldl_concat ..

theorem attempt_of_mem (h : d.id ∈ c.keys) : c.attempt d = (c, .error (.duplicate d.id)) := by
  have hrefused : c.insert d = .error (.duplicate d.id) := insertEntry_eq_error h
  rw [attempt, hrefused]

theorem attempt_of_not_mem (h : d.id ∉ c.keys) :
    ∃ c', c.attempt d = (c', .ok ()) ∧ c'.entries = c.entries ++ [⟨d, none⟩] := by
  obtain ⟨c', hinsert, hentries⟩ : ∃ c', c.insert d = .ok c' ∧ _ := exists_insertEntry h
  exact ⟨c', by rw [attempt, hinsert], hentries⟩

/-- What one insertion does to the look-up of descriptions. -/
theorem descriptor?_attempt (c : Catalog α) (d : CoverageDescriptor α) (id : String) :
    (c.attempt d).1.descriptor? id =
      (c.descriptor? id).or (if d.id = id then some d else none) := by
  by_cases h : d.id ∈ c.keys
  · rw [attempt_of_mem h]
    split
    · rename_i hid
      obtain ⟨d', hd'⟩ := Option.isSome_iff_exists.mp (mem_keys_iff.mp (hid ▸ h))
      rw [hd', Option.some_or]
    · rw [Option.or_none]
  · obtain ⟨c', hok, hentries⟩ := attempt_of_not_mem h
    rw [hok, descriptor?, find?_append hentries, descriptor?]
    have hid : CatalogEntry.id ⟨d, none⟩ = d.id := rfl
    cases c.find? id <;> split <;> simp_all

/-- The first description under an identifier is the one that is found. -/
theorem descriptor?_attempts (ds : List (CoverageDescriptor α)) (id : String) :
    (attempts ds).descriptor? id = ds.find? (·.id == id) := by
  induction ds using List.reverseRecOn with
  | nil => rfl
  | append_singleton ds d ih =>
    rw [attempts_append, descriptor?_attempt, ih, List.find?_append, List.find?_singleton]
    simp only [beq_iff_eq]

theorem mem_ids_attempts {ds : List (CoverageDescriptor α)} :
    id ∈ (attempts ds).ids ↔ ∃ d ∈ ds, d.id = id := by
  rw [mem_ids, mem_keys_iff, descriptor?_attempts, List.find?_isSome]
  simp

theorem exists_foldlM_insert_iff {ds : List (CoverageDescriptor α)} :
    (∃ c', ds.foldlM insert c = .ok c') ↔ (c.keys ++ ds.map (·.id)).Nodup := by
  induction ds generalizing c with
  | nil => simpa [pure, Except.pure] using c.nodup_keys
  | cons d ds ih =>
    simp only [List.foldlM_cons, List.map_cons, bind_eq_ok]
    by_cases h : d.id ∈ c.keys
    · have hrefused : c.insert d = .error (.duplicate d.id) := insertEntry_eq_error h
      simp only [hrefused, reduceCtorEq, false_and, exists_false, false_iff]
      intro hnodup
      exact (List.nodup_append.mp hnodup).2.2 d.id h d.id (List.mem_cons_self ..) rfl
    · obtain ⟨c', hinsert, hentries⟩ : ∃ c', c.insert d = .ok c' ∧ _ := exists_insertEntry h
      have hkeys : c'.keys = c.keys ++ [d.id] := by
        rw [keys, hentries, List.map_append]
        rfl
      simp only [hinsert, Except.ok.injEq, exists_eq_left', ih, hkeys, List.append_assoc,
        List.singleton_append]

theorem attempts_of_foldlM_insert {ds : List (CoverageDescriptor α)}
    (h : ds.foldlM insert c = .ok c') : ds.foldl (fun c d => (c.attempt d).1) c = c' := by
  induction ds generalizing c with
  | nil => exact Except.ok.inj h
  | cons d ds ih =>
    rw [List.foldlM_cons, bind_eq_ok] at h
    obtain ⟨c₁, hinsert, hrest⟩ := h
    rw [List.foldl_cons, attempt, hinsert]
    exact ih hrest

theorem ofDescriptors_eq_ok_iff {ds : List (CoverageDescriptor α)} :
    ofDescriptors ds = .ok c ↔ (ds.map (·.id)).Nodup ∧ c = attempts ds := by
  have hall : (∃ c, ofDescriptors ds = .ok c) ↔ (ds.map (·.id)).Nodup := by
    rw [ofDescriptors, exists_foldlM_insert_iff, keys_empty, List.nil_append]
  constructor
  · exact fun h => ⟨hall.mp ⟨c, h⟩, (attempts_of_foldlM_insert h).symm⟩
  · rintro ⟨hnodup, rfl⟩
    obtain ⟨c, hc⟩ := hall.mpr hnodup
    rw [hc]
    exact congrArg Except.ok (attempts_of_foldlM_insert hc).symm

end Insertions

end Catalog

end GeoRaster
