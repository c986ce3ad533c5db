import GeoRaster.Request.Document
import Mathlib.Data.List.Basic

namespace GeoRaster.Json

variable {α τ : Type}

section Values

variable {encode : τ → Json α} {decode : Json α → Option τ}

theorem list?_map {xs : List τ} (h : ∀ x ∈ xs, decode (encode x) = some x) :
    list? decode (.array (xs.map encode)) = some xs := by
  simp only [list?]
  induction xs with
  | nil => rfl
  | cons x xs ih =>
    obtain ⟨hx, hxs⟩ := List.forall_mem_cons.mp h
    simp [hx, ih hxs]

theorem nullable_of_ne {d : Json α} (h : d ≠ .null) : nullable decode d = (decode d).map some := by
  cases d with
  | null => exact absurd rfl h
  | _ => rfl

theorem nullable_ofOption (hnull : decode .null = none) {o : Option τ}
    (h : ∀ x ∈ o, decode (encode x) = some x) :
    nullable decode (ofOption encode o) = some o := by
  cases o with
  | none => rfl
  | some x =>
    have hx := h x rfl
    have hne : encode x ≠ .null := fun he => absurd (he ▸ hx) (by simp [hnull])
    rw [ofOption, nullable_of_ne hne, hx, Option.map_some]

theorem nullable_ofOption_string (o : Option String) :
    nullable string? (ofOption .string o : Json α) = some o :=
  nullable_ofOption rfl fun _ _ => rfl

theorem strings?_ofStrings (ss : List String) : strings? (.ofStrings ss : Json α) = some ss :=
  list?_map fun _ _ => rfl

theorem real?_ofScalar [Scalar α] {x : α} (h : Scalar.isFinite x = true) :
    real? (.ofScalar x) = some x := by
  rw [ofScalar, if_pos h]
  rfl

theorem int64?_integer (i : Int64) : int64? (.integer i.toInt : Json α) = some i := by
  have hrange : Int64.minValue.toInt ≤ i.toInt ∧ i.toInt ≤ Int64.maxValue.toInt :=
    ⟨i.minValue_le_toInt, i.toInt_le⟩
  rw [int64?, integer?, if_pos hrange, Option.map_some, Int64.ofInt_toInt]

end Values

namespace Fields

variable {v : Option (Json α)} {vs : List (Option (Json α))} {positional : Bool} {i : Nat}

@[simp]
theorem get?_zero : (Fields.mk (v :: vs) positional).get? 0 = v := by
  cases v <;> rfl

@[simp]
theorem get?_succ :
    (Fields.mk (v :: vs) positional).get? (i + 1) = (Fields.mk vs positional).get? i :=
  rfl

variable {f : Fields α} {d : Json α} {decode : Json α → Option τ} {x : τ} {o : Option τ}

theorem required_of (hget : f.get? i = some d) (hd : decode d = some x) :
    f.required i decode = some x := by
  rw [required, hget]
  exact hd

theorem optional_of (hget : f.get? i = some d) (hd : nullable decode d = some o) :
    f.optional i decode = some o := by
  rw [Fields.optional, hget]
  exact hd

end Fields

section Members

variable {members before after : List (String × Json α)} {name other : String} {v : Json α}

theorem filter_eq_nil_of_notMem (h : name ∉ members.map Prod.fst) :
    members.filter (·.1 == name) = [] := by
  rw [List.filter_eq_nil_iff]
  intro m hm he
  exact h (List.mem_map.mpr ⟨m, hm, beq_iff_eq.mp he⟩)

theorem uniqueMember?_of_notMem (h : name ∉ members.map Prod.fst) :
    uniqueMember? members name = some none := by
  rw [uniqueMember?, filter_eq_nil_of_notMem h]

theorem uniqueMember?_insert_self (h : name ∉ (before ++ after).map Prod.fst) :
    uniqueMember? (before ++ (name, v) :: after) name = some (some v) := by
  rw [List.map_append, List.mem_append, not_or] at h
  simp [uniqueMember?, filter_eq_nil_of_notMem h.1, filter_eq_nil_of_notMem h.2]

theorem uniqueMember?_insert_of_ne (h : other ≠ name) :
    uniqueMember? (before ++ (name, v) :: after) other = uniqueMember? (before ++ after) other := by
  have hne : (name == other) = false := by simpa using Ne.symm h
  simp [uniqueMember?, hne]

theorem uniqueMember?_eq_lookup (h : (members.map Prod.fst).Nodup) (name : String) :
    uniqueMember? members name = some (members.lookup name) := by
  induction members with
  | nil => rfl
  | cons m members ih =>
    obtain ⟨n, v⟩ := m
    obtain ⟨hn, hnd⟩ := List.nodup_cons.mp h
    rw [← List.nil_append ((n, v) :: members)]
    by_cases hname : name = n
    · subst hname
      rw [uniqueMember?_insert_self hn, List.nil_append, List.lookup_cons_self]
    · have hne : (name == n) = false := by simpa using hname
      rw [uniqueMember?_insert_of_ne hname, List.nil_append, List.nil_append, ih hnd,
        List.lookup_cons, hne]

theorem fields?_object (h : (members.map Prod.fst).Nodup) (names : List String) :
    fields? names (.object members) = some ⟨names.map fun n => members.lookup n, false⟩ := by
  have hlookup : uniqueMember? members = fun n => some (members.lookup n) :=
    funext (uniqueMember?_eq_lookup h)
  have hvalues : names.mapM (uniqueMember? members) =
      some (names.map fun n => members.lookup n) := by
    rw [hlookup]
    exact List.mapM_pure
  rw [fields?, hvalues]
  rfl

end Members

def GainsMember (name : String) (d d' : Json α) : Prop :=
  ∃ before after, name ∉ (before ++ after).map Prod.fst ∧ d = .object (before ++ after) ∧
    d' = .object (before ++ (name, .null) :: after)

def GainsItem (names : List String) (name : String) (d d' : Json α) : Prop :=
  ∃ items, names[items.length]? = some name ∧ d = .array items ∧ d' = .array (items ++ [.null])

/-- The second fields have `null` where the first lack the field at a place; both come from an array
or both from an object. An array lacks all fields from there on. -/
structure Fields.FilledAt (positional : Bool) (i : Nat) (f f' : Fields α) : Prop where
  absent : f.get? i = none
  null : f'.get? i = some .null
  others : ∀ j, j ≠ i → f'.get? j = f.get? j
  form : f.positional = positional
  form' : f'.positional = positional
  rest : positional = true → ∀ j, i < j → f.get? j = none

section Filling

variable {names : List String} {name : String} {i : Nat} {d d' : Json α}

theorem index_unique {j : Nat} (hnodup : names.Nodup) (hj : names[j]? = some name)
    (hi : names[i]? = some name) : j = i :=
  (List.getElem?_inj (List.getElem?_eq_some_iff.mp hj).1 hnodup).mp (hj.trans hi.symm)

theorem mapM_eq_ite {β γ : Type} (g : β → Option (Option γ)) (names : List β) :
    names.mapM g =
      if names.all fun n => (g n).isSome then some (names.map fun n => (g n).join) else none := by
  induction names with
  | nil => rfl
  | cons n names ih =>
    rw [List.mapM_cons, ih, List.all_cons]
    cases hn : g n with
    | none => rfl
    | some v => cases names.all fun n => (g n).isSome <;> simp [hn]

theorem fields?_members (members : List (String × Json α)) :
    fields? names (.object members) =
      if names.all fun n => (uniqueMember? members n).isSome then
        some ⟨names.map fun n => (uniqueMember? members n).join, false⟩
      else none := by
  rw [fields?, mapM_eq_ite]
  split <;> rfl

theorem Fields.get?_map (g : String → Option (Json α)) (p : Bool) (j : Nat) :
    (Fields.mk (names.map g) p).get? j = names[j]? >>= g := by
  rw [Fields.get?, List.getElem?_map]
  cases names[j]? <;> rfl

theorem fields?_gainsMember (hnodup : names.Nodup) (hi : names[i]? = some name)
    (h : GainsMember name d d') :
    Option.Rel (Fields.FilledAt false i) (fields? names d) (fields? names d') := by
  obtain ⟨before, after, hnew, rfl, rfl⟩ := h
  -- the new name was looked up in vain before; every other one is looked up as it was
  have hself := uniqueMember?_of_notMem hnew
  have hself' := uniqueMember?_insert_self (v := Json.null) hnew
  have hothers : ∀ n, n ≠ name → uniqueMember? (before ++ (name, Json.null) :: after) n =
      uniqueMember? (before ++ after) n := fun n => uniqueMember?_insert_of_ne
  have hall : (names.all fun n => (uniqueMember? (before ++ (name, .null) :: after) n).isSome) =
      names.all fun n => (uniqueMember? (before ++ after) n).isSome := by
    refine List.all_congr rfl fun n => ?_
    by_cases hn : n = name
    · rw [hn, hself, hself']
      rfl
    · rw [hothers n hn]
  rw [fields?_members, fields?_members, hall]
  split
  · refine .some ⟨?absent, ?null, fun j hj => ?others, rfl, rfl, nofun⟩
    case absent => rw [Fields.get?_map, hi, Option.bind_eq_bind, Option.bind_some, hself]; rfl
    case null => rw [Fields.get?_map, hi, Option.bind_eq_bind, Option.bind_some, hself']; rfl
    case others =>
      rw [Fields.get?_map, Fields.get?_map]
      cases hn : names[j]? with
      | none => rfl
      | some n =>
        have hne : n ≠ name := fun he => hj (index_unique hnodup (he ▸ hn) hi)
        rw [Option.bind_eq_bind, Option.bind_some, Option.bind_some, hothers n hne]
  · exact .none

theorem Fields.get?_items {items : List (Json α)} (h : items.length ≤ names.length) (p : Bool)
    (j : Nat) :
    (Fields.mk (names.zipIdx.map fun (_, k) => items[k]?) p).get? j = items[j]? := by
  rw [Fields.get?, List.getElem?_map, List.getElem?_zipIdx, Nat.zero_add]
  cases hj : names[j]? with
  | none =>
    have hj : items.length ≤ j := Nat.le_trans h (List.getElem?_eq_none_iff.mp hj)
    exact (List.getElem?_eq_none hj).symm
  | some n => rfl

theorem fields?_gainsItem (hnodup : names.Nodup) (hi : names[i]? = some name)
    (h : GainsItem names name d d') :
    Option.Rel (Fields.FilledAt true i) (fields? names d) (fields? names d') := by
  obtain ⟨items, hname, rfl, rfl⟩ := h
  obtain rfl : items.length = i := index_unique hnodup hname hi
  have hlt : items.length < names.length := (List.getElem?_eq_some_iff.mp hi).1
  have hle : items.length ≤ names.length := Nat.le_of_lt hlt
  have hle' : (items ++ [Json.null]).length ≤ names.length := by
    rw [List.length_append]
    exact hlt
  rw [fields?, if_neg (Nat.not_lt.mpr hle), fields?, if_neg (Nat.not_lt.mpr hle')]
  refine .some ⟨?absent, ?null, fun j hj => ?others, rfl, rfl, fun _ j hj => ?rest⟩
  case absent => rw [Fields.get?_items hle, List.getElem?_eq_none (Nat.le_refl _)]
  case null => rw [Fields.get?_items hle', List.getElem?_concat_length]
  case others =>
    rw [Fields.get?_items hle, Fields.get?_items hle']
    obtain hj | hj := Nat.lt_or_gt_of_ne hj
    · exact List.getElem?_append_left hj
    · rw [List.getElem?_eq_none (Nat.le_of_lt hj), List.getElem?_eq_none]
      rw [List.length_append]
      exact hj
  case rest =>
    rw [Fields.get?_items hle, List.getElem?_eq_none (Nat.le_of_lt hj)]

end Filling

namespace Fields.FilledAt

variable {positional : Bool} {i j : Nat} {f f' : Fields α} {decode : Json α → Option τ}

theorem required (h : FilledAt positional i f f') (hj : j ≠ i) :
    f'.required j decode = f.required j decode := by
  rw [Fields.required, Fields.required, h.others j hj]

theorem defaulted {value : τ} (h : FilledAt positional i f f') (hj : j ≠ i) :
    f'.defaulted j value decode = f.defaulted j value decode := by
  rw [Fields.defaulted, Fields.defaulted, h.others j hj]

theorem defaulted_nullable (h : FilledAt positional i f f') :
    f'.defaulted j none (nullable decode) = f.defaulted j none (nullable decode) := by
  by_cases hj : j = i
  · subst hj
    rw [Fields.defaulted, Fields.defaulted, h.absent, h.null]
    rfl
  · exact h.defaulted hj

theorem free (h : FilledAt positional i f f') : f'.free j decode = f.free j decode :=
  h.defaulted_nullable

theorem optional (h : FilledAt false i f f') : f'.optional j decode = f.optional j decode := by
  rw [Fields.optional, Fields.optional, h.form, h.form']
  by_cases hj : j = i
  · subst hj
    rw [h.absent, h.null]
    rfl
  · rw [h.others j hj]

/-- An array that does not reach a field does not reach a later one that is required. -/
theorem required_rest (h : FilledAt true i f f') (hj : i < j) : f.required j decode = none := by
  rw [Fields.required, h.rest rfl j hj]
  rfl

end Fields.FilledAt

def ReadsNullMemberAsAbsent (decode : Json α → Option τ) (name : String) : Prop :=
  ∀ d d', GainsMember name d d' → decode d' = decode d

def ReadsNullItemAsAbsent (decode : Json α → Option τ) (names : List String) (name : String) :
    Prop :=
  ∀ d d', GainsItem names name d d' → decode d' = decode d

/-- In both forms of a record, the reader takes `null` for a field left out. -/
def ReadsNullAsAbsent (decode : Json α → Option τ) (names : List String) (name : String) : Prop :=
  ReadsNullMemberAsAbsent decode name ∧ ReadsNullItemAsAbsent decode names name

section Readers

variable {names : List String} {name : String} {i : Nat} {decode : Json α → Option τ}
  {k : Fields α → Option τ}

/-- Going on alike from two readings gives alike records. -/
theorem bind_congr_of_rel {R : Fields α → Fields α → Prop} {x y : Option (Fields α)}
    (h : Option.Rel R x y) (hk : ∀ f f', R f f' → k f' = k f) : (y >>= k) = (x >>= k) := by
  cases h with
  | none => rfl
  | some h => exact hk _ _ h

theorem readsNullMemberAsAbsent (hdecode : ∀ d, decode d = (fields? names d >>= k))
    (hnodup : names.Nodup) (hi : names[i]? = some name)
    (hk : ∀ f f', Fields.FilledAt false i f f' → k f' = k f) :
    ReadsNullMemberAsAbsent decode name := by
  intro d d' h
  rw [hdecode, hdecode, bind_congr_of_rel (fields?_gainsMember hnodup hi h) hk]

theorem readsNullItemAsAbsent (hdecode : ∀ d, decode d = (fields? names d >>= k))
    (hnodup : names.Nodup) (hi : names[i]? = some name)
    (hk : ∀ f f', Fields.FilledAt true i f f' → k f' = k f) :
    ReadsNullItemAsAbsent decode names name := by
  intro d d' h
  rw [hdecode, hdecode, bind_congr_of_rel (fields?_gainsItem hnodup hi h) hk]

theorem readsNullAsAbsent (hdecode : ∀ d, decode d = (fields? names d >>= k))
    (hnodup : names.Nodup) (hi : names[i]? = some name)
    (hk : ∀ positional f f', Fields.FilledAt positional i f f' → k f' = k f) :
    ReadsNullAsAbsent decode names name :=
  ⟨readsNullMemberAsAbsent hdecode hnodup hi (hk false),
    readsNullItemAsAbsent hdecode hnodup hi (hk true)⟩

end Readers

end GeoRaster.Json
