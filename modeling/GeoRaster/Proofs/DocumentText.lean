import GeoRaster.Proofs.NumberText
import GeoRaster.Proofs.StringText

namespace GeoRaster.Json

section Values

variable {α : Type} [Scalar α]

theorem takeValue?_number {c : Char} (hc : c = '-' ∨ c.isDigit = true) (fuel : ℕ)
    (r : List Char) : (takeValue? (fuel + 1) (c :: r) : Option (Json α × List Char)) =
      takeNumber? (c :: r) := by
  rw [takeValue?.eq_def]
  obtain rfl | hc := hc
  · rfl
  · split
    · contradiction
    · rename_i heq
      split <;> first
        | rfl
        | (rename_i heq; exact absurd ((List.cons.inj heq).1 ▸ hc) (by decide))

theorem takeValue?_int (n : ℤ) (fuel : ℕ) {rest : List Char} (hr : EndsNumber rest) :
    takeValue? (fuel + 1) ((toString n).toList ++ rest) = some ((ofInt n : Json α), rest) := by
  have hparts := intParts_wellFormed n
  obtain ⟨c, r, htext, hc⟩ := hparts.head?_text
  have hread := NumberParts.takeNumber?_text (α := α) hparts hr
  rw [← text_intParts, htext, List.cons_append, takeValue?_number hc, ← List.cons_append, ← htext,
    hread, value_intParts]

theorem takeValue?_null (fuel : ℕ) (rest : List Char) :
    takeValue? (fuel + 1) ("null".toList ++ rest) = some ((.null : Json α), rest) := by
  rfl

theorem takeValue?_bool (b : Bool) (fuel : ℕ) (rest : List Char) :
    takeValue? (fuel + 1) ((if b then "true" else "false").toList ++ rest) =
      some ((.bool b : Json α), rest) := by
  cases b <;> rfl

theorem takeValue?_numberText {β : Type} [ShortestText β] (x : β) (fuel : ℕ) {rest : List Char}
    (hr : EndsNumber rest) : takeValue? (fuel + 1) ((numberText x).toList ++ rest) =
      some ((rereadNumber x : Json α), rest) := by
  rw [numberText, rereadNumber]
  cases ShortestText.written x with
  | nan => exact takeValue?_null fuel rest
  | infinity _ => exact takeValue?_null fuel rest
  | finite d =>
    obtain ⟨p, hp⟩ := d.exists_writes_document
    obtain ⟨c, r, htext, hc⟩ := hp.wellFormed.head?_text
    have hread := hp.takeNumber? (α := α) hr
    rw [hp.text_eq] at htext
    show takeValue? _ ((String.ofList (Decimal.Layout.document.text d)).toList ++ rest) = _
    rw [String.toList_ofList, htext, List.cons_append, takeValue?_number hc, ← List.cons_append,
      ← htext, hread]

theorem takeValue?_quote (s : String) (fuel : ℕ) (rest : List Char) :
    takeValue? (fuel + 1) ((quote s).toList ++ rest) = some ((.string s : Json α), rest) := by
  obtain ⟨r, htext, hread⟩ := takeString?_quote s rest
  rw [htext, takeValue?.eq_def]
  simp only [hread]

end Values

section Documents

variable {α : Type}

theorem toList_lineBreak (depth : ℕ) :
    (lineBreak depth).toList = '\n' :: List.replicate (2 * depth) ' ' := by
  simp [lineBreak]

theorem skipSpaces_lineBreak (depth : ℕ) (cs : List Char) :
    skipSpaces ((lineBreak depth).toList ++ cs) = skipSpaces cs := by
  have hspaces : ∀ c ∈ '\n' :: List.replicate (2 * depth) ' ', isSpace c = true := by
    intro c hc
    obtain rfl | hc := List.mem_cons.mp hc
    · rfl
    · rw [List.eq_of_mem_replicate hc]
      rfl
  rw [toList_lineBreak, skipSpaces, List.dropWhile_append_of_pos hspaces]
  rfl

theorem skipSpaces_cons {c : Char} (hc : isSpace c = false) (cs : List Char) :
    skipSpaces (c :: cs) = c :: cs :=
  List.dropWhile_cons_of_neg (ne_true_of_eq_false hc)

variable [ShortestText α]

def afterItem (depth : ℕ) : List (Json α) → List Char
  | [] => (lineBreak depth).toList ++ [']']
  | v :: r => ',' :: ((lineBreak (depth + 1)).toList ++
      ((indented (depth + 1) v).toList ++ afterItem depth r))

def afterMember (depth : ℕ) : List (String × Json α) → List Char
  | [] => (lineBreak depth).toList ++ ['\x7d']
  | (name, v) :: r => ',' :: ((lineBreak (depth + 1)).toList ++ ((quote name).toList ++
      (':' :: ' ' :: ((indented (depth + 1) v).toList ++ afterMember depth r))))

theorem toList_array (depth : ℕ) (v : Json α) (r : List (Json α)) :
    (indented depth (.array (v :: r))).toList = '[' :: ((lineBreak (depth + 1)).toList ++
      ((indented (depth + 1) v).toList ++ afterItem depth r)) := by
  rw [indented]
  · induction r generalizing v with
    | nil => simp [indentedItems, afterItem]
    | cons u r ih => simpa [indentedItems, afterItem] using ih u
  · simp

theorem toList_object (depth : ℕ) (name : String) (v : Json α) (r : List (String × Json α)) :
    (indented depth (.object ((name, v) :: r))).toList =
      '\x7b' :: ((lineBreak (depth + 1)).toList ++ ((quote name).toList ++
        (':' :: ' ' :: ((indented (depth + 1) v).toList ++ afterMember depth r)))) := by
  rw [indented]
  · induction r generalizing name v with
    | nil => simp [indentedMembers, afterMember]
    | cons m r ih => simpa [indentedMembers, afterMember] using ih m.1 m.2
  · simp

theorem endsNumber_lineBreak (depth : ℕ) (rest : List Char) :
    EndsNumber ((lineBreak depth).toList ++ rest) := by
  rw [toList_lineBreak]
  exact endsNumber_cons (by decide) (by decide)

theorem endsNumber_afterItem (depth : ℕ) (r : List (Json α)) (rest : List Char) :
    EndsNumber (afterItem depth r ++ rest) := by
  cases r with
  | nil =>
    rw [afterItem, List.append_assoc]
    exact endsNumber_lineBreak depth _
  | cons v r => exact endsNumber_cons (by decide) (by decide)

theorem endsNumber_afterMember (depth : ℕ) (r : List (String × Json α)) (rest : List Char) :
    EndsNumber (afterMember depth r ++ rest) := by
  cases r with
  | nil =>
    rw [afterMember, List.append_assoc]
    exact endsNumber_lineBreak depth _
  | cons m r => exact endsNumber_cons (by decide) (by decide)

def OpensValue (cs : List Char) : Prop :=
  ∃ c ∈ cs.head?, isSpace c = false ∧ c ≠ ']'

theorem opensValue_text {p : NumberParts} (hp : p.WellFormed) : OpensValue p.text := by
  obtain ⟨c, r, htext, hc⟩ := hp.head?_text
  rw [htext]
  obtain rfl | hc := hc
  · exact ⟨'-', rfl, by decide⟩
  · refine ⟨c, rfl, ?_, ?_⟩
    · simp only [isSpace, Bool.or_eq_false_iff, beq_eq_false_iff_ne]
      refine ⟨⟨⟨?_, ?_⟩, ?_⟩, ?_⟩ <;> rintro rfl <;> exact absurd hc (by decide)
    · rintro rfl
      exact absurd hc (by decide)

theorem opensValue_null : OpensValue "null".toList :=
  ⟨'n', rfl, by decide⟩

theorem opensValue_quote (s : String) : OpensValue (quote s).toList := by
  rw [toList_quote]
  exact ⟨'"', rfl, by decide⟩

theorem opensValue_indented (depth : ℕ) (j : Json α) :
    OpensValue (indented depth j).toList := by
  cases j with
  | null =>
    rw [indented]
    exact opensValue_null
  | unreadable =>
    rw [indented]
    exact opensValue_null
  | bool b =>
    rw [indented]
    cases b with
    | true => exact ⟨'t', rfl, by decide⟩
    | false => exact ⟨'f', rfl, by decide⟩
  | integer n =>
    rw [indented, ← text_intParts]
    exact opensValue_text (intParts_wellFormed n)
  | real x =>
    rw [indented, numberText]
    cases ShortestText.written x with
    | nan => exact opensValue_null
    | infinity _ => exact opensValue_null
    | finite d =>
      obtain ⟨p, hp⟩ := d.exists_writes_document
      show OpensValue (String.ofList (Decimal.Layout.document.text d)).toList
      rw [String.toList_ofList, ← hp.text_eq]
      exact opensValue_text hp.wellFormed
  | string s =>
    rw [indented]
    exact opensValue_quote s
  | array items =>
    cases items with
    | nil =>
      rw [indented]
      exact ⟨'[', rfl, by decide⟩
    | cons v r =>
      rw [toList_array]
      exact ⟨'[', rfl, by decide⟩
  | object members =>
    cases members with
    | nil =>
      rw [indented]
      exact ⟨'\x7b', rfl, by decide⟩
    | cons m r =>
      rw [toList_object]
      exact ⟨'\x7b', rfl, by decide⟩

theorem skipSpaces_of_opensValue {cs : List Char} (h : OpensValue cs) (rest : List Char) :
    skipSpaces (cs ++ rest) = cs ++ rest := by
  obtain ⟨c, hc, hspace, -⟩ := h
  obtain ⟨r, rfl⟩ := List.head?_eq_some_iff.mp hc
  exact skipSpaces_cons hspace _

end Documents

section Reread

variable {α β : Type} [ShortestText α] [Scalar β]

mutual

/-- A document as it is after it has been written and read. Numbers take the way through their
text into the arithmetic of the reader. -/
def reread : Json α → Json β
  | .null | .unreadable => .null
  | .bool b => .bool b
  | .integer n => ofInt n
  | .real x => rereadNumber x
  | .string s => .string s
  | .array items => .array (rereadItems items)
  | .object members => .object (rereadMembers members)

def rereadItems : List (Json α) → List (Json β)
  | [] => []
  | v :: r => reread v :: rereadItems r

def rereadMembers : List (String × Json α) → List (String × Json β)
  | [] => []
  | (name, v) :: r => (name, reread v) :: rereadMembers r

end

@[simp]
theorem rereadItems_eq (items : List (Json α)) :
    rereadItems items = items.map (reread : Json α → Json β) := by
  induction items with
  | nil => rfl
  | cons v r ih => rw [rereadItems, ih, List.map_cons]

@[simp]
theorem rereadMembers_eq (members : List (String × Json α)) :
    rereadMembers members = members.map fun m => (m.1, (reread m.2 : Json β)) := by
  induction members with
  | nil => rfl
  | cons m r ih => rw [rereadMembers, ih, List.map_cons]

variable (β) in
/-- Written at this depth, the document is read up to its last character, given a step of recursion
for every character. -/
def Rereads (depth : ℕ) (j : Json α) : Prop :=
  ∀ fuel rest, (indented depth j).toList.length ≤ fuel → EndsNumber rest →
    takeValue? fuel ((indented depth j).toList ++ rest) = some ((reread j : Json β), rest)

theorem takeItems?_afterItem {depth : ℕ} {v : Json α} {r : List (Json α)}
    (h : ∀ u ∈ v :: r, Rereads β (depth + 1) u) {fuel : ℕ} (acc : List (Json β)) (rest : List Char)
    (hf : (indented (depth + 1) v).toList.length + (afterItem depth r).length ≤ fuel) :
    takeItems? fuel acc ((indented (depth + 1) v).toList ++ (afterItem depth r ++ rest)) =
      some (.array (acc.reverse ++ (v :: r).map reread), rest) := by
  induction r generalizing v fuel acc with
  | nil =>
    have hafter : 0 < (afterItem (α := α) depth []).length := by simp [afterItem]
    obtain ⟨fuel, rfl⟩ := Nat.exists_eq_succ_of_ne_zero (show fuel ≠ 0 by omega)
    have hv := h v List.mem_cons_self fuel (afterItem (α := α) depth [] ++ rest) (by omega)
      (endsNumber_afterItem depth [] rest)
    have hclose : skipSpaces (afterItem (α := α) depth [] ++ rest) = ']' :: rest := by
      rw [afterItem, List.append_assoc, skipSpaces_lineBreak]
      rfl
    rw [takeItems?, hv]
    simp [hclose]
  | cons u r ih =>
    have hafter : (afterItem depth (u :: r)).length = 1 + (lineBreak (depth + 1)).toList.length +
        ((indented (depth + 1) u).toList.length + (afterItem depth r).length) := by
      simp only [afterItem, List.length_cons, List.length_append]
      omega
    obtain ⟨fuel, rfl⟩ := Nat.exists_eq_succ_of_ne_zero (show fuel ≠ 0 by omega)
    have hv := h v List.mem_cons_self fuel (afterItem depth (u :: r) ++ rest) (by omega)
      (endsNumber_afterItem depth (u :: r) rest)
    have hcomma : skipSpaces (afterItem depth (u :: r) ++ rest) =
        ',' :: ((lineBreak (depth + 1)).toList ++
          ((indented (depth + 1) u).toList ++ (afterItem depth r ++ rest))) := by
      rw [afterItem, List.cons_append, skipSpaces_cons (by decide)]
      simp only [List.append_assoc]
    have hitem := skipSpaces_of_opensValue (opensValue_indented (depth + 1) u)
      (afterItem depth r ++ rest)
    have hfuel : (indented (depth + 1) u).toList.length + (afterItem depth r).length ≤ fuel := by
      omega
    have hr := ih (fun w hw => h w (List.mem_cons_of_mem _ hw)) (reread v :: acc) hfuel
    rw [takeItems?, hv]
    simp only [Option.bind_eq_bind, Option.bind_some, hcomma, skipSpaces_lineBreak, hitem, hr]
    simp

theorem takeMembers?_quote (fuel : ℕ) (acc : List (String × Json β)) (name : String)
    {cs : List Char} (hcs : skipSpaces cs = cs) :
    takeMembers? (fuel + 1) true acc ((quote name).toList ++ ':' :: ' ' :: cs) =
      takeValue? fuel cs >>= fun (v, r) =>
        match skipSpaces r with
        | ',' :: r' => takeMembers? fuel true ((name, v) :: acc) (skipSpaces r')
        | '\x7d' :: r' => some (.object ((name, v) :: acc).reverse, r')
        | _ => none := by
  obtain ⟨r, htext, hread⟩ := takeString?_quote name (':' :: ' ' :: cs)
  have hcolon : skipSpaces (':' :: ' ' :: cs) = ':' :: ' ' :: cs := skipSpaces_cons (by decide) _
  have hspace : skipSpaces (' ' :: cs) = cs := hcs
  rw [htext, takeMembers?]
  simp only [hread, Option.bind_eq_bind, Option.bind_some, hcolon, hspace]
  rfl

theorem takeMembers?_afterMember {depth : ℕ} {name : String} {v : Json α}
    {r : List (String × Json α)} (h : ∀ m ∈ (name, v) :: r, Rereads β (depth + 1) m.2) {fuel : ℕ}
    (acc : List (String × Json β)) (rest : List Char)
    (hf : (indented (depth + 1) v).toList.length + (afterMember depth r).length ≤ fuel) :
    takeMembers? fuel true acc ((quote name).toList ++ (':' :: ' ' ::
        ((indented (depth + 1) v).toList ++ (afterMember depth r ++ rest)))) =
      some (.object (acc.reverse ++ ((name, v) :: r).map fun m => (m.1, reread m.2)), rest) := by
  induction r generalizing name v fuel acc with
  | nil =>
    have hafter : 0 < (afterMember (α := α) depth []).length := by simp [afterMember]
    obtain ⟨fuel, rfl⟩ := Nat.exists_eq_succ_of_ne_zero (show fuel ≠ 0 by omega)
    have hv : Rereads β (depth + 1) v := h (name, v) List.mem_cons_self
    have hclose : skipSpaces (afterMember (α := α) depth [] ++ rest) = '\x7d' :: rest := by
      rw [afterMember, List.append_assoc, skipSpaces_lineBreak]
      rfl
    rw [takeMembers?_quote _ _ _ (skipSpaces_of_opensValue (opensValue_indented ..) _),
      hv fuel _ (by omega) (endsNumber_afterMember depth [] rest)]
    simp [hclose]
  | cons m r ih =>
    obtain ⟨name', u⟩ := m
    have hafter : (afterMember depth ((name', u) :: r)).length = 3 +
        (lineBreak (depth + 1)).toList.length + (quote name').toList.length +
        ((indented (depth + 1) u).toList.length + (afterMember depth r).length) := by
      simp only [afterMember, List.length_cons, List.length_append]
      omega
    obtain ⟨fuel, rfl⟩ := Nat.exists_eq_succ_of_ne_zero (show fuel ≠ 0 by omega)
    have hv : Rereads β (depth + 1) v := h (name, v) List.mem_cons_self
    have hcomma : skipSpaces (afterMember depth ((name', u) :: r) ++ rest) =
        ',' :: ((lineBreak (depth + 1)).toList ++ ((quote name').toList ++ (':' :: ' ' ::
          ((indented (depth + 1) u).toList ++ (afterMember depth r ++ rest))))) := by
      rw [afterMember, List.cons_append, skipSpaces_cons (by decide)]
      simp only [List.append_assoc, List.cons_append]
    have hfuel : (indented (depth + 1) u).toList.length + (afterMember depth r).length ≤ fuel := by
      omega
    have hr := ih (fun w hw => h w (List.mem_cons_of_mem _ hw)) ((name, reread v) :: acc) hfuel
    rw [takeMembers?_quote _ _ _ (skipSpaces_of_opensValue (opensValue_indented ..) _),
      hv fuel _ (by omega) (endsNumber_afterMember depth _ rest)]
    simp only [Option.bind_eq_bind, Option.bind_some, hcomma, skipSpaces_lineBreak,
      skipSpaces_of_opensValue (opensValue_quote _), hr]
    simp

theorem takeValue?_bracket (fuel depth : ℕ) {cs : List Char} (h : OpensValue cs)
    (rest : List Char) :
    (takeValue? (fuel + 1) ('[' :: ((lineBreak depth).toList ++ (cs ++ rest))) :
      Option (Json β × List Char)) = takeItems? fuel [] (cs ++ rest) := by
  have hskip := skipSpaces_of_opensValue h rest
  obtain ⟨c, hc, -, hclose⟩ := h
  obtain ⟨r, rfl⟩ := List.head?_eq_some_iff.mp hc
  rw [List.cons_append] at hskip ⊢
  rw [takeValue?.eq_def]
  simp only [skipSpaces_lineBreak, hskip]
  split
  · rename_i heq
    exact absurd (List.cons.inj heq).1 hclose
  · rfl

theorem takeValue?_brace (fuel depth : ℕ) (name : String) (rest : List Char) :
    (takeValue? (fuel + 1) ('\x7b' :: ((lineBreak depth).toList ++ ((quote name).toList ++ rest))) :
      Option (Json β × List Char)) = takeMembers? fuel true [] ((quote name).toList ++ rest) := by
  have hskip := skipSpaces_of_opensValue (opensValue_quote name) rest
  rw [toList_quote, List.cons_append] at hskip ⊢
  rw [takeValue?.eq_def]
  simp only [skipSpaces_lineBreak, hskip]
  rfl

theorem rereads_of_takeValue? {depth : ℕ} {j : Json α}
    (h : ∀ fuel rest, (indented depth j).toList.length ≤ fuel + 1 → EndsNumber rest →
      takeValue? (fuel + 1) ((indented depth j).toList ++ rest) =
        some ((reread j : Json β), rest)) :
    Rereads β depth j := by
  intro fuel rest hf hr
  cases fuel with
  | zero =>
    obtain ⟨c, hc, -⟩ := opensValue_indented depth j
    rw [List.length_eq_zero_iff.mp (Nat.le_zero.mp hf)] at hc
    contradiction
  | succ fuel => exact h fuel rest hf hr

theorem rereads_array {depth : ℕ} {items : List (Json α)}
    (h : ∀ v ∈ items, Rereads β (depth + 1) v) : Rereads β depth (.array items) := by
  refine rereads_of_takeValue? fun fuel rest hf _ => ?_
  rw [reread, rereadItems_eq]
  cases items with
  | nil =>
    rw [indented]
    rfl
  | cons v r =>
    rw [toList_array] at hf ⊢
    simp only [List.length_cons, List.length_append] at hf
    simp only [List.cons_append, List.append_assoc]
    rw [takeValue?_bracket _ _ (opensValue_indented ..), takeItems?_afterItem h _ _ (by omega)]
    rfl

theorem rereads_object {depth : ℕ} {members : List (String × Json α)}
    (h : ∀ m ∈ members, Rereads β (depth + 1) m.2) : Rereads β depth (.object members) := by
  refine rereads_of_takeValue? fun fuel rest hf _ => ?_
  rw [reread, rereadMembers_eq]
  cases members with
  | nil =>
    rw [indented]
    rfl
  | cons m r =>
    rw [toList_object] at hf ⊢
    simp only [List.length_cons, List.length_append] at hf
    simp only [List.cons_append, List.append_assoc]
    rw [takeValue?_brace, takeMembers?_afterMember h _ _ (by omega)]
    rfl

theorem rereads_plain {depth : ℕ} {j : Json α} {text : String} (htext : indented depth j = text)
    (h : ∀ fuel rest, EndsNumber rest →
      takeValue? (fuel + 1) (text.toList ++ rest) = some ((reread j : Json β), rest)) :
    Rereads β depth j :=
  rereads_of_takeValue? fun fuel rest _ hr => htext ▸ h fuel rest hr

mutual

/-- Every document is read up to its last character. -/
theorem rereads (depth : ℕ) : ∀ j : Json α, Rereads β depth j
  | .null => rereads_plain (by rw [indented]) fun fuel rest _ => by
    rw [reread]
    exact takeValue?_null fuel rest
  | .unreadable => rereads_plain (by rw [indented]) fun fuel rest _ => by
    rw [reread]
    exact takeValue?_null fuel rest
  | .bool b => rereads_plain (by rw [indented]) fun fuel rest _ => by
    rw [reread]
    exact takeValue?_bool b fuel rest
  | .integer n => rereads_plain (by rw [indented]) fun fuel rest hr => by
    rw [reread]
    exact takeValue?_int n fuel hr
  | .real x => rereads_plain (by rw [indented]) fun fuel rest hr => by
    rw [reread]
    exact takeValue?_numberText x fuel hr
  | .string s => rereads_plain (by rw [indented]) fun fuel rest _ => by
    rw [reread]
    exact takeValue?_quote s fuel rest
  | .array items => rereads_array (rereads_items (depth + 1) items)
  | .object members => rereads_object (rereads_members (depth + 1) members)

theorem rereads_items (depth : ℕ) : ∀ items : List (Json α), ∀ v ∈ items, Rereads β depth v
  | [] => by simp
  | v :: r => List.forall_mem_cons.mpr ⟨rereads depth v, rereads_items depth r⟩

theorem rereads_members (depth : ℕ) :
    ∀ members : List (String × Json α), ∀ m ∈ members, Rereads β depth m.2
  | [] => by simp
  | (_, v) :: r => List.forall_mem_cons.mpr ⟨rereads depth v, rereads_members depth r⟩

end

/-- What is written is read back, up to the way that numbers take through their text. -/
theorem parse?_indented (j : Json α) : parse? (j.indented 0) = some (j.reread : Json β) := by
  have hskip := skipSpaces_of_opensValue (opensValue_indented 0 j) []
  have hread := rereads (β := β) 0 j ((j.indented 0).toList.length + 1) [] (Nat.le_succ _) endsNumber_nil
  rw [List.append_nil] at hskip hread
  rw [parse?, hskip]
  simp only [hread]
  rfl

end Reread

end GeoRaster.Json
