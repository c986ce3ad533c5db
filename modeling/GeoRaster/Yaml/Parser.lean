import GeoRaster.Yaml.Lexer

namespace GeoRaster.Yaml

structure Parsing where
  rest : List Token
  /-- What the handles of tags stand for. -/
  handles : List (String × String)
  /-- The names of nodes, each with its latest label. -/
  names : List (String × Nat)
  /-- The nodes that have labels, in the order in which they start. -/
  labelled : Array (Nat × Node)

namespace Parsing

def goTo (s : Parsing) (rest : List Token) : Parsing :=
  { s with rest := rest }

/-- A node that starts here is given a label: the number of names known before. A name that comes
again is still one name, so a label may be given twice. -/
def declare (s : Parsing) (anchor : Option String) : Parsing :=
  match anchor with
  | none => s
  | some name =>
    { s with
      names := (name, s.names.length) :: s.names.filter (·.1 != name)
      labelled := s.labelled.push (s.names.length, .empty) }

def define (s : Parsing) (anchor : Option String) (index : Nat) (v : Node) : Parsing :=
  if anchor.isSome then
    { s with labelled := s.labelled.modify index fun (label, _) => (label, v) }
  else s

def properties (s : Parsing) : Option String × Option WrittenTag × Parsing :=
  match s.rest with
  | .anchor name :: .tag t :: r => (some name, some t, s.goTo r)
  | .tag t :: .anchor name :: r => (some name, some t, s.goTo r)
  | .anchor name :: r => (some name, none, s.goTo r)
  | .tag t :: r => (none, some t, s.goTo r)
  | _ => (none, none, s)

def comma? (s : Parsing) (first : Bool) : Option Parsing :=
  if first then some s
  else
    match s.rest with
    | .comma :: r => some (s.goTo r)
    | _ => none

def isAt (s : Parsing) (ts : List Token) : Bool :=
  s.rest.head?.any ts.contains

end Parsing

mutual

/-- A node with its properties. With properties it may have nothing else. Block collections are read
only where `block`, and the items of a block sequence without its start and end only where
`indentless`. -/
def node? : Nat → (block indentless : Bool) → Parsing → Option (Node × Parsing)
  | 0, _, _, _ => none
  | fuel + 1, block, indentless, s =>
    match s.rest with
    | .reference name :: r => do some (.reference (← s.names.lookup name), s.goTo r)
    | _ => do
      let index := s.labelled.size
      let (anchor, written, s) := s.properties
      let tag ←
        match written with
        | some t => (t.resolve? s.handles).map some
        | none => some none
      let given := anchor.isSome || tag.isSome
      let (v, s) ← content? fuel block indentless tag given (s.declare anchor)
      some (v, s.define anchor index v)

def content? : Nat → (block indentless : Bool) → (tag : Option String) → (given : Bool) → Parsing →
    Option (Node × Parsing)
  | 0, _, _, _, _, _ => none
  | fuel + 1, block, indentless, tag, given, s =>
    let nothing := if given then some (.scalar "" .plain tag, s) else none
    match s.rest with
    | .scalar text style :: r => some (.scalar text style (tag.filter (· != "!")), s.goTo r)
    | .flowSequence :: r => flowItems? fuel true [] (s.goTo r)
    | .flowMapping :: r => flowEntries? fuel true [] (s.goTo r)
    | .blockSequence :: r => if block then blockItems? fuel false [] (s.goTo r) else nothing
    | .blockMapping :: r => if block then blockEntries? fuel [] (s.goTo r) else nothing
    | .item :: _ => if indentless then blockItems? fuel true [] s else nothing
    | _ => nothing

def part? : Nat → (block : Bool) → (followers : List Token) → Parsing → Option (Node × Parsing)
  | 0, _, _, _ => none
  | fuel + 1, block, followers, s =>
    if s.isAt followers then some (.empty, s) else node? fuel block block s

def keyValue? : Nat → (block : Bool) → (followers : List Token) → Parsing → Option (Node × Parsing)
  | 0, _, _, _ => none
  | fuel + 1, block, followers, s =>
    match s.rest with
    | .value :: r => part? fuel block followers (s.goTo r)
    | _ => some (.empty, s)

/-- The items of a flow sequence up to its end. A key and its value are an item; a question mark
without a key takes the piece after it for the key. -/
def flowItems? : Nat → (first : Bool) → List Node → Parsing → Option (Node × Parsing)
  | 0, _, _, _ => none
  | fuel + 1, first, acc, s =>
    match s.rest with
    | .flowSequenceEnd :: r => some (.sequence acc.reverse, s.goTo r)
    | _ => do
      let s ← s.comma? first
      match s.rest with
      | .flowSequenceEnd :: r => some (.sequence acc.reverse, s.goTo r)
      | .key :: r =>
        let (k, s) ←
          match r with
          | .value :: r => some (.empty, s.goTo r)
          | .comma :: r => some (.empty, s.goTo r)
          | .flowSequenceEnd :: r => some (.empty, s.goTo r)
          | r => node? fuel false false (s.goTo r)
        let (v, s) ← keyValue? fuel false [.comma, .flowSequenceEnd] s
        flowItems? fuel false (.mapping [(k, v)] :: acc) s
      | _ =>
        let (v, s) ← node? fuel false false s
        flowItems? fuel false (v :: acc) s

def flowEntries? : Nat → (first : Bool) → List (Node × Node) → Parsing → Option (Node × Parsing)
  | 0, _, _, _ => none
  | fuel + 1, first, acc, s =>
    match s.rest with
    | .flowMappingEnd :: r => some (.mapping acc.reverse, s.goTo r)
    | _ => do
      let s ← s.comma? first
      match s.rest with
      | .flowMappingEnd :: r => some (.mapping acc.reverse, s.goTo r)
      | .key :: r =>
        let (k, s) ← part? fuel false [.value, .comma, .flowMappingEnd] (s.goTo r)
        let (v, s) ← keyValue? fuel false [.comma, .flowMappingEnd] s
        flowEntries? fuel false ((k, v) :: acc) s
      | _ =>
        let (k, s) ← node? fuel false false s
        flowEntries? fuel false ((k, .empty) :: acc) s

/-- The items of a block sequence up to its end. Without an end of its own it ends before anything
that is no item. -/
def blockItems? : Nat → (indentless : Bool) → List Node → Parsing → Option (Node × Parsing)
  | 0, _, _, _ => none
  | fuel + 1, indentless, acc, s =>
    match s.rest with
    | .item :: r => do
      let s := s.goTo r
      let (v, s) ←
        if s.isAt [.item, .blockEnd] || (indentless && s.isAt [.key, .value]) then some (.empty, s)
        else node? fuel true false s
      blockItems? fuel indentless (v :: acc) s
    | r =>
      if indentless then some (.sequence acc.reverse, s)
      else
        match r with
        | .blockEnd :: r => some (.sequence acc.reverse, s.goTo r)
        | _ => none

def blockEntries? : Nat → List (Node × Node) → Parsing → Option (Node × Parsing)
  | 0, _, _ => none
  | fuel + 1, acc, s =>
    match s.rest with
    | .key :: r => do
      let (k, s) ← part? fuel true [.key, .value, .blockEnd] (s.goTo r)
      let (v, s) ← keyValue? fuel true [.key, .value, .blockEnd] s
      blockEntries? fuel ((k, v) :: acc) s
    | .blockEnd :: r => some (.mapping acc.reverse, s.goTo r)
    | _ => none

end

namespace Document

def takeDirectives : List Token → List Directive × List Token
  | .directive d :: r =>
    let (ds, rest) := takeDirectives r
    (d :: ds, rest)
  | ts => ([], ts)

/-- Reads pieces that make up one document. Its start must be marked after directives and if nothing
stands in it. -/
def ofTokens? (ts : List Token) : Option Document := do
  let (ds, r) := takeDirectives ts
  if !Directive.areValid ds then none
  let fuel := 4 * ts.length + 4
  let start (r : List Token) : Parsing := ⟨r, Directive.handles ds, [], #[]⟩
  let (v, s) ←
    match r with
    | .documentStart :: r =>
      if r.head?.all (· == .documentEnd) then some (.empty, start r)
      else node? fuel true false (start r)
    | r => if ds.isEmpty then node? fuel true false (start r) else none
  if s.rest.all (· == .documentEnd) then some ⟨v, s.labelled⟩ else none

def ofText? (text : String) : Option Document :=
  Token.ofText? text >>= ofTokens?

end Document

end GeoRaster.Yaml
