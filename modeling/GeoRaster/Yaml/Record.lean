import GeoRaster.Decimal.Basic
import GeoRaster.Scalar
import GeoRaster.Yaml.Document

namespace GeoRaster.Yaml

variable {τ : Type}

/-- Reads parts of a document. The state is the number of references that may still be followed. -/
abbrev Reading (τ : Type) :=
  ReaderT Document (StateT Nat Option) τ

/-- Reads a whole document, in which a hundred references may be followed for each thing written. -/
def Document.decode? (d : Document) (decode : Node → Reading τ) : Option τ :=
  (((decode d.root).run d).run (100 * d.root.size)).map Prod.fst

namespace Node

def follow : Node → Reading Node
  | .reference label => do
    match ← get, (← read).target? label with
    | left + 1, some v => do
      set left
      return v
    | _, _ => failure
  | v => return v

def text (v : Node) : Reading String := do
  match ← v.follow with
  | .scalar s _ _ => return s
  | _ => failure

def standardTag (type : String) : String :=
  "tag:yaml.org,2002:" ++ type

def isNullWord (s : String) : Bool :=
  ["~", "null", "Null", "NULL"].contains s

/-- Does the node stand for the absence of a value? With the tag for that it may be nothing else,
and with another tag it is a value. -/
def isNull? : Node → Option Bool
  | .scalar s .plain none => some (s.isEmpty || isNullWord s)
  | .scalar s .plain (some tag) =>
    if tag != standardTag "null" then some false
    else if isNullWord s then some true
    else none
  | _ => some false

def nullable (decode : Node → Reading τ) (v : Node) : Reading (Option τ) := do
  let v ← v.follow
  match v.isNull? with
  | some true => return none
  | some false => some <$> decode v
  | none => failure

def numeral (type : String) (v : Node) : Reading String := do
  match ← v.follow with
  | .scalar s .plain _ => return s
  | .scalar s .literal (some tag) => if tag == standardTag type then return s else failure
  | _ => failure

def dropPlus? : List Char → Option (List Char)
  | '+' :: c :: r => if c = '+' ∨ c = '-' then none else some (c :: r)
  | '+' :: [] => some []
  | cs => some cs

def realOfText? {α : Type} [Scalar α] (s : String) : Option α := do
  let cs ← dropPlus? s.toList
  if [".inf", ".Inf", ".INF"].contains (String.ofList cs) then some Scalar.infinity
  else if ["-.inf", "-.Inf", "-.INF"].contains s then some (-Scalar.infinity)
  else if [".nan", ".NaN", ".NAN"].contains s then some Scalar.nan
  else (Scalar.read? cs).filter Scalar.isFinite

def real {α : Type} [Scalar α] (v : Node) : Reading α := do
  match realOfText? (← v.numeral "float") with
  | some x => return x
  | none => failure

def digit? (base : Nat) (c : Char) : Option Nat :=
  let n :=
    if c.isDigit then c.toNat - '0'.toNat
    else if 'a' ≤ c ∧ c ≤ 'f' then c.toNat - 'a'.toNat + 10
    else if 'A' ≤ c ∧ c ≤ 'F' then c.toNat - 'A'.toNat + 10
    else base
  if n < base then some n else none

def ofDigits? (base : Nat) (cs : List Char) : Option Nat :=
  if cs.isEmpty then none
  else (cs.mapM (digit? base)).map (·.foldl (fun n d => base * n + d) 0)

/-- A count of at most `2 ^ 64 - 1`, after `0x`, `0o` or `0b` in another base. Digits that start
with a further zero are a text. -/
def countOfText? (s : String) : Option Nat := do
  let cs ← dropPlus? s.toList
  let n ←
    match cs with
    | '0' :: 'x' :: ds => ofDigits? 16 ds
    | '0' :: 'o' :: ds => ofDigits? 8 ds
    | '0' :: 'b' :: ds => ofDigits? 2 ds
    | '0' :: _ :: _ => none
    | ds => ofDigits? 10 ds
  if n < UInt64.size then some n else none

def count (v : Node) : Reading Nat := do
  match countOfText? (← v.numeral "int") with
  | some n => return n
  | none => failure

def list (decode : Node → Reading τ) (v : Node) : Reading (List τ) := do
  match ← v.follow with
  | .sequence items => items.mapM decode
  | .scalar "" .plain _ => return []
  | _ => failure

def uniqueValue? (entries : List (String × Node)) (name : String) : Option (Option Node) :=
  match entries.filter (·.1 == name) with
  | [] => some none
  | [(_, v)] => some (some v)
  | _ => none

def fields (names : List String) (v : Node) : Reading (List (Option Node)) := do
  match ← v.follow with
  | .mapping entries => do
    let entries ← entries.mapM fun (k, v) => do return (← k.text, v)
    match names.mapM (uniqueValue? entries) with
    | some found => return found
    | none => failure
  | _ => failure

def required (fields : List (Option Node)) (i : Nat) (decode : Node → Reading τ) : Reading τ :=
  match (fields[i]?).join with
  | some v => decode v
  | none => failure

def defaulted (fields : List (Option Node)) (i : Nat) (value : τ) (decode : Node → Reading τ) :
    Reading τ :=
  match (fields[i]?).join with
  | some v => decode v
  | none => return value

def optional (fields : List (Option Node)) (i : Nat) (decode : Node → Reading τ) :
    Reading (Option τ) :=
  defaulted fields i none (nullable decode)

end Node

end GeoRaster.Yaml
