import GeoRaster.Yaml.Document
import GeoRaster.Yaml.Scalar
import GeoRaster.Yaml.Tag

namespace GeoRaster.Yaml

inductive Token where
  | directive (d : Directive)
  | documentStart
  | documentEnd
  | blockSequence
  | blockMapping
  | blockEnd
  | item
  | flowSequence
  | flowSequenceEnd
  | flowMapping
  | flowMappingEnd
  | comma
  | key
  | value
  | reference (name : String)
  | anchor (name : String)
  | tag (t : WrittenTag)
  | scalar (text : String) (style : Style)
  deriving DecidableEq

structure KeyPlace where
  /-- The number of pieces before it. -/
  index : Nat
  line : Nat
  column : Nat
  /-- Must this be a key, because nothing else can stand here? -/
  required : Bool

/-- Can the colon of this key still follow? It stands on the same line and at most 1024 characters
later. -/
def KeyPlace.isOpen (k : KeyPlace) (p : Placed) : Bool :=
  k.line == p.line && p.column ≤ k.column + 1024

structure Lexer where
  rest : List Placed
  tokens : Array Token
  /-- The columns of the open block collections, the innermost first. -/
  columns : List Nat
  /-- Where the key of the next colon may have started. -/
  key : Option KeyPlace
  /-- The same outside each of the open flow collections. -/
  outerKeys : List (Option KeyPlace)
  /-- May a key start here? -/
  keyAllowed : Bool

namespace Lexer

def ofText (cs : List Char) : Lexer :=
  ⟨place 0 0 (oneBreak cs), #[], [], none, [], true⟩

def inFlow (s : Lexer) : Bool :=
  !s.outerKeys.isEmpty

def least (s : Lexer) : Nat :=
  match s.columns with
  | column :: _ => column + 1
  | [] => 0

def emit (s : Lexer) (t : Token) (rest : List Placed) (keyAllowed : Bool) : Lexer :=
  { s with tokens := s.tokens.push t, rest := rest, keyAllowed := keyAllowed }

def skipGap (s : Lexer) : Lexer :=
  let (crossed, rest) := Yaml.skipGap s.inFlow false false (s.inFlow || !s.keyAllowed) s.rest
  { s with rest := rest, keyAllowed := s.keyAllowed || (crossed && !s.inFlow) }

/-- Opens a block collection that starts with the piece of an index, unless one is open at this
column. -/
def openBlock (s : Lexer) (t : Token) (column index : Nat) : Lexer :=
  if s.inFlow || column < s.least then s
  else { s with columns := column :: s.columns, tokens := s.tokens.insertIdxIfInBounds index t }

def closeBlocks (s : Lexer) (column : Nat) : Lexer :=
  if s.inFlow then s
  else
    let closed := s.columns.takeWhile (column ≤ ·)
    { s with
      columns := s.columns.dropWhile (column ≤ ·)
      tokens := s.tokens ++ Array.replicate closed.length Token.blockEnd }

def dropKey? (s : Lexer) : Option Lexer :=
  if s.key.any (·.required) then none else some { s with key := none }

def dropOldKeys? (s : Lexer) (p : Placed) : Option Lexer :=
  if (s.key :: s.outerKeys).any (·.any fun k => !k.isOpen p && k.required) then none
  else
    some { s with
      key := s.key.filter (·.isOpen p)
      outerKeys := s.outerKeys.map (·.filter (·.isOpen p)) }

def saveKey? (s : Lexer) (p : Placed) : Option Lexer :=
  if !s.keyAllowed then some s
  else
    s.dropKey?.map fun s =>
      { s with
        key := some ⟨s.tokens.size, p.line, p.column,
          !s.inFlow && s.columns.head? == some p.column⟩ }

def partDocuments? (s : Lexer) (t : Token) (r : List Placed) : Option Lexer := do
  let s ← (s.closeBlocks 0).dropKey?
  some (s.emit t r false)

def openFlow? (s : Lexer) (p : Placed) (t : Token) (r : List Placed) : Option Lexer := do
  let s ← s.saveKey? p
  some ({ s with outerKeys := s.key :: s.outerKeys, key := none }.emit t r true)

def closeFlow? (s : Lexer) (t : Token) (r : List Placed) : Option Lexer := do
  let s ← s.dropKey?
  match s.outerKeys with
  | key :: outer => some ({ s with key := key, outerKeys := outer }.emit t r false)
  | [] => some (s.emit t r false)

def comma? (s : Lexer) (r : List Placed) : Option Lexer := do
  let s ← s.dropKey?
  some (s.emit .comma r true)

def item? (s : Lexer) (p : Placed) (r : List Placed) : Option Lexer := do
  if !s.inFlow && !s.keyAllowed then none
  let s ← (s.openBlock .blockSequence p.column s.tokens.size).dropKey?
  some (s.emit .item r true)

def explicitKey? (s : Lexer) (p : Placed) (r : List Placed) : Option Lexer := do
  if !s.inFlow && !s.keyAllowed then none
  let s ← (s.openBlock .blockMapping p.column s.tokens.size).dropKey?
  some (s.emit .key r !s.inFlow)

/-- The colon before a value. If a key may have started, it did. -/
def value? (s : Lexer) (p : Placed) (r : List Placed) : Option Lexer :=
  match s.key with
  | some k =>
    let s := { s with tokens := s.tokens.insertIdxIfInBounds k.index .key, key := none }
    some ((s.openBlock .blockMapping k.column k.index).emit .value r false)
  | none =>
    if !s.inFlow && !s.keyAllowed then none
    else some ((s.openBlock .blockMapping p.column s.tokens.size).emit .value r !s.inFlow)

def takeName? (s : List Placed) : Option (String × List Placed) :=
  let (name, rest) := takeWord s
  let parted := endsWord rest || startsWithAny "?:,]\x7d%@\x60".toList rest
  if name.isEmpty || !parted then none else some (String.ofList name, rest)

def name? (s : Lexer) (p : Placed) (t : String → Token) (r : List Placed) : Option Lexer := do
  let s ← s.saveKey? p
  let (name, rest) ← takeName? r
  some (s.emit (t name) rest false)

def tag? (s : Lexer) (p : Placed) (r : List Placed) : Option Lexer := do
  let s ← s.saveKey? p
  let (t, rest) ← takeTag? s.inFlow r
  some (s.emit (.tag t) rest false)

def scalarOf (cs : List Char) (style : Style) : Token :=
  .scalar (String.ofList cs.reverse) style

def quoted? (s : Lexer) (p : Placed) (r : List Placed) : Option Lexer := do
  let s ← s.saveKey? p
  let (cs, rest) ←
    if p.char == '"' then takeDouble? (r.length + 1) [] .none r else takeSingle? [] .none r
  some (s.emit (scalarOf cs .quoted) rest false)

def plain? (s : Lexer) (p : Placed) : Option Lexer := do
  if !startsPlain s.inFlow s.rest then none
  let s ← s.saveKey? p
  let (cs, crossed, rest) ← takePlain? s.inFlow s.least [] .none s.rest
  some (s.emit (scalarOf cs .plain) rest crossed)

def block? (s : Lexer) (folded : Bool) (r : List Placed) : Option Lexer := do
  if s.inFlow then none
  let s ← s.dropKey?
  let (cs, rest) ← takeBlockScalar? folded s.least r
  some (s.emit (scalarOf cs (if folded then .folded else .literal)) rest true)

def take? (s : Lexer) (p : Placed) (r : List Placed) : Option Lexer :=
  let alone := endsWord r
  if p.column == 0 && p.char == '%' then do
    let (d, rest) ← Directive.take? r
    s.partDocuments? (.directive d) rest
  else if isMarkerOf '-' s.rest then s.partDocuments? .documentStart (s.rest.drop 3)
  else if isMarkerOf '.' s.rest then s.partDocuments? .documentEnd (s.rest.drop 3)
  else
    match p.char with
    | '[' => s.openFlow? p .flowSequence r
    | '\x7b' => s.openFlow? p .flowMapping r
    | ']' => s.closeFlow? .flowSequenceEnd r
    | '\x7d' => s.closeFlow? .flowMappingEnd r
    | ',' => s.comma? r
    | '-' => if alone then s.item? p r else s.plain? p
    | '?' => if s.inFlow || alone then s.explicitKey? p r else s.plain? p
    | ':' => if s.inFlow || alone then s.value? p r else s.plain? p
    | '*' => s.name? p .reference r
    | '&' => s.name? p .anchor r
    | '!' => s.tag? p r
    | '"' => s.quoted? p r
    | '\x27' => s.quoted? p r
    | '|' => s.block? false r
    | '>' => s.block? true r
    | _ => s.plain? p

/-- Reads all pieces. Each takes a character at least, which bounds their number. -/
def run? : Nat → Lexer → Option (List Token)
  | 0, _ => none
  | fuel + 1, s =>
    let s := s.skipGap
    match s.rest with
    | [] => (s.closeBlocks 0).dropKey?.map (·.tokens.toList)
    | p :: r => do
      let s ← s.dropOldKeys? p
      run? fuel (← (s.closeBlocks (p.column + 1)).take? p r)

end Lexer

def Token.ofText? (text : String) : Option (List Token) :=
  let cs := text.toList
  if cs.all isPrintable then Lexer.run? (cs.length + 1) (.ofText cs) else none

end GeoRaster.Yaml
