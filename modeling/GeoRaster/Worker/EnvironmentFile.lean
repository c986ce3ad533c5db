import GeoRaster.Text.Alphanumeric
import GeoRaster.Text.Basic

namespace GeoRaster.EnvironmentFile

/-- Where a character of a file stands: outside quotation marks, there behind white space, between
single or double ones, or behind a backslash in one of these places. -/
inductive Place where
  | bare
  | blank
  | bareEscape
  | single
  | singleEscape
  | double
  | doubleEscape
  deriving DecidableEq

def Place.next? (p : Place) (c : Char) : Option Place :=
  match p with
  | .bareEscape => some .bare
  | .single => some (if c = '\\' then .singleEscape else if c = '\x27' then .bare else .single)
  | .singleEscape => some .single
  | .double => some (if c = '\\' then .doubleEscape else if c = '"' then .bare else .double)
  | .doubleEscape => some .double
  | _ =>
    if c = '\\' then some .bareEscape
    else if c = '"' then some .double
    else if c = '\x27' then some .single
    else if p = .blank then if c = '#' then none else some .bare
    else some (if Text.isBlank c && c ≠ '\n' && c ≠ '\r' then .blank else .bare)

def scanLine (p : Place) : List Char → Option Place × List Char
  | [] => (some p, [])
  | c :: r =>
    match p.next? c with
    | none => (none, [])
    | some q =>
      let (place, kept) := scanLine q r
      (place, c :: kept)

/-- Joins lines into statements. A statement that never ends is dropped. -/
def joinLines : (p : Place) → (begun : List Char) → List (List Char) → List (List Char)
  | _, _, [] => []
  | p, begun, line :: rest =>
    let text := begun ++ line
    if (text.dropWhile Text.isBlank).head? = some '#' then joinLines .bare [] rest
    else
      match scanLine p line with
      | (none, kept) => (begun ++ kept) :: joinLines .bare [] rest
      | (some .bare, _) => text :: joinLines .bare [] rest
      | (some p, _) => joinLines p text rest

def lines : List UInt8 → List (List UInt8)
  | [] => []
  | b :: r =>
    if b = 10 then [b] :: lines r
    else
      match lines r with
      | line :: rest => (b :: line) :: rest
      | [] => [[b]]

def dropMark (bytes : List UInt8) : List UInt8 :=
  if [0xef, 0xbb, 0xbf].isPrefixOf bytes then bytes.drop 3 else bytes

def textLines (file : ByteArray) : List (List Char) :=
  let texts := (lines (dropMark file.data.toList)).map fun line =>
    String.fromUTF8? ⟨line.toArray⟩
  (texts.takeWhile Option.isSome).map fun text => (text.getD "").toList

def statements (file : ByteArray) : List (List Char) :=
  joinLines .bare [] (textLines file)

inductive Part where
  /-- The value itself, between double quotation marks or outside. -/
  | text (quoted : Bool)
  | escape (quoted : Bool)
  | single
  | name (quoted : Bool) (cs : List Char)
  | braced (quoted : Bool) (cs : List Char)
  /-- White space behind the value. -/
  | ended

def escaped? (c : Char) : Option Char :=
  if c = 'n' then some '\n'
  else if ['\\', '\x27', '"', '$', ' '].contains c then some c
  else none

/-- Puts the value of a variable before the characters so far, which are listed backwards. A
variable that is not set has an empty value. -/
def substitute (lookup : String → Option String) (name acc : List Char) : List Char :=
  ((lookup (String.ofList name.reverse)).getD "").toList.reverse ++ acc

/-- The value that is written, where `acc` lists its characters so far backwards. A name behind a
dollar sign ends before any other character, and that one belongs to the value whatever it is. -/
def value? (lookup : String → Option String) : Part → (acc : List Char) → List Char →
    Option (List Char)
  | .text false, acc, [] => some acc.reverse
  | .escape false, acc, [] => some acc.reverse
  | .name false name, acc, [] => some (substitute lookup name acc).reverse
  | .ended, acc, [] => some acc.reverse
  | _, _, [] => none
  | .ended, acc, c :: r =>
    if c = ' ' ∨ c = '\t' then value? lookup .ended acc r
    else if c = '#' then some acc.reverse
    else none
  | .escape quoted, acc, c :: r => do
    value? lookup (.text quoted) ((← escaped? c) :: acc) r
  | .single, acc, c :: r =>
    if c = '\x27' then value? lookup (.text false) acc r else value? lookup .single (c :: acc) r
  | .name quoted name, acc, c :: r =>
    if Text.isAlphanumeric c then value? lookup (.name quoted (c :: name)) acc r
    else if c = '\x7b' ∧ name = [] then value? lookup (.braced quoted []) acc r
    else
      let acc := substitute lookup name acc
      if c = '$' then value? lookup (.name quoted []) acc r
      else value? lookup (.text quoted) (c :: acc) r
  | .braced quoted name, acc, c :: r =>
    if c = '\x7d' then value? lookup (.text quoted) (substitute lookup name acc) r
    else value? lookup (.braced quoted (c :: name)) acc r
  | .text quoted, acc, c :: r =>
    if c = '$' then value? lookup (.name quoted []) acc r
    else if c = '\\' then value? lookup (.escape quoted) acc r
    else if c = '"' then value? lookup (.text !quoted) acc r
    else if quoted then value? lookup (.text true) (c :: acc) r
    else if c = '\x27' then value? lookup .single acc r
    else if c = ' ' ∨ c = '\t' then value? lookup .ended acc r
    else value? lookup (.text false) (c :: acc) r

def takeName? : List Char → Option (List Char × List Char)
  | [] => none
  | c :: r =>
    if c.isAlpha || c == '_' then
      let inside (c : Char) : Bool := c.isAlphanum || c == '_' || c == '.'
      some (c :: r.takeWhile inside, (r.dropWhile inside).dropWhile Text.isBlank)
    else none

def takeEquals? : List Char → Option (List Char)
  | '=' :: r => some (r.dropWhile Text.isBlank)
  | _ => none

/-- The name that is assigned to, and how its value is written. The word `export` may stand before
it, or be the name itself. -/
def target? (s : List Char) : Option (List Char × List Char) := do
  let (name, r) ← takeName? s
  match takeEquals? r with
  | some value => some (name, value)
  | none =>
    if name = "export".toList then
      let (name, r) ← takeName? r
      some (name, ← takeEquals? r)
    else none

def assignment? (lookup : String → Option String) (s : List Char) :
    Option (Option (String × String)) := do
  let s := Text.trimList s
  if s.isEmpty || s.head? = some '#' then some none
  else
    let (name, r) ← target? s
    let value ← if r.head? = some '#' then some [] else value? lookup (.text false) [] r
    some (some (String.ofList name, String.ofList value))

def run (lookup : String → Option String) : List (List Char) → String → Option String
  | [] => lookup
  | s :: rest =>
    match assignment? lookup s with
    | none => lookup
    | some none => run lookup rest
    | some (some (name, value)) =>
      run (fun n => (lookup n).or (if n = name then some value else none)) rest

def references : List Char → List String
  | [] => []
  | c :: r =>
    if c = '$' then
      let name :=
        match r with
        | '\x7b' :: r => r.takeWhile (· ≠ '\x7d')
        | r => r.takeWhile Text.isAlphanumeric
      String.ofList name :: references r
    else references r

/-- The environment with what a file adds to it. -/
def extend (lookup : String → Option String) (file : Option ByteArray) : String → Option String :=
  match file with
  | none => lookup
  | some file => run lookup (statements file)

end GeoRaster.EnvironmentFile
