import GeoRaster.Json.Basic
import GeoRaster.Scalar

namespace GeoRaster.Json

variable {α : Type}

def isSpace (c : Char) : Bool :=
  c == ' ' || c == '\t' || c == '\n' || c == '\r'

def skipSpaces (cs : List Char) : List Char :=
  cs.dropWhile isSpace

def hexDigit? (c : Char) : Option Nat :=
  if c.isDigit then some (c.toNat - '0'.toNat)
  else if 'a' ≤ c ∧ c ≤ 'f' then some (c.toNat - 'a'.toNat + 10)
  else if 'A' ≤ c ∧ c ≤ 'F' then some (c.toNat - 'A'.toNat + 10)
  else none

def takeUnit? : List Char → Option (Nat × List Char)
  | a :: b :: c :: d :: r => do
    let a ← hexDigit? a
    let b ← hexDigit? b
    let c ← hexDigit? c
    let d ← hexDigit? d
    some (((a * 16 + b) * 16 + c) * 16 + d, r)
  | _ => none

def simpleEscape? : Char → Option Char
  | '"' => some '"'
  | '\\' => some '\\'
  | '/' => some '/'
  | 'b' => some '\x08'
  | 'f' => some '\x0c'
  | 'n' => some '\n'
  | 'r' => some '\r'
  | 't' => some '\t'
  | _ => none

def isLeadingSurrogate (u : Nat) : Bool :=
  0xd800 ≤ u && u < 0xdc00

def isTrailingSurrogate (u : Nat) : Bool :=
  0xdc00 ≤ u && u < 0xe000

def ofSurrogates (u v : Nat) : Char :=
  Char.ofNat (0x10000 + (u - 0xd800) * 0x400 + (v - 0xdc00))

/-- The character of an escape, or `none` for half a surrogate pair, and the rest after the digits
that follow `\u`. -/
def takeEscapedUnit? (cs : List Char) : Option (Option Char × List Char) := do
  let (u, rest) ← takeUnit? cs
  if isLeadingSurrogate u then
    match rest with
    | '\\' :: 'u' :: more =>
      match takeUnit? more with
      | some (v, rest') =>
        if isTrailingSurrogate v then some (some (ofSurrogates u v), rest') else some (none, rest)
      | none => some (none, rest)
    | _ => some (none, rest)
  else if isTrailingSurrogate u then some (none, rest)
  else some (some (Char.ofNat u), rest)

/-- The characters up to the closing quote, listed backwards onto `acc`; `sound` turns false at half
a surrogate pair. -/
def takeString? : Nat → Bool → List Char → List Char → Option (Option String × List Char)
  | 0, _, _, _ => none
  | fuel + 1, sound, acc, cs =>
    match cs with
    | '"' :: r => some (if sound then some (String.ofList acc.reverse) else none, r)
    | '\\' :: 'u' :: r => do
      match ← takeEscapedUnit? r with
      | (some c, r') => takeString? fuel sound (c :: acc) r'
      | (none, r') => takeString? fuel false acc r'
    | '\\' :: e :: r => do takeString? fuel sound ((← simpleEscape? e) :: acc) r
    | c :: r => if c.toNat < 0x20 || c == '\\' then none else takeString? fuel sound (c :: acc) r
    | [] => none

def takeWhole? (cs : List Char) : Option (List Char × List Char) :=
  match Decimal.spanDigits cs with
  | ([], _) => none
  | (['0'], r) => some (['0'], r)
  | ('0' :: _, _) => none
  | (ds, r) => some (ds, r)

def takeFraction? : List Char → Option (List Char × List Char)
  | '.' :: r =>
    match Decimal.spanDigits r with
    | ([], _) => none
    | (ds, r') => some (ds, r')
  | r => some ([], r)

def takeExponent? : List Char → Option (Option Int × List Char)
  | [] => some (none, [])
  | c :: r =>
    if c = 'e' ∨ c = 'E' then
      let (negative, r) := Decimal.takeSign r
      match Decimal.spanDigits r with
      | ([], _) => none
      | (ds, r') =>
        let n : Int := Decimal.digitsValue 0 ds
        some (some (if negative then -n else n), r')
    else some (none, c :: r)

def ofDecimal [Scalar α] (d : Decimal) : Json α :=
  let x : α := Scalar.ofDecimal d
  if Scalar.isFinite x then .real x else .unreadable

/-- Integers are those from `-2 ^ 63` to `2 ^ 64 - 1` without point, exponent or negative zero. -/
def takeNumber? [Scalar α] (cs : List Char) : Option (Json α × List Char) := do
  let (negative, rest) :=
    match cs with
    | '-' :: r => (true, r)
    | r => (false, r)
  let (whole, rest) ← takeWhole? rest
  let (fraction, rest) ← takeFraction? rest
  let (exponent, rest) ← takeExponent? rest
  let n := Decimal.digitsValue 0 whole
  let value : Json α :=
    if fraction.isEmpty && exponent.isNone && (if negative then 0 < n && n ≤ Nat.pow 2 63 else n < UInt64.size)
    then .integer (if negative then -n else n)
    else ofDecimal ⟨negative, Decimal.digitsValue n fraction, exponent.getD 0 - fraction.length⟩
  some (value, rest)

def takeWord? (word : String) (value : Json α) (cs : List Char) : Option (Json α × List Char) :=
  let w := word.toList
  if w.isPrefixOf cs then some (value, cs.drop w.length) else none

mutual

def takeValue? [Scalar α] : Nat → List Char → Option (Json α × List Char)
  | 0, _ => none
  | fuel + 1, cs =>
    match cs with
    | '\x7b' :: r =>
      match skipSpaces r with
      | '\x7d' :: r' => some (.object [], r')
      | r' => takeMembers? fuel true [] r'
    | '[' :: r =>
      match skipSpaces r with
      | ']' :: r' => some (.array [], r')
      | r' => takeItems? fuel [] r'
    | '"' :: r =>
      match takeString? (r.length + 1) true [] r with
      | some (some s, r') => some (.string s, r')
      | some (none, r') => some (.unreadable, r')
      | none => none
    | 't' :: _ => takeWord? "true" (.bool true) cs
    | 'f' :: _ => takeWord? "false" (.bool false) cs
    | 'n' :: _ => takeWord? "null" .null cs
    | _ => takeNumber? cs

def takeItems? [Scalar α] : Nat → List (Json α) → List Char → Option (Json α × List Char)
  | 0, _, _ => none
  | fuel + 1, acc, cs => do
    let (v, r) ← takeValue? fuel cs
    match skipSpaces r with
    | ',' :: r' => takeItems? fuel (v :: acc) (skipSpaces r')
    | ']' :: r' => some (.array (v :: acc).reverse, r')
    | _ => none

/-- The members of an object from one that must come to the closing brace; a name without value
makes the object unreadable. -/
def takeMembers? [Scalar α] :
    Nat → Bool → List (String × Json α) → List Char → Option (Json α × List Char)
  | 0, _, _, _ => none
  | fuel + 1, sound, acc, cs =>
    match cs with
    | '"' :: r => do
      let (name, r) ← takeString? (r.length + 1) true [] r
      match skipSpaces r with
      | ':' :: r => do
        let (v, r) ← takeValue? fuel (skipSpaces r)
        let sound := sound && name.isSome
        let acc := (name.getD "", v) :: acc
        match skipSpaces r with
        | ',' :: r' => takeMembers? fuel sound acc (skipSpaces r')
        | '\x7d' :: r' => some (if sound then .object acc.reverse else .unreadable, r')
        | _ => none
      | _ => none
    | _ => none

end

def parse? [Scalar α] (text : String) : Option (Json α) :=
  let cs := skipSpaces text.toList
  match takeValue? (cs.length + 1) cs with
  | some (v, rest) => if (skipSpaces rest).isEmpty then some v else none
  | none => none

end GeoRaster.Json
