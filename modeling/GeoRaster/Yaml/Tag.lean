import GeoRaster.Json.Parser
import GeoRaster.Yaml.Place

namespace GeoRaster.Yaml

structure WrittenTag where
  handle : String
  suffix : String
  deriving DecidableEq

def isAddressChar (c : Char) : Bool :=
  isWordChar c || ";/?:@&=+$.!~*()".toList.contains c || c == '\x27'

def furtherOctets? (octet : Nat) : Option Nat :=
  if octet < 0x80 then some 0
  else if octet < 0xc0 then none
  else if octet < 0xe0 then some 1
  else if octet < 0xf0 then some 2
  else if octet < 0xf8 then some 3
  else none

/-- The characters of an address, the last one first, where `due` octets of a character are still to
come. Octets are written as a percent sign and two digits, and each stands for the character with
its number. The brackets and commas of flow collections count only where `brackets`. -/
def takeAddress? (brackets : Bool) :
    (due : Nat) → List Char → List Placed → Option (List Char × List Placed)
  | due, acc, [] => if due = 0 then some (acc, []) else none
  | due, acc, p :: r =>
    if p.char == '%' then
      match r with
      | a :: b :: r => do
        let octet := 16 * (← Json.hexDigit? a.char) + (← Json.hexDigit? b.char)
        let due ←
          if due = 0 then furtherOctets? octet
          else if 0x80 ≤ octet ∧ octet < 0xc0 then some (due - 1)
          else none
        takeAddress? brackets due (Char.ofNat octet :: acc) r
      | _ => none
    else if 0 < due then none
    else if isAddressChar p.char || (brackets && [',', '[', ']'].contains p.char) then
      takeAddress? brackets 0 (p.char :: acc) r
    else some (acc, p :: r)

def addressText (acc : List Char) : String :=
  String.ofList (acc.reverse.takeWhile (· ≠ '\x00'))

def takeSomeAddress? (brackets : Bool) (s : List Placed) : Option (String × List Placed) := do
  let (acc, r) ← takeAddress? brackets 0 [] s
  if acc.isEmpty then none else some (addressText acc, r)

def takeTag? (flow : Bool) (s : List Placed) : Option (WrittenTag × List Placed) := do
  let (tag, r) ←
    if startsWith '<' s then do
      let (address, r) ← takeSomeAddress? true (s.drop 1)
      if startsWith '>' r then some (WrittenTag.mk "" address, r.drop 1) else none
    else
      let (word, r) := takeWord s
      if startsWith '!' r then do
        let (suffix, r) ← takeSomeAddress? false (r.drop 1)
        some (WrittenTag.mk (String.ofList ('!' :: word ++ ['!'])) suffix, r)
      else do
        let (acc, r) ← takeAddress? false 0 word.reverse r
        let suffix := addressText acc
        some (if suffix.isEmpty then .mk "" "!" else .mk "!" suffix, r)
  if endsWord r || (flow && startsWith ',' r) then some (tag, r) else none

inductive Directive where
  | version (major minor : Nat)
  | handle (name address : String)
  deriving DecidableEq

namespace Directive

def takeNumber? (s : List Placed) : Option (Nat × List Placed) :=
  let ds := (s.takeWhile (·.char.isDigit)).map Placed.char
  if ds.isEmpty || 9 < ds.length then none
  else some (Decimal.digitsValue 0 ds, s.dropWhile (·.char.isDigit))

def takeVersion? (s : List Placed) : Option (Directive × List Placed) := do
  let (major, r) ← takeNumber? s
  if startsWith '.' r then
    let (minor, r) ← takeNumber? (r.drop 1)
    some (.version major minor, r)
  else none

def takeHandle? (s : List Placed) : Option (Directive × List Placed) := do
  if !startsWith '!' s then none
  let (word, r) := takeWord (s.drop 1)
  let closed := startsWith '!' r
  if !closed && !word.isEmpty then none
  let name := String.ofList ('!' :: word ++ if closed then ['!'] else [])
  let r := if closed then r.drop 1 else r
  if !r.head?.any (isBlank ·.char) then none
  let (address, r) ← takeSomeAddress? true (skipBlanks r)
  if endsWord r then some (.handle name address, r) else none

def take? (s : List Placed) : Option (Directive × List Placed) := do
  let (name, r) := takeWord s
  if !endsWord r then none
  let (d, r) ←
    match String.ofList name with
    | "YAML" => takeVersion? (skipBlanks r)
    | "TAG" => takeHandle? (skipBlanks r)
    | _ => none
  some (d, ← endLine? r)

def version? : Directive → Option (Nat × Nat)
  | .version major minor => some (major, minor)
  | .handle _ _ => none

def handle? : Directive → Option (String × String)
  | .version _ _ => none
  | .handle name address => some (name, address)

/-- May these directives stand before one document? The version may be named once, and each handle
defined once. -/
def areValid (ds : List Directive) : Bool :=
  let versions := ds.filterMap version?
  versions.length ≤ 1 && versions.all [(1, 1), (1, 2)].contains &&
    decide ((ds.filterMap handle?).map Prod.fst).Nodup

def standardHandles : List (String × String) :=
  [("!", "!"), ("!!", "tag:yaml.org,2002:")]

def handles (ds : List Directive) : List (String × String) :=
  ds.filterMap handle? ++ standardHandles

end Directive

def WrittenTag.resolve? (handles : List (String × String)) (t : WrittenTag) : Option String :=
  if t.handle.isEmpty then some t.suffix
  else (handles.lookup t.handle).map (· ++ t.suffix)

end GeoRaster.Yaml
