import GeoRaster.Decimal.Layout

namespace GeoRaster

/-- A document over numbers of type `α`. The members of an object keep their order, and a repeated
name stays repeated. -/
inductive Json (α : Type) where
  | null
  | bool (b : Bool)
  | integer (n : Int)
  | real (x : α)
  | string (s : String)
  | array (items : List (Json α))
  | object (members : List (String × Json α))
  /-- Well written but without value: a number out of range, or half of a surrogate pair. -/
  | unreadable
  deriving Inhabited

namespace Json

variable {α : Type}

def member? (j : Json α) (name : String) : Option (Json α) :=
  match j with
  | .object members => (members.find? (·.1 == name)).map (·.2)
  | _ => none

def ofOption {τ : Type} (encode : τ → Json α) : Option τ → Json α
  | some x => encode x
  | none => .null

def hexByte (n : Nat) : List Char :=
  [Nat.digitChar (n / 16 % 16), Nat.digitChar (n % 16)]

def escapeChar (c : Char) : List Char :=
  match c with
  | '"' => ['\\', '"']
  | '\\' => ['\\', '\\']
  | '\n' => ['\\', 'n']
  | '\r' => ['\\', 'r']
  | '\t' => ['\\', 't']
  | '\x08' => ['\\', 'b']
  | '\x0c' => ['\\', 'f']
  | c => if c.toNat < 0x20 then '\\' :: 'u' :: '0' :: '0' :: hexByte c.toNat else [c]

def quote (s : String) : String :=
  if s.toList.any fun c => c.toNat < 0x20 || c == '"' || c == '\\' then
    String.ofList ('"' :: s.toList.flatMap escapeChar ++ ['"'])
  else "\"" ++ s ++ "\""

def numberText [ShortestText α] (x : α) : String :=
  match ShortestText.written x with
  | .finite d => Decimal.Layout.document.write (.finite d)
  | _ => "null"

mutual

def compactOnto [ShortestText α] (out : String) : Json α → String
  | .null | .unreadable => out ++ "null"
  | .bool b => out ++ (if b then "true" else "false")
  | .integer n => out ++ toString n
  | .real x => out ++ numberText x
  | .string s => out ++ quote s
  | .array items => compactItems (out ++ "[") true items ++ "]"
  | .object members => compactMembers (out ++ "\x7b") true members ++ "\x7d"

def compactItems [ShortestText α] (out : String) (first : Bool) : List (Json α) → String
  | [] => out
  | v :: r => compactItems (compactOnto (if first then out else out ++ ",") v) false r

def compactMembers [ShortestText α] (out : String) (first : Bool) :
    List (String × Json α) → String
  | [] => out
  | (name, v) :: r =>
    let out := (if first then out else out ++ ",") ++ quote name ++ ":"
    compactMembers (compactOnto out v) false r

end

def compact [ShortestText α] (j : Json α) : String :=
  compactOnto "" j

def lineBreak (depth : Nat) : String :=
  "\n" ++ String.ofList (List.replicate (2 * depth) ' ')

mutual

def indented [ShortestText α] (depth : Nat) : Json α → String
  | .array [] => "[]"
  | .object [] => "\x7b\x7d"
  | .array items =>
    "[" ++ ",".intercalate (indentedItems (depth + 1) items) ++ lineBreak depth ++ "]"
  | .object members =>
    "\x7b" ++ ",".intercalate (indentedMembers (depth + 1) members) ++ lineBreak depth ++ "\x7d"
  | .null | .unreadable => "null"
  | .bool b => if b then "true" else "false"
  | .integer n => toString n
  | .real x => numberText x
  | .string s => quote s

def indentedItems [ShortestText α] (depth : Nat) : List (Json α) → List String
  | [] => []
  | v :: r => (lineBreak depth ++ indented depth v) :: indentedItems depth r

def indentedMembers [ShortestText α] (depth : Nat) : List (String × Json α) → List String
  | [] => []
  | (name, v) :: r =>
    (lineBreak depth ++ quote name ++ ": " ++ indented depth v) :: indentedMembers depth r

end

end Json

end GeoRaster
