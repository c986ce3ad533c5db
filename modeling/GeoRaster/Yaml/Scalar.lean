import GeoRaster.Json.Parser
import GeoRaster.Yaml.Place

namespace GeoRaster.Yaml

/-- White space met inside a scalar, the last character first. Over the end of a line only the ends
of further, empty lines count. -/
inductive Gap where
  | blanks (cs : List Char)
  | breaks (first : Option Char) (more : List Char)

namespace Gap

def none : Gap := .blanks []

def isNone : Gap → Bool
  | .blanks [] => true
  | _ => false

def crossesLine : Gap → Bool
  | .blanks _ => false
  | .breaks _ _ => true

def addBlank (c : Char) : Gap → Gap
  | .blanks cs => .blanks (c :: cs)
  | g => g

def addBreak (c : Char) : Gap → Gap
  | .blanks _ => .breaks (some c) []
  | .breaks first more => .breaks first (c :: more)

def onto (acc : List Char) : Gap → List Char
  | .blanks cs => cs ++ acc
  | .breaks (some '\n') [] => ' ' :: acc
  | .breaks (some '\n') more => more ++ acc
  | .breaks (some c) more => more ++ c :: acc
  | .breaks Option.none more => more ++ acc

end Gap

def isFlowIndicator (c : Char) : Bool :=
  c == ',' || c == '[' || c == ']' || c == '\x7b' || c == '\x7d'

def isIndicator (c : Char) : Bool :=
  isFlowIndicator c || "-?:#&*!|>%@\"".toList.contains c || c == '\x27' || c == '\x60'

def startsPlain (flow : Bool) : List Placed → Bool
  | [] => false
  | p :: r =>
    if p.char == '-' then !endsWord r
    else if p.char == '?' || p.char == ':' then !flow && !endsWord r
    else !isIndicator p.char && !isBlank p.char && !isBreak p.char

/-- A plain scalar ends before a colon with white space after it, before a comment, before the
indicators of a flow collection it is in, and before a line that parts documents or belongs to an
outer block. Gives also whether a line has ended behind its last character. -/
def takePlain? (flow : Bool) (least : Nat) :
    List Char → Gap → List Placed → Option (List Char × Bool × List Placed)
  | acc, gap, [] => some (acc, gap.crossesLine, [])
  | acc, gap, p :: r =>
    let c := p.char
    let ended := some (acc, gap.crossesLine, p :: r)
    if isBreak c then takePlain? flow least acc (gap.addBreak c) r
    else if isBlank c then
      if c == '\t' && gap.crossesLine && p.column < least then none
      else takePlain? flow least acc (gap.addBlank c) r
    else if c == '#' && !gap.isNone then ended
    else if isMarker (p :: r) || (!flow && gap.crossesLine && p.column < least) then ended
    else if flow && c == ':' && r.head?.any (fun n => isFlowIndicator n.char || n.char == '?') then
      none
    else if (c == ':' && endsWord r) || (flow && isFlowIndicator c) then ended
    else takePlain? flow least (c :: gap.onto acc) .none r

def takeSingle? : List Char → Gap → List Placed → Option (List Char × List Placed)
  | _, _, [] => none
  | acc, gap, p :: r =>
    let c := p.char
    if isBreak c then takeSingle? acc (gap.addBreak c) r
    else if isBlank c then takeSingle? acc (gap.addBlank c) r
    else if isMarker (p :: r) then none
    else if c != '\x27' then takeSingle? (c :: gap.onto acc) .none r
    else
      match r with
      | q :: r =>
        if q.char == '\x27' then takeSingle? ('\x27' :: gap.onto acc) .none r
        else some (gap.onto acc, q :: r)
      | [] => some (gap.onto acc, [])

def namedEscape? : Char → Option Char
  | '0' => some '\x00'
  | 'a' => some '\x07'
  | 'b' => some '\x08'
  | 't' | '\t' => some '\t'
  | 'n' => some '\n'
  | 'v' => some '\x0b'
  | 'f' => some '\x0c'
  | 'r' => some '\r'
  | 'e' => some '\x1b'
  | 'N' => some '\u0085'
  | '_' => some '\u00a0'
  | 'L' => some '\u2028'
  | 'P' => some '\u2029'
  | c => if " \"/\\".toList.contains c then some c else none

def codeLength? : Char → Option Nat
  | 'x' => some 2
  | 'u' => some 4
  | 'U' => some 8
  | _ => none

def takeCode? (length : Nat) (s : List Placed) : Option (Char × List Placed) := do
  let ds ← (s.take length).mapM fun p => Json.hexDigit? p.char
  let n := ds.foldl (fun n d => 16 * n + d) 0
  if ds.length = length ∧ n.isValidChar then some (Char.ofNat n, s.drop length) else none

/-- What follows the opening double quote. A backslash at the end of a line joins the lines. -/
def takeDouble? : Nat → List Char → Gap → List Placed → Option (List Char × List Placed)
  | 0, _, _, _ => none
  | _ + 1, _, _, [] => none
  | fuel + 1, acc, gap, p :: r =>
    let c := p.char
    if isBreak c then takeDouble? fuel acc (gap.addBreak c) r
    else if isBlank c then takeDouble? fuel acc (gap.addBlank c) r
    else if isMarker (p :: r) then none
    else
      let acc := gap.onto acc
      if c == '"' then some (acc, r)
      else if c != '\\' then takeDouble? fuel (c :: acc) .none r
      else
        match r with
        | [] => none
        | e :: r =>
          if isBreak e.char then takeDouble? fuel acc (.breaks none []) r
          else
            match codeLength? e.char with
            | some length => do
              let (c, r) ← takeCode? length r
              takeDouble? fuel (c :: acc) .none r
            | none => do takeDouble? fuel ((← namedEscape? e.char) :: acc) .none r

inductive Chomping where
  | strip
  | clip
  | keep

def takeChomping (s : List Placed) : Chomping × List Placed :=
  if startsWith '+' s then (.keep, s.drop 1)
  else if startsWith '-' s then (.strip, s.drop 1)
  else (.clip, s)

def takeIndentation (s : List Placed) : Option Nat × List Placed :=
  match s with
  | p :: r => if p.char.isDigit then (some (p.char.toNat - '0'.toNat), r) else (none, p :: r)
  | [] => (none, [])

/-- The first line of a block scalar: indentation, if given, and chomping in either order. -/
def takeBlockHeader? (s : List Placed) : Option (Option Nat × Chomping × List Placed) := do
  let (indentation, chomping, s) :=
    if startsWithAny ['+', '-'] s then
      let (chomping, s) := takeChomping s
      let (indentation, s) := takeIndentation s
      (indentation, chomping, s)
    else
      let (indentation, s) := takeIndentation s
      (indentation, takeChomping s)
  if indentation = some 0 then none else some (indentation, chomping, ← endLine? s)

/-- Drops the indentation of lines, up to a column if one is given, and blank lines. Gives the
furthest column, the ends of the blank lines and the rest. -/
def takeBlankLines? (limit : Option Nat) :
    Nat → List Char → List Placed → Option (Nat × List Char × List Placed)
  | most, breaks, [] => some (most, breaks, [])
  | most, breaks, p :: r =>
    let indents := limit.all (p.column < ·)
    if indents && p.char == ' ' then takeBlankLines? limit (max most (p.column + 1)) breaks r
    else if indents && p.char == '\t' then none
    else if isBreak p.char then takeBlankLines? limit most (p.char :: breaks) r
    else some (most, breaks, p :: r)

def takeBlockLines? (folded : Bool) (indent : Nat) (chomping : Chomping) :
    Nat → (acc : List Char) → (lineEnd : Option Char) → (indented : Bool) →
      (breaks : List Char) → List Placed → Option (List Char × List Placed)
  | 0, _, _, _, _, _ => none
  | fuel + 1, acc, lineEnd, indented, breaks, s =>
    let ended :=
      match chomping with
      | .strip => acc
      | .clip => lineEnd.toList ++ acc
      | .keep => breaks ++ lineEnd.toList ++ acc
    match s with
    | [] => some (ended, [])
    | p :: _ =>
      if p.column ≠ indent then some (ended, s)
      else
        let starts := isBlank p.char
        let joint :=
          if folded && lineEnd == some '\n' && !indented && !starts then
            if breaks.isEmpty then [' '] else []
          else lineEnd.toList
        let line := (s.takeWhile (!isBreak ·.char)).map Placed.char
        let acc := line.reverse ++ (breaks ++ (joint ++ acc))
        match skipLine s with
        | [] => some (acc, [])
        | b :: r => do
          let (_, breaks, r) ← takeBlankLines? (some indent) 0 [] r
          takeBlockLines? folded indent chomping fuel acc (some b.char) starts breaks r

/-- What follows the indicator of a block scalar inside a block whose content starts at column
`least`. Without given indentation its lines are indented as the first of them. -/
def takeBlockScalar? (folded : Bool) (least : Nat) (s : List Placed) :
    Option (List Char × List Placed) := do
  let (given, chomping, s) ← takeBlockHeader? s
  let fixed := given.map (least - 1 + ·)
  let (most, breaks, s) ← takeBlankLines? fixed 0 [] s
  let indent := fixed.getD (max (max most least) 1)
  takeBlockLines? folded indent chomping (s.length + 1) [] none false breaks s

end GeoRaster.Yaml
