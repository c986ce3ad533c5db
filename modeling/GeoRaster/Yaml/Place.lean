namespace GeoRaster.Yaml

structure Placed where
  char : Char
  line : Nat
  column : Nat

def isBlank (c : Char) : Bool :=
  c == ' ' || c == '\t'

def isBreak (c : Char) : Bool :=
  c == '\n' || c == '\u2028' || c == '\u2029'

def isPrintable (c : Char) : Bool :=
  let n := c.toNat
  n == 0x9 || n == 0xa || n == 0xd || (0x20 ≤ n && n ≤ 0x7e) || n == 0x85 ||
    (0xa0 ≤ n && n ≤ 0xfffd) || 0x10000 ≤ n

/-- Every line ends in one character. -/
def oneBreak : List Char → List Char
  | [] => []
  | '\r' :: '\n' :: r => '\n' :: oneBreak r
  | c :: r => (if c == '\r' || c == '\u0085' then '\n' else c) :: oneBreak r

def place (line column : Nat) : List Char → List Placed
  | [] => []
  | c :: r =>
    ⟨c, line, column⟩ :: (if isBreak c then place (line + 1) 0 r else place line (column + 1) r)

def startsWith (c : Char) (s : List Placed) : Bool :=
  s.head?.any (·.char == c)

def startsWithAny (cs : List Char) (s : List Placed) : Bool :=
  s.head?.any fun p => cs.contains p.char

def endsWord (s : List Placed) : Bool :=
  s.head?.all fun p => isBlank p.char || isBreak p.char

def skipBlanks (s : List Placed) : List Placed :=
  s.dropWhile (isBlank ·.char)

def skipLine (s : List Placed) : List Placed :=
  s.dropWhile (!isBreak ·.char)

def endLine? (s : List Placed) : Option (List Placed) :=
  let s := skipBlanks s
  match if startsWith '#' s then skipLine s else s with
  | [] => some []
  | p :: r => if isBreak p.char then some r else none

/-- Drops white space, comments and ends of lines, and says whether a line has ended. Tabs are white
space only where no indentation can stand: on the first line if `tabs`, on further lines if `flow`.
A byte order mark may start a line. -/
def skipGap (flow : Bool) : (crossed comment tabs : Bool) → List Placed → Bool × List Placed
  | crossed, _, _, [] => (crossed, [])
  | crossed, comment, tabs, p :: r =>
    if isBreak p.char then skipGap flow true false flow r
    else if comment || p.char == ' ' || (tabs && p.char == '\t') ||
        (p.column == 0 && p.char == '\ufeff') then
      skipGap flow crossed comment tabs r
    else if p.char == '#' then skipGap flow crossed true tabs r
    else (crossed, p :: r)

def isMarkerOf (c : Char) : List Placed → Bool
  | a :: b :: d :: r =>
    a.column == 0 && a.char == c && b.char == c && d.char == c && endsWord r
  | _ => false

def isMarker (s : List Placed) : Bool :=
  isMarkerOf '-' s || isMarkerOf '.' s

def isWordChar (c : Char) : Bool :=
  c.isAlphanum || c == '_' || c == '-'

def takeWord (s : List Placed) : List Char × List Placed :=
  ((s.takeWhile (isWordChar ·.char)).map Placed.char, s.dropWhile (isWordChar ·.char))

end GeoRaster.Yaml
