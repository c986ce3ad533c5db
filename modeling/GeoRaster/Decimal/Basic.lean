namespace GeoRaster

/-- The number `± coefficient · 10 ^ exponent`. Zero keeps its sign. -/
structure Decimal where
  negative : Bool
  coefficient : Nat
  exponent : Int
  deriving DecidableEq, Inhabited

namespace Decimal

def digits (n : Nat) : List Char :=
  Nat.toDigits 10 n

def toRat (d : Decimal) : Rat :=
  let magnitude : Rat :=
    if d.exponent < 0 then mkRat d.coefficient (Nat.pow 10 d.exponent.natAbs)
    else (d.coefficient * Nat.pow 10 d.exponent.natAbs : Nat)
  if d.negative then -magnitude else magnitude

/-- A number as it is written: the digits of a finite value, or a word. -/
inductive Written where
  | nan
  | infinity (negative : Bool)
  | finite (value : Decimal)
  deriving DecidableEq, Inhabited

end Decimal

class ShortestText (α : Type) where
  written : α → Decimal.Written

namespace Decimal

def digitsValue (acc : Nat) (ds : List Char) : Nat :=
  ds.foldl (fun n c => 10 * n + (c.toNat - '0'.toNat)) acc

def spanDigits (cs : List Char) : List Char × List Char :=
  (cs.takeWhile Char.isDigit, cs.dropWhile Char.isDigit)

def takeSign : List Char → Bool × List Char
  | '-' :: r => (true, r)
  | '+' :: r => (false, r)
  | r => (false, r)

def readExponent? : List Char → Option Int
  | [] => some 0
  | c :: r =>
    if c = 'e' ∨ c = 'E' then
      let (negative, ds) := takeSign r
      if ds.isEmpty ∨ !ds.all Char.isDigit then none
      else
        let n : Int := digitsValue 0 ds
        some (if negative then -n else n)
    else none

/-- Digits with an optional point, at least one digit on either side of it, and an exponent. -/
def readUnsigned? (negative : Bool) (cs : List Char) : Option Decimal := do
  let (whole, rest) := spanDigits cs
  let (fraction, rest) :=
    match rest with
    | '.' :: r => spanDigits r
    | r => ([], r)
  if whole.isEmpty && fraction.isEmpty then none
  else
    let exponent ← readExponent? rest
    some ⟨negative, digitsValue (digitsValue 0 whole) fraction, exponent - fraction.length⟩

def isWord (word : String) (cs : List Char) : Bool :=
  cs.map Char.toLower == word.toList

def Written.read? (text : List Char) : Option Written :=
  let (negative, cs) := takeSign text
  if isWord "inf" cs || isWord "infinity" cs then some (.infinity negative)
  else if isWord "nan" cs then some .nan
  else (readUnsigned? negative cs).map .finite

end Decimal

namespace Text

def readDigits? (cs : List Char) : Option Nat :=
  if cs.isEmpty || !cs.all Char.isDigit then none else some (Decimal.digitsValue 0 cs)

/-- Reads a natural number at most `most`; a plus sign may stand before it. -/
def readNat? (most : Nat) (cs : List Char) : Option Nat :=
  let ds :=
    match cs with
    | '+' :: r => r
    | r => r
  (readDigits? ds).filter (· ≤ most)

end Text

end GeoRaster
