import GeoRaster.Decimal.Basic
import GeoRaster.Decimal.Shortest

namespace GeoRaster.Decimal

/-- Choices of a number format. Numbers whose leading digit has a weight from `10 ^ least` up to
but not including `10 ^ most` are written positionally, all others with an exponent. -/
structure Layout where
  least : Option Int
  most : Option Int
  keepsFraction : Bool

namespace Layout

def general : Layout := ⟨some (-4), some 16, true⟩

def plain : Layout := ⟨none, none, false⟩

def document : Layout := ⟨some (-5), some 16, true⟩

def isPositional (l : Layout) (weight : Int) : Bool :=
  l.least.all (· ≤ weight) && l.most.all (weight < ·)

end Layout

def positional (keepsFraction : Bool) (ds : List Char) (exponent : Int) : List Char :=
  if 0 ≤ exponent then
    ds ++ List.replicate exponent.natAbs '0' ++ (if keepsFraction then ['.', '0'] else [])
  else
    let places := exponent.natAbs
    if places < ds.length then
      ds.take (ds.length - places) ++ '.' :: ds.drop (ds.length - places)
    else
      '0' :: '.' :: List.replicate (places - ds.length) '0' ++ ds

def withExponent (ds : List Char) (exponent : Int) : List Char :=
  let weight := exponent + ds.length - 1
  let mantissa :=
    match ds with
    | d :: r@(_ :: _) => d :: '.' :: r
    | _ => ds
  mantissa ++ 'e' :: (if weight < 0 then ['-'] else []) ++ digits weight.natAbs

def Layout.text (l : Layout) (d : Decimal) : List Char :=
  let sign := if d.negative then ['-'] else []
  if d.coefficient = 0 then
    sign ++ positional l.keepsFraction ['0'] 0
  else
    let ds := digits d.coefficient
    if l.isPositional (d.exponent + ds.length - 1) then
      sign ++ positional l.keepsFraction ds d.exponent
    else
      sign ++ withExponent ds d.exponent

def Layout.write (l : Layout) : Written → String
  | .nan => "NaN"
  | .infinity negative => if negative then "-inf" else "inf"
  | .finite d => String.ofList (l.text d)

def listText {α : Type} [ShortestText α] (xs : List α) : String :=
  "[" ++ ", ".intercalate (xs.map fun x => Layout.general.write (ShortestText.written x)) ++ "]"

def roundQuotient (num den : Nat) : Nat :=
  let n := num / den
  let rest := num % den
  if den < 2 * rest ∨ (den = 2 * rest ∧ n % 2 = 1) then n + 1 else n

def significant (count num den : Nat) : Nat × Int :=
  let k := leadingWeight num den - (count - 1 : Nat)
  let (a, b) := scaleDown k num den
  let n := roundQuotient a b
  if n = Nat.pow 10 count then (Nat.pow 10 (count - 1), k + 1) else (n, k)

/-- `[-]d.ddd…e<weight>` with `count` digits in all; every digit is written. -/
def scientific (count : Nat) (negative : Bool) (mantissa : Nat) (exponent : Int) : List Char :=
  let sign := if negative then ['-'] else []
  if mantissa = 0 then
    sign ++ withExponent (List.replicate count '0') (1 - (count : Int))
  else
    let (num, den) := BinaryValue.quotient mantissa exponent
    let (n, k) := significant count num den
    sign ++ withExponent (digits n) k

end GeoRaster.Decimal
