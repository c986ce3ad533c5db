import GeoRaster.Decimal.Basic

namespace GeoRaster

structure BinaryFormat where
  fractionBits : Nat
  exponentBits : Nat

namespace BinaryFormat

def double : BinaryFormat := ⟨52, 11⟩

def single : BinaryFormat := ⟨23, 8⟩

def leastExponent (f : BinaryFormat) : Int :=
  2 - (Nat.pow 2 (f.exponentBits - 1) : Nat) - f.fractionBits

end BinaryFormat

/-- What a bit pattern denotes. A finite number is `± mantissa · 2 ^ exponent`. -/
inductive BinaryValue where
  | nan
  | infinity (negative : Bool)
  | finite (negative : Bool) (mantissa : Nat) (exponent : Int)
  deriving DecidableEq

def BinaryValue.ofBits (f : BinaryFormat) (bits : Nat) : BinaryValue :=
  let negative := bits >>> (f.fractionBits + f.exponentBits) % 2 == 1
  let biased := bits >>> f.fractionBits % Nat.pow 2 f.exponentBits
  let fraction := bits % Nat.pow 2 f.fractionBits
  if biased = Nat.pow 2 f.exponentBits - 1 then
    if fraction = 0 then .infinity negative else .nan
  else if biased = 0 then
    .finite negative fraction f.leastExponent
  else
    .finite negative (Nat.pow 2 f.fractionBits + fraction) (f.leastExponent + (biased - 1 : Nat))

def BinaryValue.quotient (mantissa : Nat) (exponent : Int) : Nat × Nat :=
  if 0 ≤ exponent then (mantissa <<< exponent.natAbs, 1) else (mantissa, 1 <<< exponent.natAbs)

namespace Decimal

def tenPowLe (k : Int) (num den : Nat) : Bool :=
  if 0 ≤ k then Nat.pow 10 k.natAbs * den ≤ num else den ≤ num * Nat.pow 10 k.natAbs

/-- The weight of the leading digit of a positive quotient: the greatest `k` with
`10 ^ k ≤ num / den`. The first guess from the binary lengths is off by at most one. -/
def leadingWeight (num den : Nat) : Int :=
  let guess : Int := (((num.log2 : Int) - (den.log2 : Int)) * 1233) / 4096
  if tenPowLe (guess + 1) num den then
    if tenPowLe (guess + 2) num den then guess + 2 else guess + 1
  else if tenPowLe guess num den then guess
  else if tenPowLe (guess - 1) num den then guess - 1
  else guess - 2

def scaleDown (k : Int) (num den : Nat) : Nat × Nat :=
  if 0 ≤ k then (num, den * Nat.pow 10 k.natAbs) else (num * Nat.pow 10 k.natAbs, den)

def stripZeros : Nat → Nat → Int → Nat × Int
  | 0, n, e => (n, e)
  | fuel + 1, n, e => if n ≠ 0 ∧ n % 10 = 0 then stripZeros fuel (n / 10) (e + 1) else (n, e)

/-- The points that read back as `mantissa · 2 ^ exponent`: a quotient interval around the value,
closed when the mantissa is even. All three quotients have the denominator `den`. -/
structure Neighbourhood where
  low : Nat
  value : Nat
  high : Nat
  den : Nat
  closed : Bool

/-- Half way to the neighbours on both sides. Below a power of two the lower neighbour is at half
the distance, save among the smallest numbers. -/
def Neighbourhood.of (f : BinaryFormat) (mantissa : Nat) (exponent : Int) : Neighbourhood :=
  let narrow := mantissa = Nat.pow 2 f.fractionBits ∧ f.leastExponent < exponent
  let (value, den) := BinaryValue.quotient (4 * mantissa) (exponent - 2)
  let unit := value / (4 * mantissa)
  ⟨value - (if narrow then unit else 2 * unit), value, value + 2 * unit, den, mantissa % 2 = 0⟩

def Neighbourhood.holds (b : Neighbourhood) (n : Nat) (k : Int) : Bool :=
  let (point, unit) :=
    if 0 ≤ k then (n * Nat.pow 10 k.natAbs * b.den, 1) else (n * b.den, Nat.pow 10 k.natAbs)
  if b.closed then b.low * unit ≤ point && point ≤ b.high * unit
  else b.low * unit < point && point < b.high * unit

/-- The point of the grid of multiples of `10 ^ k` that reads back: of the value's two neighbours
on the grid the nearer one, the upper one when both are equally near. -/
def Neighbourhood.gridPoint? (b : Neighbourhood) (k : Int) : Option Nat :=
  let (num, den) := scaleDown k b.value b.den
  let n := num / den
  let rest := num % den
  match b.holds n k, b.holds (n + 1) k with
  | true, true => some (if den ≤ 2 * rest then n + 1 else n)
  | true, false => some n
  | false, true => some (n + 1)
  | false, false => none

def Neighbourhood.firstGridPoint (b : Neighbourhood) : Nat → Int → Nat × Int
  | 0, k => let (num, den) := scaleDown k b.value b.den; (num / den, k)
  | fuel + 1, k =>
    match b.gridPoint? k with
    | some n => (n, k)
    | none => firstGridPoint b fuel (k - 1)

/-- The shortest decimal of a finite number. Seventeen digits always suffice. -/
def shortest (f : BinaryFormat) (negative : Bool) (mantissa : Nat) (exponent : Int) : Decimal :=
  if mantissa = 0 then ⟨negative, 0, 0⟩
  else
    let b := Neighbourhood.of f mantissa exponent
    let (n, k) := b.firstGridPoint 17 (leadingWeight b.value b.den)
    let (n, k) := stripZeros 18 n k
    ⟨negative, n, k⟩

def Written.ofBits (f : BinaryFormat) (bits : Nat) : Written :=
  match BinaryValue.ofBits f bits with
  | .nan => .nan
  | .infinity negative => .infinity negative
  | .finite negative mantissa exponent => .finite (shortest f negative mantissa exponent)

end Decimal

end GeoRaster
