import GeoRaster.Decimal.Basic

namespace GeoRaster

/-- Numbers with the operations of a rounded or exact ordered field, an undefined value and
infinities. `==` is equality as arithmetic sees it: the undefined value differs from itself. -/
class Scalar (α : Type) extends Add α, Sub α, Mul α, Div α, Neg α, BEq α, LT α, LE α,
    OfScientific α where
  ltDecidable (a b : α) : Decidable (a < b)
  leDecidable (a b : α) : Decidable (a ≤ b)
  nan : α
  infinity : α
  isNaN : α → Bool
  isFinite : α → Bool
  abs : α → α
  floor : α → α
  ceil : α → α
  /-- The nearest integer, a half away from zero. -/
  round : α → α
  /-- The remainder of the division that rounds the quotient so that no remainder is negative. -/
  remainder : α → α → α
  ofNat : Nat → α
  ofInt64 : Int64 → α
  ofDecimal : Decimal → α
  /-- Cuts off the fraction and goes to the nearer end of the range from outside it; the undefined
  value gives zero. -/
  toInt64 : α → Int64
  toUInt64 : α → UInt64

attribute [reducible, instance] Scalar.ltDecidable Scalar.leDecidable

class Narrowing (α σ : Type) where
  narrow : α → σ

export Narrowing (narrow)

namespace Scalar

variable {α : Type} [Scalar α]

@[inline] def min (a b : α) : α :=
  if isNaN a then b else if b < a then b else a

@[inline] def max (a b : α) : α :=
  if isNaN a then b else if a < b then b else a

@[inline] def clamp (low high a : α) : α :=
  let a := if a < low then low else a
  if high < a then high else a

/-- A count of cells or an index: no fraction, not negative, at most `2 ^ 64 - 1`. -/
@[inline] def toCount (a : α) : Nat :=
  (toUInt64 a).toNat

def ofWritten : Decimal.Written → α
  | .nan => nan
  | .infinity negative => if negative then -infinity else infinity
  | .finite d => ofDecimal d

def read? (text : List Char) : Option α :=
  (Decimal.Written.read? text).map ofWritten

end Scalar

end GeoRaster
