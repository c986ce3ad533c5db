import GeoRaster.Scalar

namespace GeoRaster

inductive Exact where
  | nan
  | negInfinity
  | finite (q : Rat)
  | infinity
  deriving DecidableEq, Inhabited

namespace Exact

def neg : Exact → Exact
  | nan => nan
  | negInfinity => infinity
  | finite q => finite (-q)
  | infinity => negInfinity

def add : Exact → Exact → Exact
  | finite p, finite q => finite (p + q)
  | nan, _ | _, nan => nan
  | infinity, negInfinity | negInfinity, infinity => nan
  | infinity, _ | _, infinity => infinity
  | negInfinity, _ | _, negInfinity => negInfinity

def sign : Exact → Int
  | nan => 0
  | negInfinity => -1
  | finite q => if 0 < q then 1 else if q < 0 then -1 else 0
  | infinity => 1

/-- An infinity with the sign of the factor, or the undefined value for a factor without sign. -/
def infinityOf (s : Int) : Exact :=
  if 0 < s then infinity else if s < 0 then negInfinity else nan

def mul : Exact → Exact → Exact
  | finite p, finite q => finite (p * q)
  | nan, _ | _, nan => nan
  | a, b => infinityOf (a.sign * b.sign)

def div : Exact → Exact → Exact
  | finite p, finite q => if q = 0 then infinityOf (finite p).sign else finite (p / q)
  | nan, _ | _, nan => nan
  | finite _, _ => finite 0
  | a, finite q => infinityOf (a.sign * if q < 0 then -1 else 1)
  | _, _ => nan

def lt : Exact → Exact → Bool
  | finite p, finite q => p < q
  | nan, _ | _, nan => false
  | negInfinity, b => b ≠ negInfinity
  | a, infinity => a ≠ infinity
  | _, _ => false

def eq : Exact → Exact → Bool
  | nan, _ => false
  | a, b => a = b

def map (f : Rat → Rat) : Exact → Exact
  | finite q => finite (f q)
  | a => a

/-- The nearest integer, a half away from zero. -/
def roundRat (q : Rat) : Int :=
  if 0 ≤ q then (q + 1 / 2).floor else (q - 1 / 2).ceil

def truncate (q : Rat) : Int :=
  if 0 ≤ q then q.floor else q.ceil

def toRange (low high : Int) : Exact → Int
  | nan => 0
  | negInfinity => low
  | finite q => if truncate q < low then low else if high < truncate q then high else truncate q
  | infinity => high

instance : Scalar Exact where
  add := add
  sub a b := add a (neg b)
  mul := mul
  div := div
  neg := neg
  beq := eq
  lt a b := lt a b = true
  le a b := (lt a b || eq a b) = true
  ofScientific m s e := finite (Rat.ofScientific m s e)
  ltDecidable a b := inferInstanceAs (Decidable (lt a b = true))
  leDecidable a b := inferInstanceAs (Decidable ((lt a b || eq a b) = true))
  nan := nan
  infinity := infinity
  isNaN a := a = nan
  isFinite
    | finite _ => true
    | _ => false
  abs a := if a.sign < 0 then neg a else a
  floor := map fun q => q.floor
  ceil := map fun q => q.ceil
  round := map fun q => roundRat q
  remainder
    | finite p, finite q =>
      if q = 0 then nan else
        let d := if q < 0 then -q else q
        finite (p - d * (p / d).floor)
    | finite p, infinity | finite p, negInfinity => if 0 ≤ p then finite p else infinity
    | _, _ => nan
  ofNat n := finite n
  ofInt64 i := finite i.toInt
  ofDecimal d := finite d.toRat
  toInt64 a := Int64.ofInt (toRange Int64.minValue.toInt Int64.maxValue.toInt a)
  toUInt64 a := UInt64.ofNat (toRange 0 (UInt64.size - 1) a).toNat

instance : Narrowing Exact Exact := ⟨id⟩

end Exact

end GeoRaster
