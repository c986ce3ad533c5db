import GeoRaster.Decimal.Shortest
import GeoRaster.Scalar

namespace GeoRaster

namespace BinaryValue

def ofFloat (x : Float) : BinaryValue :=
  ofBits .double x.toBits.toNat

def truncatedRemainder : BinaryValue → BinaryValue → Float
  | .finite negative m q, .finite _ n r =>
    if n = 0 then 0.0 / 0.0
    else
      let e := if q ≤ r then q else r
      let rest := (m <<< (q - e).natAbs) % (n <<< (r - e).natAbs)
      let x := (Float.ofNat rest).scaleB e
      if negative then -x else x
  | .finite negative m q, .infinity _ =>
      let x := (Float.ofNat m).scaleB q
      if negative then -x else x
  | _, _ => 0.0 / 0.0

end BinaryValue

/-- The double nearest to a decimal. Beyond `10 ^ 400` all are infinite, below `10 ^ -400` zero. -/
def Decimal.toFloat (d : Decimal) : Float :=
  let weight := d.exponent + (digits d.coefficient).length
  let magnitude :=
    if d.coefficient = 0 ∨ weight < -400 then 0.0
    else if 400 < weight then 1.0 / 0.0
    else if d.exponent < 0 then Float.ofScientific d.coefficient true d.exponent.natAbs
    else Float.ofScientific d.coefficient false d.exponent.natAbs
  if d.negative then -magnitude else magnitude

instance : Scalar Float where
  ltDecidable a b := inferInstanceAs (Decidable (a < b))
  leDecidable a b := inferInstanceAs (Decidable (a ≤ b))
  nan := 0.0 / 0.0
  infinity := 1.0 / 0.0
  isNaN := Float.isNaN
  isFinite := Float.isFinite
  abs := Float.abs
  floor := Float.floor
  ceil := Float.ceil
  round := Float.round
  remainder x y :=
    let r := BinaryValue.truncatedRemainder (.ofFloat x) (.ofFloat y)
    if r < 0.0 then r + y.abs else r
  ofNat n := if n < UInt64.size then (UInt64.ofNat n).toFloat else Float.ofNat n
  ofInt64 i := if i < 0 then -(-i).toUInt64.toFloat else i.toUInt64.toFloat
  ofDecimal := Decimal.toFloat
  toInt64 := Float.toInt64
  toUInt64 := Float.toUInt64

instance : Scalar Float32 where
  ltDecidable a b := inferInstanceAs (Decidable (a < b))
  leDecidable a b := inferInstanceAs (Decidable (a ≤ b))
  nan := 0.0 / 0.0
  infinity := 1.0 / 0.0
  isNaN := Float32.isNaN
  isFinite := Float32.isFinite
  abs := Float32.abs
  floor := Float32.floor
  ceil := Float32.ceil
  round := Float32.round
  remainder x y :=
    let r := (BinaryValue.truncatedRemainder (.ofFloat x.toFloat) (.ofFloat y.toFloat)).toFloat32
    if r < 0.0 then r + y.abs else r
  ofNat n := if n < UInt64.size then (UInt64.ofNat n).toFloat32 else Float32.ofNat n
  ofInt64 i := if i < 0 then -(-i).toUInt64.toFloat32 else i.toUInt64.toFloat32
  ofDecimal d := d.toFloat.toFloat32
  toInt64 := Float32.toInt64
  toUInt64 := Float32.toUInt64

instance : Narrowing Float Float32 := ⟨Float.toFloat32⟩

instance : ShortestText Float := ⟨fun x => .ofBits .double x.toBits.toNat⟩

instance : ShortestText Float32 := ⟨fun x => .ofBits .single x.toBits.toNat⟩

end GeoRaster
