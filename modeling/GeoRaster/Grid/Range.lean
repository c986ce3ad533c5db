import GeoRaster.Word

namespace GeoRaster

structure GridRange where
  low : List Int64
  high : List Int64
  deriving DecidableEq, Inhabited

/-- The number of indices from `low` to `high`, unless the distance or the number is no word. -/
def cellsBetween (low high : Int64) : Option Nat :=
  let distance := high.toInt - low.toInt
  if Int64.minValue.toInt ≤ distance ∧ distance < Int64.maxValue.toInt then
    some (distance + 1).toNat
  else none

namespace GridRange

def lastIndex (size : Nat) : Int64 :=
  Int64.ofInt (min (size : Int) Int64.maxValue.toInt) - 1

def ofSize (width height : Nat) : GridRange :=
  ⟨[0, 0], [lastIndex width, lastIndex height]⟩

def dimension (r : GridRange) : Nat :=
  r.low.length

def span (r : GridRange) (axis : Nat) : Option Nat :=
  match r.low[axis]?, r.high[axis]? with
  | some l, some h => cellsBetween l h
  | _, _ => none

/-- Cells along the first axis, or the greatest count if there are more than fit. -/
def width (r : GridRange) : Nat :=
  (r.span 0).getD maxCount

def height (r : GridRange) : Nat :=
  (r.span 1).getD maxCount

def isValid (r : GridRange) : Bool :=
  decide (r.low.length = r.high.length) && (r.low.zip r.high).all fun (l, h) => l ≤ h

def checkedProduct (a b : Nat) : Option Nat :=
  if a * b ≤ maxCount then some (a * b) else none

def cellCount (r : GridRange) : Option Nat :=
  (List.range r.dimension).foldlM (fun total axis => r.span axis >>= checkedProduct total) 1

def IsPlanar (r : GridRange) : Prop :=
  r.low.length = 2 ∧ r.high.length = 2 ∧ r.isValid = true

instance (r : GridRange) : Decidable r.IsPlanar :=
  inferInstanceAs (Decidable (_ ∧ _ ∧ _))

end GridRange

end GeoRaster
