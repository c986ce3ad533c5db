namespace GeoRaster

def maxCount : Nat := UInt64.size - 1

/-- A build with overflow checks stops where a result is no 64-bit word, one without them wraps it. -/
inductive Build where
  | checked
  | wrapping
  deriving DecidableEq

inductive Overflow where
  | add
  | subtract
  | multiply
  deriving DecidableEq

def Overflow.message : Overflow → String
  | .add => "attempt to add with overflow"
  | .subtract => "attempt to subtract with overflow"
  | .multiply => "attempt to multiply with overflow"

namespace Build

def predecessor : Build → Int64 → Except Overflow Int64
  | .checked, i => if i = Int64.minValue then .error .subtract else .ok (i - 1)
  | .wrapping, i => .ok (i - 1)

def word : Build → Overflow → Nat → Except Overflow Nat
  | .checked, o, n => if n < UInt64.size then .ok n else .error o
  | .wrapping, _, n => .ok (n % UInt64.size)

def sum (build : Build) (a b : Nat) : Except Overflow Nat :=
  build.word .add (a + b)

def product (build : Build) (a b : Nat) : Except Overflow Nat :=
  build.word .multiply (a * b)

end Build

end GeoRaster
