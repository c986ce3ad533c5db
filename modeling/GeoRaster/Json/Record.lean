import GeoRaster.Json.Basic
import GeoRaster.Scalar

namespace GeoRaster.Json

variable {α τ : Type}

/-- The fields found in a document. A field that an array does not reach is missing in another way
than one that an object leaves out. -/
structure Fields (α : Type) where
  values : List (Option (Json α))
  positional : Bool

def uniqueMember? (members : List (String × Json α)) (name : String) :
    Option (Option (Json α)) :=
  match members.filter (·.1 == name) with
  | [] => some none
  | [(_, v)] => some (some v)
  | _ => none

def fields? (names : List String) : Json α → Option (Fields α)
  | .object members => do
    let values ← names.mapM (uniqueMember? members)
    some ⟨values, false⟩
  | .array items =>
    if names.length < items.length then none
    else some ⟨names.zipIdx.map fun (_, i) => items[i]?, true⟩
  | _ => none

namespace Fields

def get? (f : Fields α) (i : Nat) : Option (Json α) :=
  (f.values[i]?).join

def required (f : Fields α) (i : Nat) (decode : Json α → Option τ) : Option τ :=
  f.get? i >>= decode

def defaulted (f : Fields α) (i : Nat) (value : τ) (decode : Json α → Option τ) : Option τ :=
  match f.get? i with
  | some v => decode v
  | none => some value

end Fields

def nullable (decode : Json α → Option τ) : Json α → Option (Option τ)
  | .null => some none
  | v => (decode v).map some

def Fields.optional (f : Fields α) (i : Nat) (decode : Json α → Option τ) : Option (Option τ) :=
  match f.get? i with
  | some v => nullable decode v
  | none => if f.positional then none else some none

def string? : Json α → Option String
  | .string s => some s
  | _ => none

def bool? : Json α → Option Bool
  | .bool b => some b
  | _ => none

def integer? (low high : Int) : Json α → Option Int
  | .integer n => if low ≤ n ∧ n ≤ high then some n else none
  | _ => none

def int64? (j : Json α) : Option Int64 :=
  (integer? Int64.minValue.toInt Int64.maxValue.toInt j).map Int64.ofInt

def count? (j : Json α) : Option Nat :=
  (integer? 0 (UInt64.size - 1) j).map Int.toNat

def real? [Scalar α] : Json α → Option α
  | .real x => some x
  | .integer n => some (Scalar.ofDecimal ⟨n < 0, n.natAbs, 0⟩)
  | _ => none

def list? (decode : Json α → Option τ) : Json α → Option (List τ)
  | .array items => items.mapM decode
  | _ => none

def pair? (decode : Json α → Option τ) : Json α → Option (τ × τ)
  | .array [a, b] => do some (← decode a, ← decode b)
  | _ => none

def ofScalar [Scalar α] (x : α) : Json α :=
  if Scalar.isFinite x then .real x else .null

end GeoRaster.Json
