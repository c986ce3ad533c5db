import GeoRaster.Decimal.Layout
import GeoRaster.Projection

namespace GeoRaster

inductive ProjectionFault (α : Type) where
  | outside (code : Crs.Code) (place : Point α)
  | noCrs
  | dimension (axes : Nat)
  deriving DecidableEq

def inWords {α : Type} [ShortestText α] (x : α) : String :=
  Decimal.Layout.plain.write (ShortestText.written x)

def ProjectionFault.message {α : Type} [ShortestText α] : ProjectionFault α → String
  | .outside code p =>
    "Point (" ++ inWords p.x ++ ", " ++ inWords p.y ++ ") is outside the domain of " ++ code.text
  | .noCrs => "Envelope has no CRS"
  | .dimension axes => "Envelope must be 2-dimensional, got " ++ toString axes ++ " axes"

structure Transformation (α : Type) where
  sourceCode : Crs.Code
  targetCode : Crs.Code
  source : Projection α
  target : Projection α

namespace Transformation

variable {α : Type}

def between [Atlas α] (source target : Crs.Code) : Transformation α :=
  ⟨source, target, Atlas.projection source, Atlas.projection target⟩

def reverse (t : Transformation α) : Transformation α :=
  ⟨t.targetCode, t.sourceCode, t.target, t.source⟩

/-- Geographic systems are not told apart. -/
def isIdentity (t : Transformation α) : Bool :=
  t.sourceCode = t.targetCode || (t.sourceCode.isGeographic && t.targetCode.isGeographic)

/-- The counterpart of a place; the fault names the projection whose domain it misses. -/
def apply (t : Transformation α) (p : Point α) : Except (ProjectionFault α) (Point α) :=
  if t.isIdentity then .ok p
  else
    match t.source.inverse p with
    | none => .error (.outside t.sourceCode p)
    | some g =>
      match t.target.forward g with
      | none => .error (.outside t.targetCode g)
      | some q => .ok q

def image? (t : Transformation α) (p : Point α) : Option (Point α) :=
  (t.apply p).toOption

end Transformation

end GeoRaster
