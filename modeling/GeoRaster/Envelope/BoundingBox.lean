import GeoRaster.Crs.Identifier
import GeoRaster.Envelope

namespace GeoRaster

inductive BoundingBoxFault where
  | format (text : String)
  | number (part : String)
  | crs (name : String)
  deriving DecidableEq

def BoundingBoxFault.message : BoundingBoxFault → String
  | .format text =>
    "Invalid BoundingBox format: " ++ text ++ ". Expected 'min0,min1,max0,max1[,crs]'"
  | .number part => "Invalid number in BoundingBox: " ++ part
  | .crs name => "Invalid CRS in BoundingBox: " ++ name

namespace Envelope

variable {α : Type} [Scalar α]

def readBound (part : List Char) : Except BoundingBoxFault α :=
  match Scalar.read? part with
  | some x => .ok x
  | none => .error (.number (String.ofList part))

def readBoxCrs (default : Option Crs) : List (List Char) → Except BoundingBoxFault (Option Crs)
  | [] => .ok default
  | name :: _ =>
    match Crs.ofIdentifier? (String.ofList name) with
    | some c => .ok (some c)
    | none => .error (.crs (String.ofList name))

/-- Reads a bounding box. Parts may have blanks around them; numbers are looked at before the
name. -/
def ofBoundingBox (text : String) (default : Option Crs) :
    Except BoundingBoxFault (Envelope α) :=
  match (Text.segments ',' text.toList).map Text.trimList with
  | a :: b :: c :: d :: rest =>
    if 1 < rest.length then .error (.format text)
    else do
      let a ← readBound a
      let b ← readBound b
      let c ← readBound c
      let d ← readBound d
      let crs ← readBoxCrs default rest
      return ofCorners (a, b) (c, d) crs
  | _ => .error (.format text)

end Envelope

end GeoRaster
