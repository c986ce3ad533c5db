import GeoRaster.Envelope.Document
import GeoRaster.Grid.Geometry

namespace GeoRaster

variable {α : Type} [Scalar α]

namespace GridRange

def indices (is : List Int64) : Json α :=
  .array (is.map fun i => .integer i.toInt)

def toDocument (r : GridRange) : Json α :=
  .object [("low", indices r.low), ("high", indices r.high)]

def ofDocument? (d : Json α) : Option GridRange := do
  let f ← Json.fields? ["low", "high"] d
  return ⟨← f.required 0 (Json.list? Json.int64?), ← f.required 1 (Json.list? Json.int64?)⟩

end GridRange

namespace Affine

def fieldNames : List String :=
  ["scale_x", "shear_x", "translate_x", "shear_y", "scale_y", "translate_y"]

def toDocument (t : Affine α) : Json α :=
  .object [("scale_x", .ofScalar t.scaleX), ("shear_x", .ofScalar t.shearX),
    ("translate_x", .ofScalar t.translateX), ("shear_y", .ofScalar t.shearY),
    ("scale_y", .ofScalar t.scaleY), ("translate_y", .ofScalar t.translateY)]

def ofDocument? (d : Json α) : Option (Affine α) := do
  let f ← Json.fields? fieldNames d
  return {
    scaleX := ← f.required 0 Json.real?
    shearX := ← f.required 1 Json.real?
    translateX := ← f.required 2 Json.real?
    shearY := ← f.required 3 Json.real?
    scaleY := ← f.required 4 Json.real?
    translateY := ← f.required 5 Json.real? }

end Affine

namespace GridGeometry

def toDocument (g : GridGeometry α) : Json α :=
  .object [("range", g.range.toDocument), ("transform", g.transform.toDocument),
    ("crs", .ofOption Crs.toDocument g.crs)]

def ofDocument? (d : Json α) : Option (GridGeometry α) := do
  let f ← Json.fields? ["range", "transform", "crs"] d
  let range ← f.required 0 GridRange.ofDocument?
  let transform ← f.required 1 Affine.ofDocument?
  let crs ← f.defaulted 2 none (Json.nullable Crs.ofDocument?)
  (ofRange range transform crs).toOption

end GridGeometry

end GeoRaster
