import GeoRaster.Coverage.Descriptor
import GeoRaster.Request.Document

namespace GeoRaster

variable {α : Type} [Scalar α]

namespace BandDefinition

def toDocument (b : BandDefinition α) : Json α :=
  .object [("name", .string b.name), ("description", .string b.description),
    ("no_data", .array (b.noData.map .ofScalar))]

def ofDocument? (d : Json α) : Option (BandDefinition α) := do
  let f ← Json.fields? ["name", "description", "no_data"] d
  return ⟨← f.required 0 Json.string?, ← f.defaulted 1 "" Json.string?,
    ← f.defaulted 2 [] (Json.list? Json.real?)⟩

end BandDefinition

namespace CoverageDescriptor

def toDocument (d : CoverageDescriptor α) : Json α :=
  .object [("id", .string d.id), ("title", .string d.title),
    ("native_envelope", d.nativeEnvelope.toDocument), ("native_crs", d.nativeCrs.toDocument),
    ("grid_geometry", d.gridGeometry.toDocument),
    ("bands", .array (d.bands.map BandDefinition.toDocument)),
    ("request_crs", .ofStrings d.requestCrs), ("response_crs", .ofStrings d.responseCrs),
    ("supported_formats", .ofStrings d.supportedFormats),
    ("native_format", .ofOption .string d.nativeFormat),
    ("interpolation_methods", .ofStrings d.interpolationMethods),
    ("default_interpolation", .ofOption .string d.defaultInterpolation)]

def fieldNames : List String :=
  ["id", "title", "native_envelope", "native_crs", "grid_geometry", "bands", "request_crs",
    "response_crs", "supported_formats", "native_format", "interpolation_methods",
    "default_interpolation"]

def ofDocument? (d : Json α) : Option (CoverageDescriptor α) := do
  let f ← Json.fields? fieldNames d
  return {
    id := ← f.required 0 Json.string?
    title := ← f.required 1 Json.string?
    nativeEnvelope := ← f.required 2 Envelope.ofDocument?
    nativeCrs := ← f.required 3 Crs.ofDocument?
    gridGeometry := ← f.required 4 GridGeometry.ofDocument?
    bands := ← f.required 5 (Json.list? BandDefinition.ofDocument?)
    requestCrs := ← f.required 6 Json.strings?
    responseCrs := ← f.required 7 Json.strings?
    supportedFormats := ← f.required 8 Json.strings?
    nativeFormat := ← f.optional 9 Json.string?
    interpolationMethods := ← f.required 10 Json.strings?
    defaultInterpolation := ← f.optional 11 Json.string? }

end CoverageDescriptor

end GeoRaster
