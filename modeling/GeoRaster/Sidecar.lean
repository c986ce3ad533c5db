import GeoRaster.Coverage.Document
import GeoRaster.Json.Basic
import GeoRaster.Reader.Encoding
import GeoRaster.Service

namespace GeoRaster

namespace Path

def dropTail : List Char → List Char
  | '/' :: r => dropTail r
  | '.' :: '/' :: r => dropTail r
  | r => r

def splitLast (cs : List Char) : List Char × List Char :=
  let r := dropTail cs.reverse
  ((r.dropWhile (· ≠ '/')).reverse, (r.takeWhile (· ≠ '/')).reverse)

/-- Does a name stand for something of its own, and not for a directory that is there already? -/
def isOwnName (name : List Char) : Bool :=
  !(name.isEmpty || name == ['.'] || name == ['.', '.'])

/-- A name without its extension. A point at the beginning starts no extension. -/
def stem (name : List Char) : List Char :=
  match name.reverse.dropWhile (· ≠ '.') with
  | _ :: c :: r => (c :: r).reverse
  | _ => name

/-- The path of a file beside others of the same name: the extension of the last name is replaced,
if it has one. A path that ends in no name of its own stays. -/
def withExtension (path extension : String) : String :=
  let (before, name) := splitLast path.toList
  if isOwnName name then String.ofList (before ++ stem name) ++ "." ++ extension else path

def parent (path : String) : String :=
  let before := (splitLast path.toList).1
  match dropTail before.reverse with
  | [] => if before.isEmpty then "" else "/"
  | r => String.ofList r.reverse

end Path

variable {α σ : Type} [Scalar α]

def ResolvedFormat.toDocument (f : ResolvedFormat) : Json α :=
  .object [("declared", .string f.declared), ("encoder", .ofOption .string f.encoder),
    ("mime_type", .ofOption .string f.mimeType)]

def Json.ofSample [ShortestText σ] (v : σ) : Json α :=
  .ofScalar (Scalar.ofWritten (ShortestText.written v))

def Band.toDocument [ShortestText σ] (b : Band σ) : Json α :=
  .object [("name", .string b.name), ("no_data", .ofOption Json.ofSample b.noData)]

def Bounds.toDocument (b : Bounds α) : Json α :=
  .array ([b.minX, b.minY, b.maxX, b.maxY].map .ofScalar)

def CoverageResult.sidecar [ShortestText σ] (r : CoverageResult α σ) (coverageId : String) :
    Json α :=
  .object [("coverage_id", .string coverageId), ("width", .integer r.raster.width),
    ("height", .integer r.raster.height), ("bands", .array (r.raster.bands.map Band.toDocument)),
    ("crs", .string r.crs.identifier), ("envelope", r.raster.envelope.bounds.toDocument),
    ("grid_range", r.gridGeometry.range.toDocument),
    ("transform", r.gridGeometry.transform.toDocument), ("format", r.format.toDocument),
    ("sample_type", .string "float32"), ("byte_order", .string "little_endian"),
    ("interleave", .string "band")]

def dataPath (target : String) : String :=
  Path.withExtension target "f32"

def sidecarPath (target : String) : String :=
  Path.withExtension target "json"

def CoverageResult.files [ShortestText α] [ShortestText σ] [SampleWord σ]
    (r : CoverageResult α σ) (coverageId target : String) : List (String × ByteArray) :=
  [(dataPath target, encodeBands r.raster.bands),
    (sidecarPath target, ((r.sidecar coverageId).indented 0).toUTF8)]

end GeoRaster
