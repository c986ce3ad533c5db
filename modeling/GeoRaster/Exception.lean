import GeoRaster.Coverage.BandSelection
import GeoRaster.Envelope.BoundingBox
import GeoRaster.Envelope.Resolution
import GeoRaster.Format
import GeoRaster.Grid.Planning
import GeoRaster.Raster

namespace GeoRaster

inductive ReadFault where
  | missing (coverage : String)
  | io (coverage reason : String)
  | invalid (coverage message : String)
  deriving DecidableEq

namespace ReadFault

def coverage : ReadFault → String
  | .missing c | .io c _ | .invalid c _ => c

def message : ReadFault → String
  | .missing c => "no data registered for coverage " ++ c
  | .io c reason => "I/O error reading " ++ c ++ ": " ++ reason
  | .invalid c m => "invalid raster data for " ++ c ++ ": " ++ m

end ReadFault

inductive ParameterFault (α : Type) where
  | boundingBox (f : BoundingBoxFault)
  | envelope (f : EnvelopeFault α)
  | gridRange (r : GridRange)
  | gridOffsets (x y : α)
  | gridOrigin (x y : α)
  | grid (f : GridFault)
  | range (f : RangeFault)
  | format (f : FormatFault)
  | unsupportedCrs (name : String)
  | crsNotOffered (name coverage : String)
  | outputSize (width height bands limit : Nat)
  | unknownCoverage (id : String)
  /-- A fault found elsewhere, with its parameter. -/
  | stated (locator message : String)
  deriving DecidableEq

namespace ParameterFault

variable {α : Type}

def locator : ParameterFault α → String
  | .boundingBox _ | .envelope _ => "BoundingBox"
  | .gridRange _ | .grid _ => "GridRange"
  | .gridOffsets _ _ | .outputSize _ _ _ _ => "GridOffsets"
  | .gridOrigin _ _ => "GridOrigin"
  | .range _ => "RangeSubset"
  | .format _ => "format"
  | .unsupportedCrs _ | .crsNotOffered _ _ => "CRS"
  | .unknownCoverage _ => "identifier"
  | .stated locator _ => locator

def message [ShortestText α] : ParameterFault α → String
  | .boundingBox f => f.message
  | .envelope f => f.message
  | .gridRange r => (PlanningFault.range r : PlanningFault α).message
  | .gridOffsets x y => (PlanningFault.offsets x y).message
  | .gridOrigin x y => (PlanningFault.origin x y).message
  | .grid f => f.message
  | .range f => f.message
  | .format f => f.message
  | .unsupportedCrs name => Crs.unsupportedMessage name
  | .crsNotOffered name coverage =>
    "CRS '" ++ name ++ "' is not offered for coverage " ++ coverage
  | .outputSize width height bands limit =>
    "output of " ++ toString width ++ "x" ++ toString height ++ " cells and " ++ toString bands ++
      " bands exceeds the limit of " ++ toString limit ++ " values"
  | .unknownCoverage id => "unknown coverage '" ++ id ++ "'"
  | .stated _ message => message

end ParameterFault

inductive ProcessingFault (α : Type) where
  | singularGrid
  | raster (f : RasterFault)
  | rasterCrs (found expected : Crs)
  | rasterExtent (source target : Crs) (f : ProjectionFault α)
  | stated (message : String)
  deriving DecidableEq

def ProcessingFault.message {α : Type} [ShortestText α] : ProcessingFault α → String
  | .singularGrid => (PlanningFault.singular : PlanningFault α).message
  | .raster f => f.message
  | .rasterCrs found expected =>
    "reader returned a raster in " ++ found.identifier ++ ", expected " ++ expected.identifier
  | .rasterExtent source target f =>
    "cannot transform raster extent from " ++ source.identifier ++ " to " ++ target.identifier ++
      ": " ++ f.message
  | .stated message => message

inductive Exception (α : Type) where
  | invalidParameter (f : ParameterFault α)
  | emptyIntersection
  | readFailed (coverage message : String)
  | cancelled
  | timeout
  | processing (f : ProcessingFault α)
  deriving DecidableEq

inductive ExceptionCode where
  | invalidParameterValue
  | noApplicableCode
  deriving DecidableEq

def ExceptionCode.text : ExceptionCode → String
  | .invalidParameterValue => "InvalidParameterValue"
  | .noApplicableCode => "NoApplicableCode"

structure ExceptionReport where
  code : ExceptionCode
  locator : Option String
  message : String
  deriving DecidableEq

namespace Exception

variable {α : Type}

/-- A failed read names its coverage twice: to the client and in the service's own words. -/
def ofReadFault (f : ReadFault) : Exception α :=
  .readFailed f.coverage f.message

def ofProjectionFault (f : ProjectionFault α) : Exception α :=
  .invalidParameter (.envelope (.projection f))

def ofGridFault (f : GridFault) : Exception α :=
  .invalidParameter (.grid f)

def ofRasterFault (f : RasterFault) : Exception α :=
  .processing (.raster f)

/-- Faults of the requested grid are the client's, a singular native grid is the service's. -/
def ofPlanningFault : PlanningFault α → Exception α
  | .range r => .invalidParameter (.gridRange r)
  | .offsets x y => .invalidParameter (.gridOffsets x y)
  | .origin x y => .invalidParameter (.gridOrigin x y)
  | .geometry f => ofGridFault f
  | .singular => .processing .singularGrid
  | .overflow o => .processing (.stated o.message)

def code : Exception α → ExceptionCode
  | .invalidParameter _ => .invalidParameterValue
  | _ => .noApplicableCode

def locator : Exception α → Option String
  | .invalidParameter f => some f.locator
  | _ => none

def status : Exception α → Nat
  | .invalidParameter _ => 400
  | .cancelled => 503
  | .timeout => 504
  | _ => 500

def message [ShortestText α] : Exception α → String
  | .invalidParameter f => "Invalid value for '" ++ f.locator ++ "': " ++ f.message
  | .emptyIntersection => "No data in requested region"
  | .readFailed coverage message => "Failed to read coverage '" ++ coverage ++ "': " ++ message
  | .cancelled => "Request cancelled"
  | .timeout => "Request timeout"
  | .processing f => "Processing failed: " ++ f.message

/-- What the client is told: nothing of the inner workings. -/
def report [ShortestText α] (e : Exception α) : ExceptionReport where
  code := e.code
  locator := e.locator
  message :=
    match e with
    | .readFailed coverage _ => "Failed to read coverage '" ++ coverage ++ "'"
    | .processing _ => "Internal processing error"
    | .invalidParameter f => f.message
    | e => e.message

end Exception

end GeoRaster
