import GeoRaster.Crs.Identifier
import GeoRaster.Grid.Geometry

namespace GeoRaster

/-- One band of a coverage. The first of its no-data values marks missing samples. -/
structure BandDefinition (α : Type) where
  name : String
  description : String
  noData : List α

structure CoverageDescriptor (α : Type) where
  id : String
  title : String
  nativeEnvelope : Envelope α
  nativeCrs : Crs
  gridGeometry : GridGeometry α
  bands : List (BandDefinition α)
  requestCrs : List String
  responseCrs : List String
  supportedFormats : List String
  nativeFormat : Option String
  interpolationMethods : List String
  defaultInterpolation : Option String

def BandDefinition.named {α : Type} (name : String) : BandDefinition α :=
  ⟨name, "", []⟩

namespace CoverageDescriptor

variable {α : Type} [Scalar α]

def bandAxis : String := "Band"

def make (id : String) (nativeCrs : Crs) (grid : GridGeometry α) (bands : List (BandDefinition α)) :
    CoverageDescriptor α where
  id := id
  title := id
  nativeEnvelope := { grid.envelope with crs := some nativeCrs.eastingFirst }
  nativeCrs := nativeCrs
  gridGeometry := grid
  bands := bands
  requestCrs := [nativeCrs.identifier]
  responseCrs := [nativeCrs.identifier]
  supportedFormats := []
  nativeFormat := none
  interpolationMethods := ["nearest neighbor"]
  defaultInterpolation := none

def withCrsList (d : CoverageDescriptor α) (names : List String) : CoverageDescriptor α :=
  { d with requestCrs := names, responseCrs := names }

def withInterpolations (d : CoverageDescriptor α) (methods : List String)
    (default : Option String) : CoverageDescriptor α :=
  { d with interpolationMethods := methods, defaultInterpolation := default }

def bandCount (d : CoverageDescriptor α) : Nat :=
  d.bands.length

def supportedCrs (d : CoverageDescriptor α) : List String :=
  d.requestCrs ++ d.responseCrs

/-- The formats the coverage is offered in; the native one need not be listed. -/
def formatCandidates (d : CoverageDescriptor α) : List String :=
  match d.nativeFormat with
  | some native =>
    if d.supportedFormats.any (Text.sameIgnoringCase · native) then d.supportedFormats
    else d.supportedFormats ++ [native]
  | none => d.supportedFormats

def bandNoData (d : CoverageDescriptor α) (index : Nat) : Option α :=
  d.bands[index]? >>= fun b => b.noData.head?

end CoverageDescriptor

end GeoRaster
