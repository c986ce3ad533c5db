import GeoRaster.Envelope
import GeoRaster.Grid.Range

namespace GeoRaster

/-- The grid that is asked for: its range, or the size of its cells and perhaps their origin. -/
structure RequestGrid (α : Type) where
  range : Option GridRange
  origin : Option (α × α)
  offsets : Option (α × α)

structure DomainSubset (α : Type) where
  envelope : Option (Envelope α)
  grid : Option (RequestGrid α)

inductive AxisSelection where
  | values (names : List String)
  | interval (min max : String) (step : Option String)
  deriving DecidableEq

structure AxisSubset where
  axis : String
  selection : AxisSelection
  deriving DecidableEq

structure OutputSpec where
  format : String
  crs : Option String
  deriving DecidableEq

/-- A request. What it leaves out, the description of the coverage supplies. -/
structure CoverageRequest (α : Type) where
  coverageId : String
  domain : DomainSubset α
  range : List AxisSubset
  interpolation : Option String
  output : OutputSpec

def CoverageRequest.make {α : Type} (coverageId format : String) : CoverageRequest α :=
  ⟨coverageId, ⟨none, none⟩, [], none, ⟨format, none⟩⟩

end GeoRaster
