import GeoRaster.Projection

namespace GeoRaster

namespace Earth

variable {α : Type} [Scalar α]

def radius : α := 6378137.0

def inverseFlattening : α := 298.257223563

def eccentricity [Elementary α] : α :=
  let f : α := 1.0 / inverseFlattening
  Elementary.sqrt (2.0 * f - f * f)

end Earth

namespace Geographic

variable {α : Type} [Scalar α]

/-- Moves a longitude by whole turns into the range from -180 to 180. At the seam the sign stays. -/
def normalizeLongitude (lon : α) : α :=
  let turn : α := 180.0
  if -turn ≤ lon ∧ lon ≤ turn then lon
  else
    let wrapped := Scalar.remainder (lon + 180.0) 360.0 - 180.0
    let zero : α := 0.0
    if wrapped == -turn && zero < lon then turn else wrapped

def isLatitude (lat : α) : Bool :=
  (-90.0 : α) ≤ lat && lat ≤ (90.0 : α)

def place? (p : Point α) : Option (Point α) :=
  if Scalar.isFinite p.x && isLatitude p.y then some p else none

def projection : Projection α :=
  ⟨place?, place?, -90.0, 90.0, none⟩

end Geographic

end GeoRaster
