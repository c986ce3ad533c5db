import GeoRaster.Projection.Geographic
import GeoRaster.Projection.Polar

namespace GeoRaster

variable {α : Type} [Scalar α] [Elementary α]

namespace Mercator

open Elementary

def maxLatitude : α := 85.0511287798066

/-- Places a little beyond the edge are put on it. -/
def forward (p : Point α) : Option (Point α) :=
  let edge : α := maxLatitude
  if Scalar.isFinite p.x && Scalar.abs p.y ≤ edge + 1e-9 then
    let lat := Scalar.clamp (-edge) edge p.y
    some ⟨radians p.x * Earth.radius, log (tan (pi / 4.0 + radians lat / 2.0)) * Earth.radius⟩
  else none

def inverse (p : Point α) : Option (Point α) :=
  if Scalar.isFinite p.x && Scalar.isFinite p.y then
    let two : α := 2.0
    some ⟨degrees (p.x / Earth.radius), degrees (two * atan (exp (p.y / Earth.radius)) - pi / 2.0)⟩
  else none

def projection : Projection α :=
  ⟨forward, inverse, -maxLatitude, maxLatitude, none⟩

end Mercator

def standardProjection : Crs.Code → Projection α
  | .wgs84 | .nad83 => Geographic.projection
  | .webMercator => Mercator.projection
  | .arctic => Polar.arctic.projection
  | .antarctic => Polar.antarctic.projection

instance : Atlas α := ⟨standardProjection⟩

end GeoRaster
