import GeoRaster.Bounds
import GeoRaster.Crs
import GeoRaster.Scalar.Machine

namespace GeoRaster

class Elementary (α : Type) where
  pi : α
  sqrt : α → α
  exp : α → α
  log : α → α
  sin : α → α
  cos : α → α
  tan : α → α
  atan : α → α
  /-- The angle of the point whose coordinates are given, the second one first. -/
  atan2 : α → α → α
  pow : α → α → α
  hypot : α → α → α

namespace Elementary

variable {α : Type} [Scalar α] [Elementary α]

@[inline] def radians (degrees : α) : α :=
  degrees * (pi / 180.0)

@[inline] def degrees (radians : α) : α :=
  radians * (180.0 / pi)

end Elementary

/-- The distance from the origin, scaled so that no square leaves the range. -/
def Float.distance (x y : Float) : Float :=
  let a := x.abs
  let b := y.abs
  let m := if a < b then b else a
  if m == 0.0 || !m.isFinite then a + b
  else
    let u := a / m
    let v := b / m
    m * (u * u + v * v).sqrt

instance : Elementary Float where
  pi := 3.141592653589793
  sqrt := Float.sqrt
  exp := Float.exp
  log := Float.log
  sin := Float.sin
  cos := Float.cos
  tan := Float.tan
  atan := Float.atan
  atan2 := Float.atan2
  pow := Float.pow
  hypot := Float.distance

structure Pole (α : Type) where
  latitude : α
  place : Point α

/-- A map projection: both maps, the latitudes that it shows, and its central pole if it has
one. -/
structure Projection (α : Type) where
  forward : Point α → Option (Point α)
  inverse : Point α → Option (Point α)
  south : α
  north : α
  pole : Option (Pole α)

class Atlas (α : Type) where
  projection : Crs.Code → Projection α

end GeoRaster
