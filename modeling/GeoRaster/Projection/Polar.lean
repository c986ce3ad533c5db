import GeoRaster.Projection.Geographic

namespace GeoRaster

open Elementary

/-- A projection around the pole on the side of its true-scale latitude. -/
structure Polar (α : Type) where
  /-- The latitude of true scale. -/
  trueScale : α
  /-- The longitude that points down on the northern map and up on the southern one. -/
  central : α
  limit : α
  eccentricity : α
  scale : α

namespace Polar

variable {α : Type} [Scalar α] [Elementary α]

def colatitude (phi e : α) : α :=
  let one : α := 1.0
  let es := e * sin phi
  tan (pi / 4.0 - phi / 2.0) / pow ((one - es) / (one + es)) (e / 2.0)

def parallelRadius (phi e : α) : α :=
  let one : α := 1.0
  let s := sin phi
  cos phi / sqrt (one - e * e * s * s)

def make (trueScale central limit : α) : Polar α :=
  let e : α := Earth.eccentricity
  let phi := radians (Scalar.abs trueScale)
  ⟨trueScale, central, limit, e, Earth.radius * parallelRadius phi e / colatitude phi e⟩

def isNorth (p : Polar α) : Bool :=
  let zero : α := 0.0
  zero ≤ p.trueScale

def sign (p : Polar α) : α :=
  if p.isNorth then 1.0 else -1.0

def poleLatitude (p : Polar α) : α :=
  if p.isNorth then 90.0 else -90.0

def shows (p : Polar α) (lat : α) : Bool :=
  let pole : α := 90.0
  if p.isNorth then p.limit ≤ lat && lat ≤ pole else lat ≤ p.limit && -pole ≤ lat

def forward (p : Polar α) (place : Point α) : Option (Point α) :=
  if Scalar.isFinite place.x && p.shows place.y then
    let s := p.sign
    let phi := radians (s * place.y)
    let turn := radians (s * place.x - s * p.central)
    let rho := p.scale * colatitude phi p.eccentricity
    some ⟨s * (rho * sin turn), s * (-rho * cos turn)⟩
  else none

/-- Latitudes from a conformal colatitude, each better than the one before; at most `steps` of
them, and no more once two agree. -/
def refine (ts e : α) : Nat → α → α
  | 0, phi => phi
  | steps + 1, phi =>
    let one : α := 1.0
    let two : α := 2.0
    let es := e * sin phi
    let next := pi / 2.0 - two * atan (ts * pow ((one - es) / (one + es)) (e / 2.0))
    if Scalar.abs (next - phi) < 1e-12 then next else refine ts e steps next

def inverse (p : Polar α) (place : Point α) : Option (Point α) :=
  if Scalar.isFinite place.x && Scalar.isFinite place.y then
    let two : α := 2.0
    let s := p.sign
    let x := s * place.x
    let y := s * place.y
    let rho := hypot x y
    if rho == 0.0 then some ⟨p.central, p.poleLatitude⟩
    else
      let ts := rho / p.scale
      let phi := refine ts p.eccentricity 15 (pi / 2.0 - two * atan ts)
      let lam := radians (s * p.central) + atan2 x (-y)
      some ⟨Geographic.normalizeLongitude (s * degrees lam), s * degrees phi⟩
  else none

def projection (p : Polar α) : Projection α :=
  let pole : Pole α := ⟨p.poleLatitude, ⟨0.0, 0.0⟩⟩
  if p.isNorth then ⟨p.forward, p.inverse, p.limit, 90.0, some pole⟩
  else ⟨p.forward, p.inverse, -90.0, p.limit, some pole⟩

def arctic : Polar α := make 70.0 (-45.0) 30.0

def antarctic : Polar α := make (-71.0) 0.0 (-60.0)

end Polar

end GeoRaster
