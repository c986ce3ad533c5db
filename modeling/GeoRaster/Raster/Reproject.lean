import GeoRaster.Raster.Scale

namespace GeoRaster.Raster

variable {α σ : Type} [Scalar α] [Scalar σ] [Narrowing α σ]

/-- A longitude outside the bounds, moved towards them by one turn. -/
@[inline] def wrapTowards (minX maxX x : α) : α :=
  if x < minX then x + 360.0 else if maxX < x then x - 360.0 else x

/-- The place in the source that a place in the target shows, if the source box holds it. -/
@[specialize] def sourcePlace? (back : Transformation α) (wraps : Bool) (source : Bounds α)
    (p : Point α) : Option (Point α) :=
  match back.image? p with
  | none => none
  | some q =>
    let q : Point α := if wraps then ⟨wrapTowards source.minX source.maxX q.x, q.y⟩ else q
    if source.holds q then some q else none

@[specialize] def resampleInto (r : Raster α σ) (back : Transformation α) (extent : Envelope α)
    (target : Crs) (method : Interpolation) : Except RasterFault (Raster α σ) :=
  let source := r.envelope.bounds
  let b := extent.bounds
  let sourceWidth := r.resolutionX
  let sourceHeight := r.resolutionY
  let cellWidth := b.width / Scalar.ofNat r.width
  let cellHeight := b.height / Scalar.ofNat r.height
  let wraps := r.crs.isGeographic
  let locate (col row : Nat) : Option (Point α) :=
    (sourcePlace? back wraps source (cellCentre b cellWidth cellHeight col row)).map
      (positionIn source sourceWidth sourceHeight)
  make r.width r.height
    (r.bands.map fun band => band.resample r.width r.height r.width r.height method locate)
    extent target

/-- The raster in another system, or what of it that system shows. Between systems that are not told
apart only the name changes. -/
@[specialize] def reproject [Atlas α] (r : Raster α σ) (target : Crs) (method : Interpolation) :
    Except (Exception α) (Raster α σ) :=
  let target := target.eastingFirst
  let forth : Transformation α := .between r.crs.code target.code
  let finish : Except RasterFault (Raster α σ) → Except (Exception α) (Raster α σ)
    | .ok s => .ok s
    | .error f => .error (.ofRasterFault f)
  if forth.isIdentity then finish (make r.width r.height r.bands r.envelope target)
  else
    match r.envelope.shownIn? target.code with
    | none => .error .emptyIntersection
    | some shown =>
      match shown.transform target with
      | .error f => .error (.processing (.rasterExtent r.crs target f))
      | .ok extent => finish (resampleInto r forth.reverse extent target method)

end GeoRaster.Raster
