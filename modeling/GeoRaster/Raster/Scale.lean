import GeoRaster.Raster
import GeoRaster.Raster.Crop
import GeoRaster.Raster.Kernel

namespace GeoRaster

variable {α σ : Type} [Scalar α] [Scalar σ] [Narrowing α σ]

def Band.masked (b : Band σ) : Array σ :=
  match b.noData with
  | some nd => b.data.map fun v => if v == nd then Scalar.nan else v
  | none => b.data

def Band.fill (b : Band σ) : σ :=
  b.noData.getD Scalar.nan

/-- The value of one cell: the kernel's at the position of the cell, or the fill value where there
is no position or no value. -/
@[specialize] def SampleGrid.cell (g : SampleGrid σ) (method : Interpolation) (fill : σ)
    (position : Option (Point α)) : σ :=
  match position with
  | none => fill
  | some p =>
    let v := g.sample method p.x p.y
    if Scalar.isNaN v then fill else v

/-- The band on a grid of `width × height` cells. `locate` gives the position of a cell, column
before row, on the grid of `sourceWidth × sourceHeight` samples. -/
@[specialize] def Band.resample (b : Band σ) (sourceWidth sourceHeight width height : Nat)
    (method : Interpolation) (locate : Nat → Nat → Option (Point α)) : Band σ :=
  let g : SampleGrid σ := ⟨b.masked, sourceWidth, sourceHeight⟩
  b.withData <| Array.ofFn fun i : Fin (width * height) =>
    g.cell method b.fill (locate (i.val % width) (i.val / width))

namespace Raster

@[inline] def cellCentre (b : Bounds α) (cellWidth cellHeight : α) (col row : Nat) : Point α :=
  ⟨b.minX + (Scalar.ofNat col + 0.5) * cellWidth, b.maxY - (Scalar.ofNat row + 0.5) * cellHeight⟩

@[inline] def positionIn (b : Bounds α) (cellWidth cellHeight : α) (p : Point α) : Point α :=
  ⟨(p.x - b.minX) / cellWidth - 0.5, (b.maxY - p.y) / cellHeight - 0.5⟩

@[specialize] def resampleOver (r : Raster α σ) (extent : Envelope α) (width height : Nat)
    (method : Interpolation) : Except RasterFault (Raster α σ) :=
  let source := r.envelope.bounds
  let target := extent.bounds
  let sourceWidth := r.resolutionX
  let sourceHeight := r.resolutionY
  let cellWidth := target.width / Scalar.ofNat width
  let cellHeight := target.height / Scalar.ofNat height
  let locate (col row : Nat) : Option (Point α) :=
    some (positionIn source sourceWidth sourceHeight
      (cellCentre target cellWidth cellHeight col row))
  make width height (r.bands.map fun b => b.resample r.width r.height width height method locate)
    extent r.crs

/-- The raster on `width × height` cells over an extent. A raster that already lies there is not
sampled again. -/
@[specialize] def scale (r : Raster α σ) (extent : Envelope α) (width height : Nat)
    (method : Interpolation) : Except (Exception α) (Raster α σ) :=
  if r.width = width ∧ r.height = height ∧ r.envelope.isNear sameBox extent then .ok r
  else
    match resampleOver r extent width height method with
    | .ok s => .ok s
    | .error f => .error (.ofRasterFault f)

end Raster

end GeoRaster
