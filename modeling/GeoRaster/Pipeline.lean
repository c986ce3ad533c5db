import GeoRaster.Raster.Reproject

namespace GeoRaster

structure PipelinePlan (α : Type) where
  bands : List Nat
  envelope : Envelope α
  targetGrid : GridGeometry α
  nativeCrs : Crs
  targetCrs : Crs
  interpolation : Interpolation
  cancelled : Bool

namespace Raster

variable {α σ : Type} [Scalar α] [Scalar σ] [Narrowing α σ]

def selectBands (r : Raster α σ) (indices : List Nat) : Except (Exception α) (Raster α σ) :=
  match Band.select r.bands indices >>= fun bands =>
      make r.width r.height bands r.envelope r.crs with
  | .ok s => .ok s
  | .error f => .error (.ofRasterFault f)

/-- The ground that the planned grid covers; a grid without a place takes what was cropped. -/
def plannedExtent (grid : GridGeometry α) (cropped : Envelope α) : Envelope α :=
  if grid.transform.isIdentity then cropped else grid.envelope

/-- Runs all stages. A cancelled request stops after the crop. -/
def run [Atlas α] (r : Raster α σ) (plan : PipelinePlan α) :
    Except (Exception α) (Raster α σ) :=
  if r.crs.code ≠ plan.nativeCrs.code then .error (.processing (.rasterCrs r.crs plan.nativeCrs))
  else do
    let selected ← r.selectBands plan.bands
    let (cropped, extent) ← selected.crop plan.envelope
    if plan.cancelled then .error .cancelled
    else do
      let grid := plan.targetGrid
      let scaled ←
        cropped.scale (plannedExtent grid extent) grid.width grid.height plan.interpolation
      scaled.reproject plan.targetCrs plan.interpolation

end Raster

end GeoRaster
