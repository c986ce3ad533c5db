import GeoRaster.Text.Basic
import GeoRaster.Text.LowerCase

namespace GeoRaster

inductive Interpolation where
  | nearest
  | bilinear
  | cubic
  deriving DecidableEq, Inhabited

namespace Interpolation

def names : Interpolation → List String
  | .nearest => ["nearest", "nearest neighbor", "nearest-neighbor", "nearest_neighbor"]
  | .bilinear => ["bilinear", "linear"]
  | .cubic => ["cubic", "bicubic"]

def ofName? (s : String) : Option Interpolation :=
  let name := Text.lower (Text.trim s)
  [nearest, bilinear, cubic].find? fun m => m.names.contains name

def text : Interpolation → String
  | .nearest => "nearest"
  | .bilinear => "bilinear"
  | .cubic => "cubic"

def canonicalName : Interpolation → String
  | .nearest => "nearest neighbor"
  | .bilinear => "bilinear"
  | .cubic => "bicubic"

/-- Names with equal keys ask for the same method. -/
def key (name : String) : String :=
  let k := Text.lower (Text.trim name)
  if k = "nearest" then "nearest neighbor" else k

end Interpolation

end GeoRaster
