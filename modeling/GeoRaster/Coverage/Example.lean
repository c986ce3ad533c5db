import GeoRaster.Coverage.Descriptor
import GeoRaster.Crs
import GeoRaster.Scalar

namespace GeoRaster

namespace Pattern

variable {σ : Type} [Scalar σ]

def ofFn (width height : Nat) (f : Nat → Nat → σ) : Array σ :=
  Array.ofFn fun i : Fin (width * height) => f (i.val % width) (i.val / width)

def columnRow (width height : Nat) : Array σ :=
  ofFn width height fun col row => Scalar.ofNat (col * 1000 + row)

def constant (width height : Nat) (value : σ) : Array σ :=
  Array.replicate (width * height) value

def marked (width height : Nat) (cells : List (Nat × Nat)) (value : σ) : Array σ :=
  cells.foldl
    (fun data (col, row) =>
      if col < width ∧ row < height then data.setIfInBounds (row * width + col) value else data)
    (columnRow width height)

def ramp (width height : Nat) : Array σ :=
  ofFn width height fun col row => Scalar.ofNat (row * width + col)

def cyclic (m width height : Nat) : Array σ :=
  ofFn width height fun col row => Scalar.ofNat ((row * width + col) % m)

end Pattern

namespace CoverageDescriptor

variable {α : Type} [Scalar α]

def worldGrid (code : Crs.Code) : GridGeometry α where
  range := .ofSize 360 180
  transform := .ofBounds code.extent 360 180
  crs := some (.ofCode code)
  planar := by decide

def world (code : Crs.Code) : CoverageDescriptor α :=
  let d : CoverageDescriptor α := make "world" (.ofCode code) (worldGrid code)
    [⟨"red", "Red reflectance", []⟩, ⟨"nir", "Near infrared reflectance", [-9999.0]⟩]
  { ((d.withCrsList ["EPSG:4326", "urn:ogc:def:crs:EPSG::4326", "EPSG:3857", "EPSG:3413"])
      |>.withInterpolations ["nearest neighbor", "bilinear", "bicubic"] (some "nearest neighbor"))
    with
    title := "World reflectance"
    supportedFormats := ["GeoTIFF", "ArcGrid"]
    nativeFormat := some "GeoTIFF" }

def smallGrid : GridGeometry α where
  range := .ofSize 10 10
  transform := .ofBounds ⟨-10.0, -10.0, 10.0, 10.0⟩ 10 10
  crs := some (.ofCode .wgs84)
  planar := by decide

def small (names : List String) : CoverageDescriptor α :=
  { make "bands" (.ofCode .wgs84) smallGrid (names.map BandDefinition.named) with
    supportedFormats := ["GeoTIFF"] }

end CoverageDescriptor

end GeoRaster
