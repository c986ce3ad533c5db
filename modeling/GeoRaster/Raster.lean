import GeoRaster.Envelope
import GeoRaster.Grid.Geometry

namespace GeoRaster

structure Band (σ : Type) where
  name : String
  data : Array σ
  noData : Option σ
  deriving DecidableEq, Inhabited

structure Raster (α σ : Type) where
  width : Nat
  height : Nat
  bands : List (Band σ)
  envelope : Envelope α
  crs : Crs
  deriving DecidableEq, Inhabited

inductive RasterFault where
  | empty (width height : Nat)
  | sampleCount (band : String) (count expected : Nat)
  | missingBand (count number : Nat)
  deriving DecidableEq

def RasterFault.message : RasterFault → String
  | .empty width height =>
    "raster must not be empty, got " ++ toString width ++ "x" ++ toString height
  | .sampleCount band count expected =>
    "band '" ++ band ++ "' has " ++ toString count ++ " samples, expected " ++ toString expected
  | .missingBand count number =>
    "reader returned " ++ toString count ++ " bands, band " ++ toString number ++ " was selected"

def Band.isMissing {σ : Type} [Scalar σ] (b : Band σ) (value : σ) : Bool :=
  Scalar.isNaN value || b.noData.any (· == value)

def Band.withData {σ : Type} (b : Band σ) (data : Array σ) : Band σ :=
  { b with data := data }

/-- The bands with the given places, in that order. All of them in order are taken as they are. -/
def Band.select {σ : Type} (bands : List (Band σ)) (indices : List Nat) :
    Except RasterFault (List (Band σ)) :=
  if indices = List.range bands.length then .ok bands
  else
    indices.mapM fun i =>
      match bands[i]? with
      | some b => .ok b
      | none => .error (.missingBand bands.length (i + 1))

namespace Raster

variable {α σ : Type}

/-- The number of samples of a band, as a 64-bit word. -/
def sampleCount (width height : Nat) : Nat :=
  width * height % UInt64.size

/-- Lays bands over an envelope. The reference system is taken easting first. -/
def make (width height : Nat) (bands : List (Band σ)) (envelope : Envelope α) (crs : Crs) :
    Except RasterFault (Raster α σ) :=
  if width = 0 ∨ height = 0 then .error (.empty width height)
  else
    match bands.find? fun b => b.data.size ≠ sampleCount width height with
    | some b => .error (.sampleCount b.name b.data.size (sampleCount width height))
    | none =>
      .ok ⟨width, height, bands, { envelope with crs := some crs.eastingFirst }, crs.eastingFirst⟩

structure WellFormed (r : Raster α σ) : Prop where
  width_pos : 0 < r.width
  height_pos : 0 < r.height
  size_eq : ∀ b ∈ r.bands, b.data.size = r.width * r.height
  crs_eq : r.envelope.crs = some r.crs
  order_eq : r.crs.order = .eastingFirst

variable [Scalar α]

def resolutionX (r : Raster α σ) : α :=
  r.envelope.bounds.width / Scalar.ofNat r.width

def resolutionY (r : Raster α σ) : α :=
  r.envelope.bounds.height / Scalar.ofNat r.height

def get? (r : Raster α σ) (band col row : Nat) : Option σ :=
  if r.width ≤ col ∨ r.height ≤ row then none
  else r.bands[band]? >>= fun b => b.data[row * r.width + col]?

/-- The sample of the cell around a place; places on the far borders belong to the last cells. -/
def at? (r : Raster α σ) (band : Nat) (p : Point α) : Option σ :=
  let b := r.envelope.bounds
  if b.holds p then
    let col := Scalar.toCount (Scalar.floor ((p.x - b.minX) / r.resolutionX))
    let row := Scalar.toCount (Scalar.floor ((b.maxY - p.y) / r.resolutionY))
    r.get? band (min col (r.width - 1)) (min row (r.height - 1))
  else none

def gridGeometry (r : Raster α σ) : Except GridFault (GridGeometry α) :=
  GridGeometry.ofEnvelope r.envelope r.width r.height

end Raster

end GeoRaster
