import GeoRaster.Exception

namespace GeoRaster

variable {α σ : Type} [Scalar α]

structure CellSpan where
  first : Nat
  stop : Nat
  deriving DecidableEq

namespace CellSpan

def snap : α := 1e-6

/-- The cells between two distances from the border, both in cells, among `size` cells: at least
one cell. -/
def between (size : Nat) (lower upper : α) : CellSpan :=
  let first := Scalar.floor (lower + snap)
  let stop := Scalar.ceil (upper - snap)
  let first := min (Scalar.toCount (Scalar.max first 0.0)) (size - 1)
  ⟨first, min (max (Scalar.toCount (Scalar.max stop 0.0)) (first + 1)) size⟩

def length (s : CellSpan) : Nat :=
  s.stop - s.first

end CellSpan

def Band.block (b : Band σ) (width : Nat) (cols rows : CellSpan) : Band σ :=
  b.withData <| (List.range rows.length).foldl
    (fun data j =>
      let start := (rows.first + j) * width
      data ++ b.data.extract (start + cols.first) (start + cols.stop))
    #[]

namespace Raster

/-- Boxes equal up to this part of their spans are the same. -/
def sameBox : α := 1e-9

def columnsOf (r : Raster α σ) (b : Bounds α) : CellSpan :=
  let e := r.envelope.bounds
  .between r.width ((b.minX - e.minX) / r.resolutionX) ((b.maxX - e.minX) / r.resolutionX)

def rowsOf (r : Raster α σ) (b : Bounds α) : CellSpan :=
  let e := r.envelope.bounds
  .between r.height ((e.maxY - b.maxY) / r.resolutionY) ((e.maxY - b.minY) / r.resolutionY)

def blockEnvelope (r : Raster α σ) (cols rows : CellSpan) : Envelope α :=
  let e := r.envelope.bounds
  .ofCorners
    (e.minX + Scalar.ofNat cols.first * r.resolutionX,
      e.maxY - Scalar.ofNat rows.stop * r.resolutionY)
    (e.minX + Scalar.ofNat cols.stop * r.resolutionX,
      e.maxY - Scalar.ofNat rows.first * r.resolutionY)
    r.envelope.crs

def block (r : Raster α σ) (cols rows : CellSpan) : Except RasterFault (Raster α σ) :=
  make cols.length rows.length (r.bands.map (·.block r.width cols rows))
    (r.blockEnvelope cols rows) r.crs

/-- The cells that a box reaches, with the part of the box that the raster covers. A box around the
whole raster leaves it as it is. -/
def crop (r : Raster α σ) (box : Envelope α) :
    Except (Exception α) (Raster α σ × Envelope α) :=
  match r.envelope.meet? box with
  | none => .error .emptyIntersection
  | some common =>
    if common.isNear sameBox r.envelope then .ok (r, r.envelope)
    else
      let b := common.bounds
      match r.block (r.columnsOf b) (r.rowsOf b) with
      | .ok cropped => .ok (cropped, common)
      | .error f => .error (.ofRasterFault f)

end Raster

end GeoRaster
