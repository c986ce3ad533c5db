import GeoRaster.Grid.Geometry
import GeoRaster.Projection.Transformation
import GeoRaster.Request

namespace GeoRaster

inductive PlanningFault (α : Type) where
  | range (r : GridRange)
  | offsets (x y : α)
  | origin (x y : α)
  | geometry (f : GridFault)
  | singular
  | overflow (o : Overflow)
  deriving DecidableEq

def PlanningFault.message {α : Type} [ShortestText α] : PlanningFault α → String
  | .range r =>
    "grid range low " ++ indexList r.low ++ " must not exceed high " ++ indexList r.high
  | .offsets x y => "grid offsets " ++ Decimal.listText [x, y] ++ " must be finite and non-zero"
  | .origin x y => "grid origin " ++ Decimal.listText [x, y] ++ " must be finite"
  | .geometry f => f.message
  | .singular => "native grid-to-CRS transform is not invertible"
  | .overflow o => o.message

variable {α : Type} [Scalar α]

namespace RequestGrid

def checkRange : Option GridRange → Except (PlanningFault α) Unit
  | some r => if r.dimension = 2 ∧ r.isValid then .ok () else .error (.range r)
  | none => .ok ()

def checkOffsets : Option (α × α) → Except (PlanningFault α) Unit
  | some (x, y) =>
    if Scalar.isFinite x && !(x == 0.0) && Scalar.isFinite y && !(y == 0.0) then .ok ()
    else .error (.offsets x y)
  | none => .ok ()

def checkOrigin : Option (α × α) → Except (PlanningFault α) Unit
  | some (x, y) =>
    if Scalar.isFinite x && Scalar.isFinite y then .ok () else .error (.origin x y)
  | none => .ok ()

/-- Is the grid well formed? Its range is looked at first, then its offsets, then its origin. -/
def check (g : RequestGrid α) : Except (PlanningFault α) Unit := do
  checkRange g.range
  checkOffsets g.offsets
  checkOrigin g.origin

end RequestGrid

namespace GridGeometry

def plan (range : GridRange) (transform : Affine α) (crs : Option Crs) :
    Except (PlanningFault α) (GridGeometry α) :=
  match ofRange range transform crs with
  | .ok g => .ok g
  | .error f => .error (.geometry f)

def overRange (r : GridRange) (b : Bounds α) (crs : Option Crs) :
    Except (PlanningFault α) (GridGeometry α) :=
  let scaleX := b.width / Scalar.ofNat r.width
  let scaleY := -b.height / Scalar.ofNat r.height
  let low (axis : Nat) : α := Scalar.ofInt64 (r.low.getD axis 0)
  plan r (.ofOrigin (b.minX - low 0 * scaleX) (b.maxY - low 1 * scaleY) scaleX scaleY) crs

def cellsFor (span offset : α) : Nat :=
  max (Scalar.toCount (Scalar.round (span / Scalar.abs offset))) 1

/-- Cells of a given size. They start at their origin in the direction of the offsets, or without
one at the upper left corner of the box. -/
def overOffsets (offsetX offsetY : α) (origin : Option (α × α)) (b : Bounds α)
    (crs : Option Crs) : Except (PlanningFault α) (GridGeometry α) :=
  let range := GridRange.ofSize (cellsFor b.width offsetX) (cellsFor b.height offsetY)
  match origin with
  | some (x, y) => plan range (.ofOrigin x y offsetX offsetY) crs
  | none =>
    plan range (.ofOrigin b.minX b.maxY (Scalar.abs offsetX) (-Scalar.abs offsetY)) crs

/-- Cells that a box only reaches into by this part of their size do not count. -/
def snap : α := 1e-6

def firstCell (lower : α) : Int64 :=
  Scalar.toInt64 (Scalar.floor (lower + snap))

def cellBehind (upper : α) : Int64 :=
  Scalar.toInt64 (Scalar.ceil (upper - snap))

/-- The last cell that a box reaches, at least the first one. -/
def lastCell (build : Build) (first : Int64) (upper : α) : Except (PlanningFault α) Int64 :=
  match build.predecessor (cellBehind upper) with
  | .ok last => .ok (max last first)
  | .error o => .error (.overflow o)

def nativeCells (native : GridGeometry α) (build : Build) (b : Bounds α) (crs : Option Crs) :
    Except (PlanningFault α) (GridGeometry α) :=
  match native.transform.inverse? with
  | none => .error .singular
  | some inverse => do
    let h := Bounds.hull [inverse.apply b.minX b.minY, inverse.apply b.minX b.maxY,
      inverse.apply b.maxX b.minY, inverse.apply b.maxX b.maxY]
    let col := firstCell h.minX
    let row := firstCell h.minY
    let lastCol ← lastCell build col h.maxX
    let lastRow ← lastCell build row h.maxY
    plan ⟨[col, row], [lastCol, lastRow]⟩ native.transform crs

/-- The grid of an answer over a box. A request that names neither range nor offsets gets native
cells, or a single cell where the native grid has no place on the ground. -/
def planned (build : Build) (request : Option (RequestGrid α)) (native : GridGeometry α)
    (target : Envelope α) : Except (PlanningFault α) (GridGeometry α) :=
  let crs := target.crs.map Crs.eastingFirst
  let b := target.bounds
  match request with
  | none => native.nativeCells build b crs
  | some g => do
    g.check
    match g.range, g.offsets with
    | some r, _ => overRange r b crs
    | none, some (x, y) => overOffsets x y g.origin b crs
    | none, none =>
      if native.transform.isIdentity then plan (.ofSize 1 1) .identity crs
      else native.nativeCells build b crs

end GridGeometry

end GeoRaster
