import GeoRaster.Grid.Affine
import GeoRaster.Grid.Range

namespace GeoRaster

structure GridGeometry (α : Type) where
  range : GridRange
  transform : Affine α
  crs : Option Crs
  planar : range.IsPlanar

inductive GridFault where
  | dimension (grid crs : Nat)
  | empty (range : GridRange)
  deriving DecidableEq

def indexList (is : List Int64) : String :=
  "[" ++ ", ".intercalate (is.map fun i => toString i.toInt) ++ "]"

def GridFault.message : GridFault → String
  | .dimension grid crs =>
    "Grid range has " ++ toString grid ++ " dimensions but the CRS has " ++ toString crs
  | .empty range =>
    "Grid range is empty: low " ++ indexList range.low ++ ", high " ++ indexList range.high

namespace GridGeometry

variable {α : Type} [Scalar α]

def ofRange (range : GridRange) (transform : Affine α) (crs : Option Crs) :
    Except GridFault (GridGeometry α) :=
  if h : range.IsPlanar then .ok ⟨range, transform, crs, h⟩
  else if range.low.length = 2 ∧ range.high.length = 2 then .error (.empty range)
  else .error (.dimension range.dimension 2)

def ofEnvelope (e : Envelope α) (width height : Nat) : Except GridFault (GridGeometry α) :=
  ofRange (.ofSize width height) (.ofBounds e.bounds width height) (e.crs.map Crs.eastingFirst)

def width (g : GridGeometry α) : Nat :=
  g.range.width

def height (g : GridGeometry α) : Nat :=
  g.range.height

def low (g : GridGeometry α) (axis : Nat) : Int64 :=
  g.range.low.getD axis 0

def high (g : GridGeometry α) (axis : Nat) : Int64 :=
  g.range.high.getD axis 0

def corners (g : GridGeometry α) : List (Point α) :=
  let l0 : α := Scalar.ofInt64 (g.low 0)
  let l1 : α := Scalar.ofInt64 (g.low 1)
  let h0 : α := Scalar.ofInt64 (g.high 0) + 1.0
  let h1 : α := Scalar.ofInt64 (g.high 1) + 1.0
  [g.transform.apply l0 l1, g.transform.apply h0 l1, g.transform.apply l0 h1,
    g.transform.apply h0 h1]

def envelope (g : GridGeometry α) : Envelope α :=
  let b := Bounds.hull g.corners
  .ofCorners (b.minX, b.minY) (b.maxX, b.maxY) (g.crs.map Crs.eastingFirst)

end GridGeometry

end GeoRaster
