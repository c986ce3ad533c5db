import GeoRaster.Scalar

namespace GeoRaster

structure Point (α : Type) where
  x : α
  y : α
  deriving DecidableEq, Inhabited

structure Bounds (α : Type) where
  minX : α
  minY : α
  maxX : α
  maxY : α
  deriving DecidableEq, Inhabited

namespace Bounds

variable {α : Type} [Scalar α]

@[inline] def width (b : Bounds α) : α :=
  b.maxX - b.minX

@[inline] def height (b : Bounds α) : α :=
  b.maxY - b.minY

@[inline] def holds (b : Bounds α) (p : Point α) : Bool :=
  b.minX ≤ p.x && p.x ≤ b.maxX && b.minY ≤ p.y && p.y ≤ b.maxY

def empty : Bounds α :=
  ⟨Scalar.infinity, Scalar.infinity, -Scalar.infinity, -Scalar.infinity⟩

def insert (b : Bounds α) (p : Point α) : Bounds α :=
  ⟨Scalar.min b.minX p.x, Scalar.min b.minY p.y, Scalar.max b.maxX p.x, Scalar.max b.maxY p.y⟩

def hull (points : List (Point α)) : Bounds α :=
  points.foldl insert empty

end Bounds

end GeoRaster
