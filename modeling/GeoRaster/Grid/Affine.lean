import GeoRaster.Envelope

namespace GeoRaster

/-- The map `x = scaleX · col + shearX · row + translateX`,
`y = shearY · col + scaleY · row + translateY`. -/
structure Affine (α : Type) where
  scaleX : α
  shearX : α
  translateX : α
  shearY : α
  scaleY : α
  translateY : α
  deriving DecidableEq, Inhabited

namespace Affine

variable {α : Type} [Scalar α]

def identity : Affine α := ⟨1.0, 0.0, 0.0, 0.0, 1.0, 0.0⟩

def isIdentity (t : Affine α) : Bool :=
  let i : Affine α := identity
  t.scaleX == i.scaleX && t.shearX == i.shearX && t.translateX == i.translateX &&
    t.shearY == i.shearY && t.scaleY == i.scaleY && t.translateY == i.translateY

def ofOrigin (originX originY offsetX offsetY : α) : Affine α :=
  ⟨offsetX, 0.0, originX, 0.0, offsetY, originY⟩

def ofBounds (b : Bounds α) (width height : Nat) : Affine α :=
  ofOrigin b.minX b.maxY (b.width / Scalar.ofNat (max width 1))
    (-b.height / Scalar.ofNat (max height 1))

def apply (t : Affine α) (col row : α) : Point α :=
  ⟨t.scaleX * col + t.shearX * row + t.translateX, t.shearY * col + t.scaleY * row + t.translateY⟩

/-- The map back, by cofactors of the matrix whose third row is `0 0 1`; none where the determinant
is zero. -/
def inverse? (t : Affine α) : Option (Affine α) :=
  let m31 : α := 0.0
  let m32 : α := 0.0
  let m33 : α := 1.0
  let a := t.scaleY * m33 - m32 * t.translateY
  let b := t.shearY * m33 - m31 * t.translateY
  let c := t.shearY * m32 - m31 * t.scaleY
  let det := t.scaleX * a - t.shearX * b + t.translateX * c
  if det == 0.0 then none
  else
    some {
      scaleX := a / det
      shearX := (t.translateX * m32 - m33 * t.shearX) / det
      translateX := (t.shearX * t.translateY - t.scaleY * t.translateX) / det
      shearY := -b / det
      scaleY := (t.scaleX * m33 - m31 * t.translateX) / det
      translateY := (t.translateX * t.shearY - t.translateY * t.scaleX) / det }

end Affine

end GeoRaster
