import GeoRaster.Envelope
import GeoRaster.Projection.Transformation

namespace GeoRaster

variable {α : Type} [Scalar α]

namespace Bounds

def borderPoints (b : Bounds α) (fraction : α) : List (Point α) :=
  let x := b.minX + fraction * (b.maxX - b.minX)
  let y := b.minY + fraction * (b.maxY - b.minY)
  [⟨x, b.minY⟩, ⟨x, b.maxY⟩, ⟨b.minX, y⟩, ⟨b.maxX, y⟩]

def border (b : Bounds α) (samples : Nat) : List (Point α) :=
  let samples := max samples 2
  (List.range samples).flatMap fun i =>
    b.borderPoints (Scalar.ofNat i / Scalar.ofNat (samples - 1))

/-- A box that holds a central pole reaches it and goes all the way round. -/
def aroundPole (b : Bounds α) (pole : Pole α) : Bounds α :=
  ⟨-180.0, Scalar.min b.minY pole.latitude, 180.0, Scalar.max b.maxY pole.latitude⟩

end Bounds

namespace Envelope

def borderSamples : Nat := 21

/-- The box around the counterparts of the sampled border. -/
def hullOfBorder (t : Transformation α) (b : Bounds α) :
    Except (ProjectionFault α) (Bounds α) := do
  let images ← (b.border borderSamples).mapM t.apply
  let h := Bounds.hull images
  return match t.source.pole with
    | some pole => if t.targetCode.isGeographic && b.holds pole.place then h.aroundPole pole else h
    | none => h

/-- The bounds of a box on the other side of a transformation. Between cylindrical systems the
lower and upper corners stay what they are. -/
def transformBounds (t : Transformation α) (b : Bounds α) :
    Except (ProjectionFault α) (Bounds α) := do
  if t.isIdentity then return b
  else if t.sourceCode.isCylindrical && t.targetCode.isCylindrical then
    let lower ← t.apply ⟨b.minX, b.minY⟩
    let upper ← t.apply ⟨b.maxX, b.maxY⟩
    return ⟨lower.x, lower.y, upper.x, upper.y⟩
  else hullOfBorder t b

def transform [Atlas α] (e : Envelope α) (target : Crs) :
    Except (ProjectionFault α) (Envelope α) :=
  if e.dimension ≠ 2 then .error (.dimension e.dimension)
  else
    match e.crs with
    | none => .error .noCrs
    | some source => do
      let b ← transformBounds (.between source.code target.code) e.bounds
      return .ofBounds b (some target)

def isGeographic (e : Envelope α) : Bool :=
  (e.crs.map Crs.isGeographic).getD false

/-- The part of a geographic envelope that a target system shows; none if it shows no area of it.
Other envelopes stay as they are. -/
def shownIn? [Atlas α] (e : Envelope α) (target : Crs.Code) : Option (Envelope α) :=
  if e.isGeographic then
    let p : Projection α := Atlas.projection target
    let b := e.bounds
    let minY := Scalar.max b.minY p.south
    let maxY := Scalar.min b.maxY p.north
    if maxY ≤ minY then none else some (.ofBounds ⟨b.minX, minY, b.maxX, maxY⟩ e.crs)
  else some e

end Envelope

end GeoRaster
