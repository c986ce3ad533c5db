import GeoRaster.Coverage.Descriptor
import GeoRaster.Crs
import GeoRaster.Envelope.Transformed

namespace GeoRaster

inductive EnvelopeFault (α : Type) where
  | dimension (axes : Nat)
  | notFinite
  | projection (f : ProjectionFault α)
  | inverted (b : Bounds α)
  deriving DecidableEq

def EnvelopeFault.message {α : Type} [ShortestText α] : EnvelopeFault α → String
  | .dimension axes => "expected a 2-D envelope, got " ++ toString axes ++ " axes"
  | .notFinite => "envelope bounds must be finite"
  | .projection f => f.message
  | .inverted b =>
    "envelope [" ++ ", ".intercalate [inWords b.minX, inWords b.minY, inWords b.maxX,
      inWords b.maxY] ++ "] has a lower bound above its upper bound"

variable {α : Type} [Scalar α]

/-- Moves one bound of an inverted pair by a whole turn: the upper one up, unless it would then lie
beyond the reference, else the lower one down. -/
def Interval.unwrap (turn : α) (limit : Option α) (a : Interval α) : Interval α :=
  if a.min ≤ a.max then a
  else
    match limit with
    | some m => if m < a.max + turn then ⟨a.min - turn, a.max⟩ else ⟨a.min, a.max + turn⟩
    | none => ⟨a.min, a.max + turn⟩

namespace Envelope

def unwrapEast (e : Envelope α) (reference : Option (Envelope α)) : Envelope α :=
  match e.crs with
  | none => e
  | some crs =>
    if crs.isGeographic then
      let limit := reference.map fun r => r.easting.max
      let unwrapAxis (axis : Interval α) (i : Nat) : Interval α :=
        match (crs.axes : List (Crs.Axis α))[i]? with
        | some a => if a.direction = .east then axis.unwrap a.range limit else axis
        | none => axis
      { e with axes := e.axes.zipIdx.map fun (axis, i) => unwrapAxis axis i }
    else e

def isFinite (e : Envelope α) : Bool :=
  e.axes.all fun a => Scalar.isFinite a.min && Scalar.isFinite a.max

end Envelope

namespace CoverageDescriptor

variable [Atlas α]

def referenceIn (d : CoverageDescriptor α) (source : Crs) : Option (Envelope α) :=
  match d.nativeEnvelope.transform source with
  | .ok e => some e.eastingFirst
  | .error _ => none

/-- The requested envelope in the native system, easting first. Without a system of its own it is
in the native one. -/
def resolveEnvelope (d : CoverageDescriptor α) (request : Envelope α) :
    Except (EnvelopeFault α) (Envelope α) :=
  if request.dimension ≠ 2 then .error (.dimension request.dimension)
  else if !request.isFinite then .error .notFinite
  else
    let native := d.nativeCrs.eastingFirst
    let source := request.crs.getD d.nativeCrs
    let requested := { request with crs := some source }
    let unwrapped :=
      if source.isGeographic then requested.unwrapEast (d.referenceIn source) else requested
    match unwrapped.transform native with
    | .error f => .error (.projection f)
    | .ok e =>
      let resolved :=
        if !source.isGeographic && native.isGeographic then e.unwrapEast (some d.nativeEnvelope)
        else e
      if resolved.isValid then .ok resolved else .error (.inverted resolved.bounds)

end CoverageDescriptor

end GeoRaster
