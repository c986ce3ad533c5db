import GeoRaster.Crs.Identifier
import GeoRaster.Envelope
import GeoRaster.Json.Record

namespace GeoRaster

variable {α : Type} [Scalar α]

namespace Crs

def toDocument (c : Crs) : Json α :=
  .string c.identifier

def ofDocument? (d : Json α) : Option Crs :=
  Json.string? d >>= ofIdentifier?

end Crs

namespace Interval

def toDocument (a : Interval α) : Json α :=
  .object [("min", .ofScalar a.min), ("max", .ofScalar a.max)]

def ofDocument? (d : Json α) : Option (Interval α) := do
  let f ← Json.fields? ["min", "max"] d
  return ⟨← f.required 0 Json.real?, ← f.required 1 Json.real?⟩

end Interval

namespace Envelope

def toDocument (e : Envelope α) : Json α :=
  let axes := ("axes", Json.array (e.axes.map Interval.toDocument))
  match e.crs with
  | some c => .object [axes, ("crs", c.toDocument)]
  | none => .object [axes]

def ofDocument? (d : Json α) : Option (Envelope α) := do
  let f ← Json.fields? ["axes", "crs"] d
  return ⟨← f.required 0 (Json.list? Interval.ofDocument?),
    ← f.defaulted 1 none (Json.nullable Crs.ofDocument?)⟩

end Envelope

end GeoRaster
