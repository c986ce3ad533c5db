import GeoRaster.Grid.Document
import GeoRaster.Request

namespace GeoRaster

variable {α : Type} [Scalar α]

def Json.ofStrings (ss : List String) : Json α :=
  .array (ss.map .string)

def Json.strings? (d : Json α) : Option (List String) :=
  Json.list? Json.string? d

def Json.Fields.free {τ : Type} (f : Json.Fields α) (i : Nat) (decode : Json α → Option τ) :
    Option (Option τ) :=
  f.defaulted i none (Json.nullable decode)

namespace RequestGrid

def pair (p : α × α) : Json α :=
  .array [.ofScalar p.1, .ofScalar p.2]

def toDocument (g : RequestGrid α) : Json α :=
  .object [("range", .ofOption GridRange.toDocument g.range), ("origin", .ofOption pair g.origin),
    ("offsets", .ofOption pair g.offsets)]

def ofDocument? (d : Json α) : Option (RequestGrid α) := do
  let f ← Json.fields? ["range", "origin", "offsets"] d
  return ⟨← f.free 0 GridRange.ofDocument?, ← f.free 1 (Json.pair? Json.real?),
    ← f.free 2 (Json.pair? Json.real?)⟩

end RequestGrid

namespace DomainSubset

def toDocument (s : DomainSubset α) : Json α :=
  .object [("envelope", .ofOption Envelope.toDocument s.envelope),
    ("grid", .ofOption RequestGrid.toDocument s.grid)]

def ofDocument? (d : Json α) : Option (DomainSubset α) := do
  let f ← Json.fields? ["envelope", "grid"] d
  return ⟨← f.free 0 Envelope.ofDocument?, ← f.free 1 RequestGrid.ofDocument?⟩

end DomainSubset

namespace AxisSelection

def toDocument : AxisSelection → Json α
  | .values names => .object [("values", .ofStrings names)]
  | .interval min max step =>
    .object [("interval", .object [("min", .string min), ("max", .string max),
      ("step", .ofOption .string step)])]

def intervalOfDocument? (d : Json α) : Option AxisSelection := do
  let f ← Json.fields? ["min", "max", "step"] d
  return .interval (← f.required 0 Json.string?) (← f.required 1 Json.string?)
    (← f.free 2 Json.string?)

def ofDocument? : Json α → Option AxisSelection
  | .object [(kind, d)] =>
    if kind = "values" then (Json.strings? d).map .values
    else if kind = "interval" then intervalOfDocument? d
    else none
  | _ => none

end AxisSelection

namespace AxisSubset

def toDocument (s : AxisSubset) : Json α :=
  .object [("axis", .string s.axis), ("selection", s.selection.toDocument)]

def ofDocument? (d : Json α) : Option AxisSubset := do
  let f ← Json.fields? ["axis", "selection"] d
  return ⟨← f.required 0 Json.string?, ← f.required 1 AxisSelection.ofDocument?⟩

def listToDocument (axes : List AxisSubset) : Json α :=
  .object [("axes", .array (axes.map toDocument))]

def listOfDocument? (d : Json α) : Option (List AxisSubset) := do
  let f ← Json.fields? ["axes"] d
  f.defaulted 0 [] (Json.list? ofDocument?)

end AxisSubset

namespace OutputSpec

def toDocument (o : OutputSpec) : Json α :=
  .object [("format", .string o.format), ("crs", .ofOption .string o.crs)]

def ofDocument? (d : Json α) : Option OutputSpec := do
  let f ← Json.fields? ["format", "crs"] d
  return ⟨← f.required 0 Json.string?, ← f.free 1 Json.string?⟩

end OutputSpec

namespace CoverageRequest

def toDocument (r : CoverageRequest α) : Json α :=
  .object [("coverage_id", .string r.coverageId), ("domain_subset", r.domain.toDocument),
    ("range_subset", AxisSubset.listToDocument r.range),
    ("interpolation", .ofOption .string r.interpolation), ("output", r.output.toDocument)]

def ofDocument? (d : Json α) : Option (CoverageRequest α) := do
  let f ← Json.fields?
    ["coverage_id", "domain_subset", "range_subset", "interpolation", "output"] d
  return {
    coverageId := ← f.required 0 Json.string?
    domain := ← f.defaulted 1 ⟨none, none⟩ DomainSubset.ofDocument?
    range := ← f.defaulted 2 [] AxisSubset.listOfDocument?
    interpolation := ← f.free 3 Json.string?
    output := ← f.required 4 OutputSpec.ofDocument? }

end CoverageRequest

end GeoRaster
