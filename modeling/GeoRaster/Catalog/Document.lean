import GeoRaster.Catalog
import GeoRaster.Yaml.Parser
import GeoRaster.Yaml.Record

namespace GeoRaster

structure DeclaredCoverage (α : Type) where
  id : String
  title : Option String
  crs : String
  envelope : Bounds α
  width : Nat
  height : Nat
  bands : List (BandDefinition α)
  formats : List String
  nativeFormat : Option String
  crsList : List String
  interpolations : List String
  defaultInterpolation : Option String
  dataPath : Option String

variable {α : Type} [Scalar α]

open Yaml.Node

def BandDefinition.ofNode (v : Yaml.Node) : Yaml.Reading (BandDefinition α) := do
  let f ← fields ["name", "description", "no_data"] v
  return ⟨← required f 0 text, (← optional f 1 text).getD "", ← defaulted f 2 [] (list real)⟩

def Bounds.ofNode (v : Yaml.Node) : Yaml.Reading (Bounds α) := do
  match ← list real v with
  | [minX, minY, maxX, maxY] => return ⟨minX, minY, maxX, maxY⟩
  | _ => failure

namespace DeclaredCoverage

def fieldNames : List String :=
  ["id", "title", "crs", "envelope", "width", "height", "bands", "formats", "native_format",
    "crs_list", "interpolations", "default_interpolation", "data_path"]

def ofNode (v : Yaml.Node) : Yaml.Reading (DeclaredCoverage α) := do
  let f ← fields fieldNames v
  return {
    id := ← required f 0 text
    title := ← optional f 1 text
    crs := ← required f 2 text
    envelope := ← required f 3 Bounds.ofNode
    width := ← required f 4 count
    height := ← required f 5 count
    bands := ← required f 6 (list BandDefinition.ofNode)
    formats := ← defaulted f 7 [] (list text)
    nativeFormat := ← optional f 8 text
    crsList := ← defaulted f 9 [] (list text)
    interpolations := ← defaulted f 10 [] (list text)
    defaultInterpolation := ← optional f 11 text
    dataPath := ← optional f 12 text }

/-- Everything that a coverage may leave out. A default method counts only where methods are
listed. -/
def complete (c : DeclaredCoverage α) (d : CoverageDescriptor α) : CoverageDescriptor α :=
  let d := { d with
    title := c.title.getD d.title
    supportedFormats := c.formats
    nativeFormat := c.nativeFormat }
  let d := if c.crsList.isEmpty then d else d.withCrsList c.crsList
  if c.interpolations.isEmpty then d
  else d.withInterpolations c.interpolations c.defaultInterpolation

def describe (c : DeclaredCoverage α) : Except (EntryFault α) (CoverageDescriptor α) :=
  let b := c.envelope
  match Crs.ofIdentifier? c.crs with
  | none => .error (.crs c.crs)
  | some crs =>
    if c.width = 0 ∨ c.height = 0 then .error (.noCells c.width c.height)
    else if c.bands.isEmpty then .error .noBands
    else if !(b.minX < b.maxX && b.minY < b.maxY) then .error (.envelope b)
    else
      match GridGeometry.ofEnvelope (.ofBounds b (some crs.eastingFirst)) c.width c.height with
      | .ok grid => .ok (c.complete (.make c.id crs grid c.bands))
      | .error f => .error (.grid f)

end DeclaredCoverage

def resolvePath (directory : Option String) (path : String) : String :=
  match directory with
  | none => path
  | some d =>
    if path.startsWith "/" || d.isEmpty then path
    else if d.endsWith "/" then d ++ path
    else d ++ "/" ++ path

namespace Catalog

def declare (directory : Option String) (c : Catalog α) (coverage : DeclaredCoverage α) :
    Except (CatalogFault α) (Catalog α) :=
  match coverage.describe with
  | .ok d => c.insertEntry ⟨d, coverage.dataPath.map (resolvePath directory)⟩
  | .error f => .error (.invalid coverage.id f)

def declaredOfNode (v : Yaml.Node) : Yaml.Reading (List (DeclaredCoverage α)) := do
  required (← fields ["coverages"] v) 0 (list DeclaredCoverage.ofNode)

def declaredOfText? (text : String) : Option (List (DeclaredCoverage α)) := do
  (← Yaml.Document.ofText? text).decode? declaredOfNode

def ofText (directory : Option String) (text : String) : Except (CatalogFault α) (Catalog α) :=
  match declaredOfText? text with
  | none => .error .unreadable
  | some coverages => coverages.foldlM (declare directory) empty

end Catalog

end GeoRaster
