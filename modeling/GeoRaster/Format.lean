import GeoRaster.Text.Basic
import GeoRaster.Text.LowerCase
import GeoRaster.Text.Quoted

namespace GeoRaster

structure Encoder where
  name : String
  mimeType : String
  aliases : List String
  deriving DecidableEq

namespace Encoder

def names (e : Encoder) : List String :=
  e.name :: e.mimeType :: e.aliases

def produces (e : Encoder) (requested : String) : Bool :=
  let name := Text.trim requested
  e.names.any (Text.sameIgnoringCase · name)

def standard : List Encoder :=
  [⟨"GeoTIFF", "image/tiff",
      ["image/geotiff", "geotiff", "tiff", "image/tiff;subtype=\"geotiff\""]⟩,
    ⟨"ArcGrid", "text/plain", ["application/arcgrid", "arcgrid", "asc"]⟩,
    ⟨"PNG", "image/png", ["png"]⟩,
    ⟨"JPEG", "image/jpeg", ["jpeg", "jpg"]⟩,
    ⟨"GIF", "image/gif", ["gif"]⟩,
    ⟨"NetCDF", "application/x-netcdf", ["netcdf", "nc"]⟩]

def find? (registry : List Encoder) (name : String) : Option Encoder :=
  registry.find? (·.produces name)

def listText (registry : List Encoder) : String :=
  "[" ++ ", ".intercalate (registry.map fun e => Text.quoted e.name) ++ "]"

end Encoder

/-- A format as the coverage declares it, with its encoder if there is one. -/
structure ResolvedFormat where
  declared : String
  encoder : Option String
  mimeType : Option String
  deriving DecidableEq

def ResolvedFormat.make (declared : String) (encoder : Option Encoder) : ResolvedFormat :=
  ⟨declared, encoder.map Encoder.name, encoder.map Encoder.mimeType⟩

inductive FormatFault where
  | missing
  | unsupported (requested : String) (candidates : List String)
  deriving DecidableEq

def FormatFault.message : FormatFault → String
  | .missing => "an output format is required"
  | .unsupported requested candidates =>
    "format '" ++ requested ++ "' is not supported, expected one of: " ++
      ", ".intercalate candidates

namespace ResolvedFormat

def byEncoder? (registry : List Encoder) (requested : String) : List String →
    Option ResolvedFormat
  | [] => none
  | declared :: rest =>
    match Encoder.find? registry declared with
    | some e =>
      if e.produces requested then some (make declared (some e))
      else byEncoder? registry requested rest
    | none => byEncoder? registry requested rest

/-- The candidate with the requested name, else one with the same encoder. -/
def among (registry : List Encoder) (candidates : List String) (requested : String) :
    Except FormatFault ResolvedFormat :=
  let requested := Text.trim requested
  if requested.isEmpty then .error .missing
  else
    match candidates.find? (Text.sameIgnoringCase · requested) with
    | some declared => .ok (make declared (Encoder.find? registry declared))
    | none =>
      match byEncoder? registry requested candidates with
      | some f => .ok f
      | none => .error (.unsupported requested candidates)

end ResolvedFormat

end GeoRaster
