import GeoRaster.Crs
import GeoRaster.Decimal.Basic
import GeoRaster.Text.Basic
import GeoRaster.Text.LowerCase

namespace GeoRaster.Crs

def identifier (c : Crs) : String :=
  match c.order with
  | .northingFirst => "urn:ogc:def:crs:EPSG::" ++ toString c.code.epsg
  | .eastingFirst => c.code.text

def numberlessNames : List String :=
  ["crs:84", "ogc:crs84", "urn:ogc:def:crs:ogc:1.3:crs84", "urn:ogc:def:crs:ogc::crs84",
    "http://www.opengis.net/def/crs/ogc/1.3/crs84"]

/-- A way to write a numbered name, in lower case: what comes before the number. Where segments
with a separator may come between, the last one is the number and the registry's order holds. -/
structure NumberedForm where
  lead : String
  separator : Option Char

def numberedForms : List NumberedForm :=
  [⟨"epsg:", none⟩,
    ⟨"urn:ogc:def:crs:epsg:", some ':'⟩,
    ⟨"urn:x-ogc:def:crs:epsg:", some ':'⟩,
    ⟨"http://www.opengis.net/def/crs/epsg/", some '/'⟩,
    ⟨"http://www.opengis.net/gml/srs/epsg.xml#", none⟩]

def NumberedForm.number? (f : NumberedForm) (name : List Char) : Option (List Char) :=
  (Text.dropLead? f.lead.toList name).map fun rest =>
    match f.separator with
    | some s => Text.lastSegment s rest
    | none => rest

def NumberedForm.system (f : NumberedForm) (c : Code) : Crs :=
  if f.separator.isSome then inRegistryOrder c else ofCode c

def ofLowerName? (name : List Char) : Option Crs :=
  if numberlessNames.contains (String.ofList name) then some (ofCode .wgs84)
  else do
    let (form, number) ←
      numberedForms.findSome? fun f => (f.number? name).map fun number => (f, number)
    let n ← Text.readNat? (UInt32.size - 1) number
    let code ← Code.ofEpsg? n
    some (form.system code)

/-- Reads a name; case and blanks around it do not matter. -/
def ofIdentifier? (s : String) : Option Crs :=
  ofLowerName? (Text.lowerFrom [] (Text.trimList s.toList))

def unsupportedMessage (s : String) : String :=
  "Unsupported CRS: " ++ s

end GeoRaster.Crs
