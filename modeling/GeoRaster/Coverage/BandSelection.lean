import GeoRaster.Coverage.Descriptor
import GeoRaster.Request

namespace GeoRaster

inductive RangeFault where
  | severalAxes (count : Nat)
  | axis (name : String)
  | noValues
  | unknownBand (key : String)
  | bandOutOfRange (number count : Nat)
  | reversed (min max : String)
  | step (text : String)
  | interpolation (name : String) (offered : List String)
  deriving DecidableEq

def RangeFault.message : RangeFault → String
  | .severalAxes count =>
    "multi-axis range subsets are not supported, got " ++ toString count ++ " axes"
  | .axis name => "unknown range axis '" ++ name ++ "', expected 'Band'"
  | .noValues => "band subset lists no values"
  | .unknownBand key => "unknown band '" ++ key ++ "'"
  | .bandOutOfRange number count =>
    "band index " ++ toString number ++ " is out of range, the coverage has " ++ toString count ++
      " bands"
  | .reversed min max => "band interval " ++ min ++ ".." ++ max ++ " is reversed"
  | .step text => "band interval step '" ++ text ++ "' is not a positive integer"
  | .interpolation name offered =>
    "interpolation '" ++ name ++ "' is not supported, expected one of: " ++
      ", ".intercalate offered

namespace BandSelection

/-- A band's name as it is compared: without blanks around it, with underscores for spaces, in
lower case. -/
def nameKey (name : String) : List Char :=
  Text.lowerFrom [] ((Text.trimList name.toList).map fun c => if c = ' ' then '_' else c)

def named? (names : List String) (key : String) : Option Nat :=
  names.findIdx? fun n => nameKey n == nameKey key

/-- The place of the band with a name, or else with a number counted from one. -/
def lookup (names : List String) (key : String) : Except RangeFault Nat :=
  match named? names key with
  | some i => .ok i
  | none =>
    match Text.readNat? maxCount (Text.trimList key.toList) with
    | none => .error (.unknownBand key)
    | some n =>
      if n = 0 ∨ names.length < n then .error (.bandOutOfRange n names.length) else .ok (n - 1)

/-- The distance between selected bands: one unless a positive number is given. -/
def readStep : Option String → Except RangeFault Nat
  | none => .ok 1
  | some s =>
    let t := Text.trimList s.toList
    if t.isEmpty then .ok 1
    else
      match Text.readNat? maxCount t with
      | some (n + 1) => .ok (n + 1)
      | _ => .error (.step (String.ofList t))

def stepped (low high step : Nat) : List Nat :=
  (List.range ((high - low) / step + 1)).map fun i => low + step * i

def resolve (names : List String) : Option AxisSelection → Except RangeFault (List Nat)
  | none => .ok (List.range names.length)
  | some (.values keys) =>
    if keys.isEmpty then .error .noValues else keys.mapM (lookup names)
  | some (.interval min max step) => do
    let low ← lookup names min
    let high ← lookup names max
    if high < low then .error (.reversed min max)
    else do
      let step ← readStep step
      return stepped low high step

end BandSelection

def CoverageDescriptor.selectBands {α : Type} (d : CoverageDescriptor α)
    (subset : Option AxisSubset) : Except RangeFault (List Nat) :=
  BandSelection.resolve (d.bands.map BandDefinition.name) (subset.map AxisSubset.selection)

end GeoRaster
