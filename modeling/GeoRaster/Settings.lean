import GeoRaster.Decimal.Basic
import GeoRaster.Decimal.Layout
import GeoRaster.Interpolation
import GeoRaster.Json.Record
import GeoRaster.Scalar.Machine

namespace GeoRaster

structure Duration where
  nanoseconds : Nat
  deriving DecidableEq, Inhabited

namespace Duration

def perSecond : Nat := 1000000000

def ofSeconds (n : Nat) : Duration :=
  ⟨n * perSecond⟩

def ofMilliseconds (n : Nat) : Duration :=
  ⟨n * 1000000⟩

def isZero (d : Duration) : Bool :=
  d.nanoseconds = 0

/-- The seconds as a number: whole ones and the fraction are rounded apart. -/
def toSeconds (d : Duration) : Float :=
  let whole : Float := Scalar.ofNat (d.nanoseconds / perSecond)
  let rest : Float := Scalar.ofNat (d.nanoseconds % perSecond)
  whole + rest / 1000000000.0

/-- The nearest whole nanosecond. Negative and undefined spans are refused, and those whose seconds
are no 64-bit word. -/
def ofSeconds? (x : Float) : Option Duration :=
  match BinaryValue.ofFloat x with
  | .finite negative m q =>
    if negative && m ≠ 0 then none
    else
      let (num, den) := BinaryValue.quotient (m * perSecond) q
      let d := Decimal.roundQuotient num den
      if d / perSecond < UInt64.size then some ⟨d⟩ else none
  | _ => none

end Duration

structure Settings where
  readTimeout : Duration
  maxOutputValues : Nat
  defaultInterpolation : Interpolation
  parallelBands : Bool
  deriving DecidableEq, Inhabited

namespace Settings

def standard : Settings :=
  ⟨.ofSeconds 30, 100000000, .nearest, true⟩

def readCount? (s : String) : Option Nat :=
  Text.readNat? (UInt64.size - 1) s.toList

/-- The standard settings with those that the environment sets. A value that cannot be read leaves
the standard one. -/
def ofEnvironment (lookup : String → Option String) : Settings where
  readTimeout :=
    (((lookup "WCS_READ_TIMEOUT_SECS") >>= readCount?).map Duration.ofSeconds).getD
      standard.readTimeout
  maxOutputValues :=
    ((lookup "WCS_MAX_OUTPUT_PIXELS") >>= readCount?).getD standard.maxOutputValues
  defaultInterpolation :=
    ((lookup "WCS_DEFAULT_INTERPOLATION") >>= Interpolation.ofName?).getD
      standard.defaultInterpolation
  parallelBands :=
    match lookup "WCS_PARALLEL_BANDS" with
    | some v => Text.lower v == "true" || v == "1"
    | none => standard.parallelBands

def problem? (s : Settings) : Option String :=
  if s.readTimeout.isZero then some "read_timeout must be > 0"
  else if s.maxOutputValues = 0 then some "max_output_pixels must be > 0"
  else none

def interpolationOfDocument? : Json Float → Option Interpolation
  | .string s => named s
  | .object [(s, .null)] => named s
  | _ => none
where
  named (s : String) : Option Interpolation :=
    [Interpolation.nearest, .bilinear, .cubic].find? (·.text == s)

def ofDocument? (d : Json Float) : Option Settings := do
  let f ← Json.fields?
    ["read_timeout", "max_output_pixels", "default_interpolation", "parallel_bands"] d
  let seconds ← f.required 0 Json.real?
  return {
    readTimeout := ← Duration.ofSeconds? seconds
    maxOutputValues := ← f.required 1 Json.count?
    defaultInterpolation := ← f.required 2 interpolationOfDocument?
    parallelBands := ← f.required 3 Json.bool? }

def toDocument (s : Settings) : Json Float :=
  .object [("read_timeout", .real s.readTimeout.toSeconds),
    ("max_output_pixels", .integer s.maxOutputValues),
    ("default_interpolation", .string s.defaultInterpolation.text),
    ("parallel_bands", .bool s.parallelBands)]

end Settings

end GeoRaster
