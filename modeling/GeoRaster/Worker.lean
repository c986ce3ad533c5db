import GeoRaster.Catalog.Document
import GeoRaster.Reader.RawFile
import GeoRaster.Sidecar

namespace GeoRaster

structure WorkerInput where
  environment : String → Option String
  /-- The timeout in seconds, as it is given on the command line. -/
  readTimeout : Option String
  /-- A box that replaces the one of the request. -/
  boundingBox : Option String
  catalog : Option String
  directory : String
  request : Option String

inductive WorkerFault (α : Type) where
  | readTimeout (text : String)
  | settings (problem : String)
  | noCatalog
  | catalog (f : CatalogFault α)
  | noRequest
  | request
  | exception (e : Exception α)

namespace WorkerFault

variable {α : Type}

def report? [ShortestText α] : WorkerFault α → Option ExceptionReport
  | .exception e => some e.report
  | _ => none

/-- The exit status: 2 where the caller is at fault. -/
def status : WorkerFault α → UInt8
  | .readTimeout _ => 2
  | .exception e =>
    match e.code with
    | .invalidParameterValue => 2
    | .noApplicableCode => 1
  | _ => 1

def message [ShortestText α] : WorkerFault α → String
  | .readTimeout text => "invalid value '" ++ text ++ "' for the read timeout"
  | .settings problem => problem
  | .noCatalog => "the catalog cannot be read"
  | .catalog f => f.message
  | .noRequest => "the request cannot be read"
  | .request => "the request cannot be parsed"
  | .exception e => e.message

end WorkerFault

def ExceptionReport.toDocument {α : Type} (r : ExceptionReport) : Json α :=
  .object ([("code", .string r.code.text)] ++
    (r.locator.map fun l => ("locator", .string l)).toList ++ [("message", .string r.message)])

structure WorkerTask (α : Type) where
  settings : Settings
  catalog : Catalog α
  request : CoverageRequest α

namespace WorkerInput

variable {α : Type}

def timeout (i : WorkerInput) : Except (WorkerFault α) (Option Duration) :=
  match i.readTimeout.or (i.environment "WCS_READ_TIMEOUT_SECS") with
  | none => .ok none
  | some text =>
    match Settings.readCount? text with
    | some seconds => .ok (some (.ofSeconds seconds))
    | none => .error (.readTimeout text)

def settings (i : WorkerInput) : Except (WorkerFault α) Settings := do
  let timeout ← i.timeout
  let s := Settings.ofEnvironment i.environment
  let s := { s with readTimeout := timeout.getD s.readTimeout }
  match s.problem? with
  | some problem => .error (.settings problem)
  | none => .ok s

variable [Scalar α]

def readCatalog (i : WorkerInput) : Except (WorkerFault α) (Catalog α) :=
  match i.catalog with
  | none => .error .noCatalog
  | some text =>
    match Catalog.ofText (some i.directory) text with
    | .ok c => .ok c
    | .error f => .error (.catalog f)

def readRequest (i : WorkerInput) : Except (WorkerFault α) (CoverageRequest α) :=
  match i.request with
  | none => .error .noRequest
  | some text =>
    match Json.parse? text >>= CoverageRequest.ofDocument? with
    | some r => .ok r
    | none => .error .request

def withBox (i : WorkerInput) (r : CoverageRequest α) :
    Except (WorkerFault α) (CoverageRequest α) :=
  match i.boundingBox with
  | none => .ok r
  | some text =>
    match Envelope.ofBoundingBox text none with
    | .ok e => .ok { r with domain := { r.domain with envelope := some e } }
    | .error f => .error (.exception (.invalidParameter (.boundingBox f)))

def prepare (i : WorkerInput) : Except (WorkerFault α) (WorkerTask α) := do
  let settings ← i.settings
  let catalog ← i.readCatalog
  let request ← i.readRequest
  return ⟨settings, catalog, ← i.withBox request⟩

end WorkerInput

namespace WorkerTask

variable {α σ : Type} [Scalar α] [Scalar σ] [Narrowing α σ] [SampleWord σ] [Atlas α]

def dataPath? (t : WorkerTask α) : Option String :=
  t.catalog.dataPath? t.request.coverageId

def run (t : WorkerTask α) (read : ReadTask) (files : String → Except String ByteArray) :
    Except (WorkerFault α) (CoverageResult α σ) :=
  let service : Service α σ :=
    ⟨t.catalog, Encoder.standard, t.settings, t.catalog.rawFileReader.toReader read files⟩
  match (service.call t.request false).outcome with
  | .ok r => .ok r
  | .error e => .error (.exception e)

end WorkerTask

end GeoRaster
