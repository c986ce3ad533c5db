import GeoRaster.Catalog
import GeoRaster.Metrics
import GeoRaster.Pipeline
import GeoRaster.Query

namespace GeoRaster

structure CoverageResult (α σ : Type) where
  raster : Raster α σ
  gridGeometry : GridGeometry α
  /-- The system of the answer as the client named it. -/
  crs : Crs
  format : ResolvedFormat

inductive Progress where
  /-- The reader was not asked. -/
  | refused
  /-- The reader gave no raster in time. -/
  | asked
  | read
  | resampled
  deriving DecidableEq

namespace Progress

def asksReader : Progress → Bool
  | .refused => false
  | _ => true

def hasRead : Progress → Bool
  | .read | .resampled => true
  | _ => false

end Progress

structure CallTimes where
  request : UInt64
  read : UInt64
  pipeline : UInt64

structure Call (α σ : Type) where
  outcome : Except (Exception α) (CoverageResult α σ)
  progress : Progress

namespace Call

variable {α σ : Type}

def errorCode (c : Call α σ) : Option ExceptionCode :=
  match c.outcome with
  | .ok _ => none
  | .error e => some e.code

def events (c : Call α σ) (t : CallTimes) : List Metrics.Event :=
  (if c.progress.hasRead then [.read t.read] else []) ++
    (if c.progress = .resampled then [.pipeline t.pipeline] else []) ++
      [.request t.request c.errorCode]

end Call

structure Service (α σ : Type) where
  catalog : Catalog α
  registry : List Encoder
  settings : Settings
  reader : CoverageReader α σ

namespace Service

variable {α σ : Type} [Scalar α] [Scalar σ] [Narrowing α σ] [Atlas α]

def validate (s : Service α σ) (request : CoverageRequest α) :
    Except (Exception α) (CoverageDescriptor α × Query α) :=
  match s.catalog.descriptor? request.coverageId with
  | none => .error (.invalidParameter (.unknownCoverage request.coverageId))
  | some d => do return (d, ← d.validate s.registry s.settings request)

def planOf (q : Query α) : PipelinePlan α where
  bands := q.bands
  envelope := q.envelope
  targetGrid := q.targetGrid
  nativeCrs := q.nativeCrs
  targetCrs := q.targetCrs
  interpolation := q.interpolation
  cancelled := false

/-- The grid of an answer: the planned one, whose origin may have been asked for, if the raster lies
on it, else the grid of the raster. -/
def gridOf (q : Query α) (r : Raster α σ) : Except (Exception α) (GridGeometry α) :=
  if !q.needsReprojection && q.targetGrid.envelope.isNear Raster.sameBox r.envelope then
    .ok q.targetGrid
  else
    match r.gridGeometry with
    | .ok g => .ok g
    | .error f => .error (.ofGridFault f)

def finish (q : Query α) (raw : Raster α σ) : Call α σ :=
  match raw.run (planOf q) with
  | .error e => ⟨.error e, .read⟩
  | .ok r =>
    match gridOf q r with
    | .error e => ⟨.error e, .resampled⟩
    | .ok g => ⟨.ok ⟨r, g, q.targetCrs, q.format⟩, .resampled⟩

/-- Answers a request. One that was cancelled before it came is checked all the same. -/
def call (s : Service α σ) (request : CoverageRequest α) (cancelled : Bool) : Call α σ :=
  match s.validate request with
  | .error e => ⟨.error e, .refused⟩
  | .ok (_, q) =>
    if cancelled then ⟨.error .cancelled, .refused⟩
    else
      match s.reader q.coverageId q.envelope with
      | .timedOut => ⟨.error .timeout, .asked⟩
      | .fault f => ⟨.error (.ofReadFault f), .asked⟩
      | .raster raw => finish q raw

end Service

end GeoRaster
