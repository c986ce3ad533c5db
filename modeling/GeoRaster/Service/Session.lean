import GeoRaster.Service

namespace GeoRaster

def Raster.prepare {α σ : Type} [Scalar α] (r : Raster α σ) (plan : PipelinePlan α) :
    Except (Exception α) (Raster α σ × Envelope α) :=
  if r.crs.code ≠ plan.nativeCrs.code then .error (.processing (.rasterCrs r.crs plan.nativeCrs))
  else do (← r.selectBands plan.bands).crop plan.envelope

/-- A call as it is made: what the client asks for, whether it had cancelled that before, and what
the reader says when it is asked. -/
structure Job (α σ : Type) where
  request : CoverageRequest α
  cancelled : Bool
  outcome : ReadOutcome α σ

inductive Stage (α σ : Type) where
  | waiting
  | reading (q : Query α)
  | read (q : Query α) (raw : Raster α σ)
  | cropped (q : Query α) (r : Raster α σ) (extent : Envelope α)
  | scaled (q : Query α) (r : Raster α σ)
  | resampled (q : Query α) (r : Raster α σ)
  | answered (call : Call α σ)

namespace Stage

variable {α σ : Type}

def progress : Stage α σ → Progress
  | .waiting => .refused
  | .reading _ => .asked
  | .read _ _ | .cropped _ _ _ | .scaled _ _ => .read
  | .resampled _ _ => .resampled
  | .answered call => call.progress

def isAnswered : Stage α σ → Bool
  | .answered _ => true
  | _ => false

def isProcessing : Stage α σ → Bool
  | .read _ _ | .cropped _ _ _ | .scaled _ _ => true
  | _ => false

def asks : Stage α σ → Nat
  | .reading _ => 1
  | _ => 0

def returned : Stage α σ → Option (Raster α σ)
  | .read _ raw => some raw
  | _ => none

def events (duration : UInt64) : Stage α σ → List Metrics.Event
  | .read _ _ => [.read duration]
  | .resampled _ _ => [.pipeline duration]
  | .answered call => [.request duration call.errorCode]
  | _ => []

end Stage

structure Activity (α σ : Type) where
  token : Bool
  stage : Stage α σ
  asked : Nat
  /-- What the reader has returned in time. -/
  received : Option (Raster α σ)
  /-- What has been recorded, or is about to be. -/
  reports : List Metrics.Event
  /-- What of it the metrics do not show yet. -/
  pending : List Metrics.Update

inductive Action where
  | cancel
  /-- The next pending update reaches the metrics. -/
  | settle
  /-- The call goes on; the duration is of what it then records. -/
  | advance (duration : UInt64)
  /-- The work on the raster breaks down. -/
  | lose (duration : UInt64) (reason : String)

namespace Activity

variable {α σ : Type}

def start (job : Job α σ) : Activity α σ :=
  ⟨job.cancelled, .waiting, 0, none, [], []⟩

def enter (a : Activity α σ) (stage : Stage α σ) (duration : UInt64) : Activity α σ where
  token := a.token
  stage := stage
  asked := a.asked + stage.asks
  received := a.received.or stage.returned
  reports := a.reports ++ stage.events duration
  pending := (stage.events duration).flatMap Metrics.Event.updates

/-- A call that may go on does so once all that it has recorded is in the metrics. -/
def enterIf (a : Activity α σ) (may : Bool) (stage : Stage α σ) (duration : UInt64) :
    Activity α σ :=
  if may && a.pending.isEmpty then a.enter stage duration else a

def settles (a : Activity α σ) : Action → List Metrics.Update
  | .settle => a.pending.take 1
  | _ => []

def isDone (a : Activity α σ) : Bool :=
  a.stage.isAnswered && a.pending.isEmpty

def answer? (a : Activity α σ) : Option (Except (Exception α) (CoverageResult α σ)) :=
  match a.stage with
  | .answered call => some call.outcome
  | _ => none

def succeeded (a : Activity α σ) : Bool :=
  match a.answer? with
  | some (.ok _) => true
  | _ => false

def failedWith (code : ExceptionCode) (a : Activity α σ) : Bool :=
  match a.answer? with
  | some (.error e) => e.code = code
  | _ => false

end Activity

structure Session (ι α σ : Type) where
  metrics : Metrics
  calls : ι → Activity α σ

def Session.start {ι α σ : Type} (jobs : ι → Job α σ) : Session ι α σ :=
  ⟨.zero, fun i => .start (jobs i)⟩

def unlessCancelled {α : Type} (token : Bool) : Except (Exception α) Unit :=
  if token then .error .cancelled else .ok ()

variable {α σ : Type} [Scalar α] [Scalar σ] [Narrowing α σ] [Atlas α]

namespace Service

/-- What a call does next. The token is looked at before the reader is asked, when the reader has
answered, after the crop and after the scaling. -/
def work (s : Service α σ) (job : Job α σ) (token : Bool) :
    Stage α σ → Except (Exception α) (Stage α σ)
  | .waiting => do
    let (_, q) ← s.validate job.request
    unlessCancelled token
    return .reading q
  | .reading q => do
    unlessCancelled token
    match job.outcome with
    | .timedOut => .error .timeout
    | .fault f => .error (.ofReadFault f)
    | .raster raw => return .read q raw
  | .read q raw => do
    let (r, extent) ← raw.prepare (planOf q)
    unlessCancelled token
    return .cropped q r extent
  | .cropped q r extent => do
    let grid := q.targetGrid
    let r ← r.scale (Raster.plannedExtent grid extent) grid.width grid.height q.interpolation
    unlessCancelled token
    return .scaled q r
  | .scaled q r => do
    return .resampled q (← r.reproject q.targetCrs q.interpolation)
  | .resampled q r => do
    return .answered ⟨.ok ⟨r, ← gridOf q r, q.targetCrs, q.format⟩, .resampled⟩
  | .answered call => .ok (.answered call)

def next (s : Service α σ) (job : Job α σ) (token : Bool) (stage : Stage α σ) : Stage α σ :=
  match s.work job token stage with
  | .ok stage' => stage'
  | .error e => .answered ⟨.error e, stage.progress⟩

end Service

def Activity.act (s : Service α σ) (job : Job α σ) (a : Activity α σ) : Action → Activity α σ
  | .cancel => { a with token := true }
  | .settle => { a with pending := a.pending.tail }
  | .advance duration => a.enterIf (!a.stage.isAnswered) (s.next job a.token a.stage) duration
  | .lose duration reason =>
    a.enterIf a.stage.isProcessing
      (.answered ⟨.error (.processing (.stated ("resampling task failed: " ++ reason))), .read⟩)
      duration

namespace Session

variable {ι : Type} [DecidableEq ι]

def step (s : Service α σ) (jobs : ι → Job α σ) (x : Session ι α σ) (move : ι × Action) :
    Session ι α σ where
  metrics := ((x.calls move.1).settles move.2).foldl Metrics.apply x.metrics
  calls := fun i => if i = move.1 then (x.calls i).act s (jobs i) move.2 else x.calls i

/-- Actions one after another, whatever their order is. -/
def run (s : Service α σ) (jobs : ι → Job α σ) (x : Session ι α σ)
    (schedule : List (ι × Action)) : Session ι α σ :=
  schedule.foldl (step s jobs) x

end Session

end GeoRaster
