import GeoRaster.Exception

namespace GeoRaster

/-- The durations recorded so far, in microseconds. A least duration of zero is the one of no record
yet. -/
structure Timing where
  count : UInt64
  total : UInt64
  least : UInt64
  greatest : UInt64
  deriving DecidableEq, Inhabited

namespace Timing

def none : Timing := ⟨0, 0, 0, 0⟩

def record (t : Timing) (duration : UInt64) : Timing where
  count := t.count + 1
  total := t.total + duration
  least := if t.least = 0 ∨ duration < t.least then duration else t.least
  greatest := if t.greatest < duration then duration else t.greatest

end Timing

structure TimingSummary (α : Type) where
  count : Nat
  average : α
  least : α
  greatest : α

def Timing.summary {α : Type} [Scalar α] (t : Timing) : TimingSummary α :=
  let number (n : UInt64) : α := Scalar.ofNat n.toNat
  { count := t.count.toNat
    average := if t.count = 0 then 0.0 else number t.total / number t.count / 1000.0
    least := number t.least / 1000.0
    greatest := number t.greatest / 1000.0 }

structure Metrics where
  requests : UInt64
  invalid : UInt64
  failed : UInt64
  reads : UInt64
  requestTimes : Timing
  readTimes : Timing
  pipelineTimes : Timing
  deriving DecidableEq, Inhabited

namespace Metrics

def zero : Metrics := ⟨0, 0, 0, 0, .none, .none, .none⟩

/-- An update is one instant's work: no other comes in between. -/
inductive Update where
  | request
  | invalid
  | failed
  | requestTime (duration : UInt64)
  | read
  | readTime (duration : UInt64)
  | pipelineTime (duration : UInt64)
  deriving DecidableEq

def apply (m : Metrics) : Update → Metrics
  | .request => { m with requests := m.requests + 1 }
  | .invalid => { m with invalid := m.invalid + 1 }
  | .failed => { m with failed := m.failed + 1 }
  | .requestTime duration => { m with requestTimes := m.requestTimes.record duration }
  | .read => { m with reads := m.reads + 1 }
  | .readTime duration => { m with readTimes := m.readTimes.record duration }
  | .pipelineTime duration => { m with pipelineTimes := m.pipelineTimes.record duration }

inductive Event where
  | request (duration : UInt64) (error : Option ExceptionCode)
  | read (duration : UInt64)
  | pipeline (duration : UInt64)
  deriving DecidableEq

def updateFor : ExceptionCode → Update
  | .invalidParameterValue => .invalid
  | .noApplicableCode => .failed

def Event.updates : Event → List Update
  | .request duration error =>
    .request :: (error.map updateFor).toList ++ [.requestTime duration]
  | .read duration => [.read, .readTime duration]
  | .pipeline duration => [.pipelineTime duration]

def record (m : Metrics) (e : Event) : Metrics :=
  e.updates.foldl apply m

end Metrics

end GeoRaster
