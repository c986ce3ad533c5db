import GeoRaster.Exception
import GeoRaster.Settings

namespace GeoRaster

inductive ReadOutcome (α σ : Type) where
  | raster (r : Raster α σ)
  | fault (f : ReadFault)
  /-- There was no answer for as long as the service waits. -/
  | timedOut

def ReadOutcome.ofExcept {α σ : Type} : Except ReadFault (Raster α σ) → ReadOutcome α σ
  | .ok r => .raster r
  | .error f => .fault f

/-- A reader is asked for a coverage and the box that is wanted of it. It may give more than the
box. -/
abbrev CoverageReader (α σ : Type) :=
  (id : String) → (box : Envelope α) → ReadOutcome α σ

structure MemoryReader (α σ : Type) where
  rasters : List (String × Raster α σ)
  delay : Duration

namespace MemoryReader

variable {α σ : Type}

def find? (r : MemoryReader α σ) (id : String) : Option (Raster α σ) :=
  r.rasters.lookup id

def toReader (r : MemoryReader α σ) (timeout : Duration) : CoverageReader α σ := fun id _ =>
  if timeout.nanoseconds < r.delay.nanoseconds then .timedOut
  else
    match r.find? id with
    | some raster => .raster raster
    | none => .fault (.missing id)

end MemoryReader

end GeoRaster
