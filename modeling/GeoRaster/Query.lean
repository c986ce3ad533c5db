import GeoRaster.Exception
import GeoRaster.Settings

namespace GeoRaster

structure Query (α : Type) where
  coverageId : String
  envelope : Envelope α
  targetGrid : GridGeometry α
  nativeCrs : Crs
  targetCrs : Crs
  interpolation : Interpolation
  format : ResolvedFormat
  bands : List Nat

def Query.needsReprojection {α : Type} (q : Query α) : Bool :=
  q.nativeCrs.code ≠ q.targetCrs.code

def givenText (s : Option String) : Option String :=
  (s.map Text.trim).filter (!·.isEmpty)

namespace CoverageDescriptor

variable {α : Type} [Scalar α] [Atlas α]

def envelopeFor (d : CoverageDescriptor α) :
    Option (Envelope α) → Except (Exception α) (Envelope α)
  | some requested =>
    match d.resolveEnvelope requested with
    | .ok e => .ok e
    | .error f => .error (.invalidParameter (.envelope f))
  | none => .ok d.nativeEnvelope

def checkGrid : Option (RequestGrid α) → Except (Exception α) Unit
  | some g =>
    match g.check with
    | .ok _ => .ok ()
    | .error f => .error (.ofPlanningFault f)
  | none => .ok ()

def bandSubset (axes : List AxisSubset) : Except (Exception α) (Option AxisSubset) :=
  match axes with
  | [] => .ok none
  | [a] =>
    if Text.sameIgnoringCase a.axis bandAxis then .ok (some a)
    else .error (.invalidParameter (.range (.axis a.axis)))
  | axes => .error (.invalidParameter (.range (.severalAxes axes.length)))

/-- The method that is asked for among those offered; one without kernel falls back to the nearest
neighbour. A request without method gets the coverage's or the service's. -/
def interpolationFor (d : CoverageDescriptor α) (fallback : Interpolation)
    (requested : Option String) : Except (Exception α) Interpolation :=
  match givenText requested with
  | none => .ok ((d.defaultInterpolation >>= Interpolation.ofName?).getD fallback)
  | some name =>
    match d.interpolationMethods.find? fun m => Interpolation.key m == Interpolation.key name with
    | some listed => .ok ((Interpolation.ofName? listed).getD .nearest)
    | none => .error (.invalidParameter (.range (.interpolation name d.interpolationMethods)))

def formatFor (d : CoverageDescriptor α) (registry : List Encoder) (requested : String) :
    Except (Exception α) ResolvedFormat :=
  match ResolvedFormat.among registry d.formatCandidates requested with
  | .ok f => .ok f
  | .error f => .error (.invalidParameter (.format f))

def offers (d : CoverageDescriptor α) (c : Crs) : Bool :=
  (d.supportedCrs.filterMap Crs.ofIdentifier?).any (·.code = c.code)

def outputCrsFor (d : CoverageDescriptor α) (requested : Option String) :
    Except (Exception α) Crs :=
  match givenText requested with
  | none => .ok d.nativeCrs
  | some name =>
    match Crs.ofIdentifier? name with
    | none => .error (.invalidParameter (.unsupportedCrs name))
    | some c =>
      if d.offers c then .ok c else .error (.invalidParameter (.crsNotOffered name d.id))

def bandsFor (d : CoverageDescriptor α) (subset : Option AxisSubset) :
    Except (Exception α) (List Nat) :=
  match d.selectBands subset with
  | .ok bands => .ok bands
  | .error f => .error (.invalidParameter (.range f))

/-- The grid of the answer. An envelope that reaches beyond the coverage is cut to it. A service
with overflow checks gives no answer where they stop the planning. -/
def gridFor (d : CoverageDescriptor α) (envelope : Envelope α) (grid : Option (RequestGrid α)) :
    Except (Exception α) (GridGeometry α) :=
  let clipped := (envelope.meet? d.nativeEnvelope).getD envelope
  match GridGeometry.planned .wrapping grid d.gridGeometry clipped with
  | .ok g => .ok g
  | .error f => .error (.ofPlanningFault f)

def outputValues (grid : GridGeometry α) (bands : Nat) : Option Nat :=
  grid.range.cellCount >>= fun cells => GridRange.checkedProduct cells bands

def checkSize (limit : Nat) (grid : GridGeometry α) (bands : Nat) : Except (Exception α) Unit :=
  if (outputValues grid bands).all (limit < ·) then
    .error (.invalidParameter (.outputSize grid.width grid.height bands limit))
  else .ok ()

def validate (d : CoverageDescriptor α) (registry : List Encoder) (settings : Settings)
    (request : CoverageRequest α) : Except (Exception α) (Query α) := do
  let envelope ← d.envelopeFor request.domain.envelope
  checkGrid request.domain.grid
  let subset ← bandSubset request.range
  let interpolation ← d.interpolationFor settings.defaultInterpolation request.interpolation
  let format ← d.formatFor registry request.output.format
  let targetCrs ← d.outputCrsFor request.output.crs
  let bands ← d.bandsFor subset
  let grid ← d.gridFor envelope request.domain.grid
  checkSize settings.maxOutputValues grid bands.length
  return {
    coverageId := d.id
    envelope := envelope
    targetGrid := grid
    nativeCrs := d.nativeCrs.eastingFirst
    targetCrs := targetCrs
    interpolation := interpolation
    format := format
    bands := bands }

end CoverageDescriptor

end GeoRaster
