import GeoRaster.Coverage.Example
import GeoRaster.Projection.Geographic
import GeoRaster.Proofs.Stages
import GeoRaster.Proofs.Validation
import GeoRaster.Service
import Mathlib.Data.List.Nodup

namespace GeoRaster.Service

variable {α σ : Type} [Scalar α] {s : Service α σ}
  {request : CoverageRequest α} {d : CoverageDescriptor α} {q : Query α} {raw r : Raster α σ}

/-- The planned grid is kept where the raster lies on it. -/
theorem gridOf_planned (hq : q.nativeCrs.code = q.targetCrs.code)
    (hr : q.targetGrid.envelope.isNear Raster.sameBox r.envelope = true) :
    gridOf q r = .ok q.targetGrid := by
  rw [gridOf, if_pos]
  simp [Query.needsReprojection, hq, hr]

variable [Atlas α]

theorem validate_rejected {e : Exception α}
    (hs : s.catalog.descriptor? request.coverageId = some d)
    (hq : d.validate s.registry s.settings request = .error e) : s.validate request = .error e := by
  rw [validate, hs]
  simp only [hq]
  rfl

theorem validate_accepted (hs : s.catalog.descriptor? request.coverageId = some d)
    (hq : d.validate s.registry s.settings request = .ok q) :
    s.validate request = .ok (d, q) := by
  rw [validate, hs]
  simp only [hq]
  rfl

variable [Scalar σ] [Narrowing α σ]

theorem call_rejected {e : Exception α} (cancelled : Bool)
    (hs : s.catalog.descriptor? request.coverageId = some d)
    (hq : d.validate s.registry s.settings request = .error e) :
    s.call request cancelled = ⟨.error e, .refused⟩ := by
  rw [call, validate_rejected hs hq]

theorem call_cancelled (hs : s.catalog.descriptor? request.coverageId = some d)
    (hq : d.validate s.registry s.settings request = .ok q) :
    s.call request true = ⟨.error .cancelled, .refused⟩ := by
  rw [call, validate_accepted hs hq]
  rfl

theorem call_accepted (hs : s.catalog.descriptor? request.coverageId = some d)
    (hq : d.validate s.registry s.settings request = .ok q)
    (hraw : s.reader q.coverageId q.envelope = .raster raw) :
    s.call request false = finish q raw := by
  rw [call, validate_accepted hs hq]
  simp only [Bool.false_eq_true, if_false, hraw]

theorem finish_congr {raw' : Raster α σ} (h : raw.run (planOf q) = raw'.run (planOf q)) :
    finish q raw = finish q raw' := by
  rw [finish, finish, h]

theorem finish_error {e : Exception α} (h : raw.run (planOf q) = .error e) :
    finish q raw = ⟨.error e, .read⟩ := by
  rw [finish, h]

theorem finish_ok {g : GridGeometry α} (h : raw.run (planOf q) = .ok r)
    (hg : gridOf q r = .ok g) :
    finish q raw = ⟨.ok ⟨r, g, q.targetCrs, q.format⟩, .resampled⟩ := by
  rw [finish, h]
  simp only [hg]

theorem of_finish_ok {a : CoverageResult α σ} (h : (finish q raw).outcome = .ok a) :
    raw.run (planOf q) = .ok a.raster ∧ gridOf q a.raster = .ok a.gridGeometry ∧
      a.crs = q.targetCrs := by
  cases hr : raw.run (planOf q) with
  | error e =>
    rw [finish_error hr] at h
    exact absurd h (by simp)
  | ok r =>
    cases hg : gridOf q r with
    | error e =>
      rw [finish, hr] at h
      simp only [hg] at h
      exact absurd h (by simp)
    | ok g =>
      rw [finish_ok hr hg] at h
      obtain rfl := Except.ok.inj h
      exact ⟨rfl, hg, rfl⟩

/-- Everything that has led to an answer. -/
theorem of_call_ok {cancelled : Bool} {a : CoverageResult α σ}
    (h : (s.call request cancelled).outcome = .ok a) :
    ∃ d q raw, s.catalog.descriptor? request.coverageId = some d ∧
      d.validate s.registry s.settings request = .ok q ∧
      s.reader q.coverageId q.envelope = .raster raw ∧ raw.run (planOf q) = .ok a.raster ∧
      gridOf q a.raster = .ok a.gridGeometry ∧ a.crs = q.targetCrs := by
  cases hd : s.catalog.descriptor? request.coverageId with
  | none =>
    rw [call, validate, hd] at h
    exact absurd h (by simp)
  | some d =>
    cases hq : d.validate s.registry s.settings request with
    | error e =>
      rw [call_rejected cancelled hd hq] at h
      exact absurd h (by simp)
    | ok q =>
      rw [call, validate_accepted hd hq] at h
      cases cancelled with
      | true => exact absurd h (by simp)
      | false =>
        simp only [Bool.false_eq_true, if_false] at h
        cases hraw : s.reader q.coverageId q.envelope with
        | fault f =>
          rw [hraw] at h
          exact absurd h (by simp)
        | timedOut =>
          rw [hraw] at h
          exact absurd h (by simp)
        | raster raw =>
          rw [hraw] at h
          exact ⟨d, q, raw, rfl, hq, hraw, of_finish_ok h⟩

section Small

/-- The small coverage with one band, whatever reads it. -/
def small (reader : CoverageReader α σ) : Service α σ where
  catalog := ⟨[⟨.small ["a"], some "a.raw"⟩], List.nodup_singleton _⟩
  registry := Encoder.standard
  settings := Settings.standard
  reader := reader

def smallRequest (box : Bounds α) (grid : Option (RequestGrid α)) : CoverageRequest α where
  coverageId := "bands"
  domain := ⟨some (.ofBounds box none), grid⟩
  range := []
  interpolation := none
  output := ⟨"GeoTIFF", none⟩

end Small

end GeoRaster.Service

namespace GeoRaster.Geographic

scoped instance atlas : Atlas Exact := ⟨fun _ => projection⟩

scoped instance narrowing : Narrowing Exact Float32 where
  narrow
    | .nan => 0.0 / 0.0
    | .negInfinity => -1.0 / 0.0
    | .finite q => Float32.ofInt q.num / Float32.ofNat q.den
    | .infinity => 1.0 / 0.0

end GeoRaster.Geographic
