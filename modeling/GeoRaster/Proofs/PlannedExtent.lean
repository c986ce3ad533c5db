import GeoRaster.Proofs.CommonPart
import GeoRaster.Proofs.GridOfAnswer
import GeoRaster.Proofs.NativeCopy

namespace GeoRaster

namespace Envelope

variable {α : Type} [Scalar α] {e e' f f' : Envelope α}

theorem isNear_congr {t : α} (h : e.axes = e'.axes) (h' : f.axes = f'.axes) :
    e.isNear t f = e'.isNear t f' := by
  rw [isNear, isNear, dimension, dimension, dimension, dimension, h, h']

theorem meet?_crs (axes : List (Interval α)) (crs crs' : Option Crs) (box : Envelope α) :
    (⟨axes, crs⟩ : Envelope α).meet? box =
      ((⟨axes, crs'⟩ : Envelope α).meet? box).map ({ · with crs := crs }) := by
  have hmeet : ∀ c, (⟨axes, c⟩ : Envelope α).meet? box =
      if axes.length = box.dimension ∧ (⟨axes, crs'⟩ : Envelope α).overlaps box then
        some ⟨(axes.zip box.axes).map fun p => p.1.meet p.2, c⟩
      else none :=
    fun _ => rfl
  rw [hmeet crs, hmeet crs']
  split <;> rfl

theorem IsRational.isNear_self {e : Envelope Exact} (h : e.IsRational) :
    e.isNear Raster.sameBox e = true := by
  obtain ⟨x, y, hxy⟩ := h
  have hplane : e.axes = (plane x y none).axes := hxy
  rw [isNear_congr hplane hplane]
  exact isNear_plane.mpr ⟨Interval.near_self x, Interval.near_self y⟩

theorem isValid_plane {x y : Interval ℚ} {crs : Option Crs} :
    (plane x y crs).isValid = true ↔ x.min ≤ x.max ∧ y.min ≤ y.max := by
  simp [isValid, plane, Interval.exact]

end Envelope

namespace Raster

variable {σ : Type} {r a : Raster Exact σ} {box extent : Envelope Exact}

theorem crs_of_make {α : Type} {width height : ℕ} {bands : List (Band σ)} {e : Envelope α}
    {crs : Crs} {r : Raster α σ} (h : make width height bands e crs = .ok r) :
    r.crs.code = crs.code ∧ r.envelope.axes = e.axes := by
  obtain ⟨-, -, bands', rfl⟩ := make_ok h
  exact ⟨rfl, rfl⟩

theorem code_selectBands {indices : List ℕ} (h : r.selectBands indices = .ok a) :
    a.crs.code = r.crs.code ∧ a.envelope.axes = r.envelope.axes := by
  rw [selectBands] at h
  split at h
  · rename_i s hs
    obtain rfl := Except.ok.inj h
    obtain ⟨bands, -, hm⟩ := bind_eq_ok.mp hs
    exact crs_of_make hm
  · exact absurd h (by simp)

theorem code_crop (h : r.crop box = .ok (a, extent)) : a.crs.code = r.crs.code := by
  rw [crop] at h
  split at h
  · exact absurd h (by simp)
  · split at h
    · obtain ⟨rfl, -⟩ : r = a ∧ _ := by simpa using h
      rfl
    · dsimp only at h
      split at h
      · rename_i hblock
        obtain ⟨rfl, -⟩ : _ = a ∧ _ := by simpa using h
        exact (crs_of_make hblock).1
      · exact absurd h (by simp)

variable [Scalar σ] [Narrowing Exact σ] {width height : ℕ} {method : Interpolation}

theorem near_scale (he : extent.IsRational) (h : r.scale extent width height method = .ok a) :
    a.crs.code = r.crs.code ∧ a.envelope.isNear sameBox extent = true := by
  rw [scale] at h
  split at h
  · rename_i hlies
    obtain rfl := Except.ok.inj h
    exact ⟨rfl, hlies.2.2⟩
  · split at h
    · rename_i hm
      obtain rfl := Except.ok.inj h
      obtain ⟨hcode, haxes⟩ := crs_of_make hm
      exact ⟨hcode, (Envelope.isNear_congr haxes rfl).trans he.isNear_self⟩
    · exact absurd h (by simp)

variable [Atlas Exact]

theorem axes_reproject {target : Crs} (ht : r.crs.code = target.code)
    (h : r.reproject target method = .ok a) : a.envelope.axes = r.envelope.axes := by
  have hi : (Transformation.between r.crs.code target.eastingFirst.code :
      Transformation Exact).isIdentity = true := by
    simp [Transformation.isIdentity, Transformation.between, ht, Crs.eastingFirst, Crs.ofCode]
  rw [reproject] at h
  simp only [hi, if_true] at h
  split at h
  · rename_i hm
    obtain rfl := Except.ok.inj h
    exact (crs_of_make hm).2
  · exact absurd h (by simp)

omit [Scalar σ] [Narrowing Exact σ] [Atlas Exact] in
theorem coveredBy_axes {e e' : Envelope Exact} (he : e.axes = e'.axes)
    (h : coveredBy e box = some extent) :
    ∃ ground, coveredBy e' box = some ground ∧ extent.axes = ground.axes := by
  obtain ⟨axes, crs⟩ := e
  obtain ⟨axes', crs'⟩ := e'
  obtain rfl : axes = axes' := he
  obtain ⟨common, hm, rfl⟩ := Option.map_eq_some_iff.mp h
  rw [Envelope.meet?_crs axes crs crs'] at hm
  obtain ⟨common', hm', rfl⟩ := Option.map_eq_some_iff.mp hm
  refine ⟨_, congrArg (Option.map _) hm', ?_⟩
  have hnear : Envelope.isNear sameBox { common' with crs := crs } ⟨axes, crs⟩ =
      Envelope.isNear sameBox common' ⟨axes, crs'⟩ :=
    Envelope.isNear_congr rfl rfl
  dsimp only at hnear ⊢
  rw [hnear]
  split <;> rfl

theorem near_run (hr : r.envelope.IsRational) {plan : PipelinePlan Exact}
    (hbox : plan.envelope.IsRational) (hgrid : plan.targetGrid.envelope.IsRational)
    (ht : plan.nativeCrs.code = plan.targetCrs.code) (h : r.run plan = .ok a) :
    ∃ ground, coveredBy r.envelope plan.envelope = some ground ∧
      a.envelope.isNear sameBox (plannedExtent plan.targetGrid ground) = true := by
  rw [run] at h
  split at h
  · exact absurd h (by simp)
  · rename_i hcode
    obtain ⟨selected, hs, h⟩ := bind_eq_ok.mp h
    obtain ⟨⟨cropped, extent⟩, hc, h⟩ := bind_eq_ok.mp h
    obtain ⟨hselected, haxes⟩ := code_selectBands hs
    obtain ⟨-, hextent⟩ := (placed_selectBands hr hs).crop hbox hc
    obtain ⟨ground, hground, hsame⟩ := coveredBy_axes haxes (coveredBy_of_crop hc)
    dsimp only at h
    split at h
    · exact absurd h (by simp)
    · obtain ⟨scaled, hscaled, h⟩ := bind_eq_ok.mp h
      have hplanned : (plannedExtent plan.targetGrid extent).IsRational := by
        rw [plannedExtent]
        split
        · exact hextent
        · exact hgrid
      obtain ⟨hcode', hnear⟩ := near_scale hplanned hscaled
      have hnative : scaled.crs.code = plan.targetCrs.code := by
        rw [hcode', code_crop hc, hselected, not_not.mp hcode, ht]
      have hplace : (plannedExtent plan.targetGrid extent).axes =
          (plannedExtent plan.targetGrid ground).axes := by
        rw [plannedExtent, plannedExtent]
        split
        · exact hsame
        · rfl
      refine ⟨ground, hground, ?_⟩
      rw [Envelope.isNear_congr (axes_reproject hnative h) hplace.symm]
      exact hnear

end Raster

def RequestGrid.unitAtOrigin : RequestGrid Exact :=
  ⟨none, some (.finite 0, .finite 0), some (.finite 1, .finite 1)⟩

namespace GridGeometry

variable {native g : GridGeometry Exact} {x y : Interval ℚ} {crs : Option Crs}

theorem overRange_not_identity {r : GridRange} (hy : y.min ≤ y.max)
    (h : overRange r (Envelope.planeBounds x y) crs = .ok g) :
    g.transform.isIdentity = false := by
  obtain ⟨hrange, htransform, -⟩ := plan_ok h
  have hh : 0 < r.height := hrange ▸ g.height_pos
  -- rows of a range are counted from the north, against the identity
  have hne : -y.length / r.height ≠ 1 := by
    have hle : -y.length / r.height ≤ 0 :=
      div_nonpos_of_nonpos_of_nonneg (by simp only [Interval.length]; linarith) (Nat.cast_nonneg _)
    linarith
  have hscale : g.transform.scaleY = .finite (-y.length / r.height) := by
    rw [htransform]
    have hh₀ : (r.height : ℚ) ≠ 0 := Nat.cast_ne_zero.mpr hh.ne'
    simp [Affine.ofOrigin, Envelope.planeBounds, Bounds.height, Exact.finite_div _ hh₀,
      Interval.length]
  simp [Affine.isIdentity, Affine.identity, hscale, hne]

theorem overOffsets_identity {a b : ℚ} {origin : Option (Exact × Exact)}
    (ho : RequestGrid.checkOrigin origin = .ok ())
    (h : overOffsets (.finite a) (.finite b) origin (Envelope.planeBounds x y) crs = .ok g) :
    g.transform.isIdentity = true ↔
      (⟨none, origin, some (.finite a, .finite b)⟩ : RequestGrid Exact) = .unitAtOrigin := by
  cases origin with
  | none =>
    obtain ⟨-, htransform, -⟩ := plan_ok h
    have hne : -|b| ≠ 1 := by
      have := abs_nonneg b
      linarith
    rw [htransform]
    simp [Affine.isIdentity, Affine.identity, Affine.ofOrigin, RequestGrid.unitAtOrigin, hne]
  | some origin =>
    obtain ⟨u, v⟩ := origin
    have hf : Scalar.isFinite u = true ∧ Scalar.isFinite v = true := by
      simpa [RequestGrid.checkOrigin] using ho
    obtain ⟨u, rfl⟩ := Exact.isFinite_iff.mp hf.1
    obtain ⟨v, rfl⟩ := Exact.isFinite_iff.mp hf.2
    obtain ⟨-, htransform, -⟩ := plan_ok h
    rw [htransform]
    simp [Affine.isIdentity, Affine.identity, Affine.ofOrigin, RequestGrid.unitAtOrigin]
    tauto

/-- Of the grids that are asked for over a box, only the unit grid at the origin is placed by the
identity. -/
theorem planned_identity {grid : RequestGrid Exact} {target : Envelope Exact}
    (hb : target.bounds = Envelope.planeBounds x y) (hy : y.min ≤ y.max)
    (hg : ¬ (grid.range = none ∧ grid.offsets = none))
    {build : Build} (h : planned build (some grid) native target = .ok g) :
    g.transform.isIdentity = true ↔ grid = .unitAtOrigin := by
  obtain ⟨range, origin, offsets⟩ := grid
  rw [planned, hb] at h
  obtain ⟨_, hcheck, h⟩ := bind_eq_ok.mp h
  obtain ⟨_, -, hcheck⟩ := bind_eq_ok.mp hcheck
  obtain ⟨_, hoffsets, horigin⟩ := bind_eq_ok.mp hcheck
  cases range with
  | some r =>
    rw [overRange_not_identity hy h]
    simp [RequestGrid.unitAtOrigin]
  | none =>
    cases offsets with
    | none => exact absurd ⟨rfl, rfl⟩ hg
    | some o =>
      obtain ⟨a, b⟩ := o
      obtain ⟨⟨a, rfl⟩, b, rfl⟩ := RequestGrid.checkOffsets_ok hoffsets
      exact overOffsets_identity horigin h

end GridGeometry

namespace Envelope

variable {e : Envelope Exact}

theorem IsRational.bounds_valid (h : e.IsRational) (hv : e.isValid = true) :
    ∃ x y : Interval ℚ, e.bounds = planeBounds x y ∧ x.min ≤ x.max ∧ y.min ≤ y.max := by
  obtain ⟨x, y, hxy⟩ := h
  obtain ⟨axes, crs⟩ := e
  obtain rfl : axes = [x.exact, y.exact] := hxy
  obtain ⟨hx, hy⟩ := isValid_plane.mp hv
  cases crs with
  | none => exact ⟨x, y, rfl, hx, hy⟩
  | some c =>
    obtain ⟨code, order⟩ := c
    cases order with
    | eastingFirst => exact ⟨x, y, rfl, hx, hy⟩
    | northingFirst => exact ⟨y, x, rfl, hy, hx⟩

end Envelope

namespace CoverageDescriptor

variable {d : CoverageDescriptor Exact} {e : Envelope Exact}

theorem gridFor_identity (hn : d.nativeEnvelope.IsRational) (hnv : d.nativeEnvelope.isValid = true)
    (he : e.IsRational) (hev : e.isValid = true) {grid : RequestGrid Exact}
    {g : GridGeometry Exact} (hg : ¬ (grid.range = none ∧ grid.offsets = none))
    (h : d.gridFor e (some grid) = .ok g) :
    g.transform.isIdentity = true ↔ grid = .unitAtOrigin := by
  have hclipped : ((e.meet? d.nativeEnvelope).getD e).IsRational ∧
      ((e.meet? d.nativeEnvelope).getD e).isValid = true := by
    cases hm : e.meet? d.nativeEnvelope with
    | none => exact ⟨he, hev⟩
    | some common =>
      exact ⟨(Envelope.isRational_meet? he hn hm).1, Envelope.isValid_meet? hev hnv hm⟩
  obtain ⟨x, y, hxy, -, hy⟩ := hclipped.1.bounds_valid hclipped.2
  rw [gridFor] at h
  split at h
  · rename_i hplanned
    obtain rfl := Except.ok.inj h
    exact GridGeometry.planned_identity hxy hy hg hplanned
  · exact absurd h (by simp)

theorem isValid_envelopeFor [Atlas Exact] {box : Option (Envelope Exact)}
    (hv : d.nativeEnvelope.isValid = true) (h : d.envelopeFor box = .ok e) :
    e.isValid = true := by
  cases box with
  | none =>
    obtain rfl := Except.ok.inj h
    exact hv
  | some requested =>
    rw [envelopeFor] at h
    split at h
    · rename_i hr
      obtain rfl := Except.ok.inj h
      exact (resolveEnvelope_ok hr).2
    · exact absurd h (by simp)

end CoverageDescriptor

namespace Service

section Answer

variable {σ : Type} [Scalar σ] [Narrowing Exact σ] [Atlas Exact] {s : Service Exact σ}
  {request : CoverageRequest Exact} {d : CoverageDescriptor Exact} {a : CoverageResult Exact σ}
  {cancelled : Bool}

/-- In the native system a raster on a grid that was asked for has as many cells as planned and is
delivered over the ground of the planned grid, unless that grid is placed by the identity. Then it
is delivered over the ground that was cropped. This comes of unit cells at the origin and of no
other range or offsets. -/
theorem call_planned (hs : s.IsRational) (hd : s.catalog.descriptor? request.coverageId = some d)
    (hg : ¬ CoverageDescriptor.WithoutGrid request)
    (ha : (s.call request cancelled).outcome = .ok a) (hcrs : a.crs.code = d.nativeCrs.code) :
    ∃ q raw ground, d.validate s.registry s.settings request = .ok q ∧
      s.reader q.coverageId q.envelope = .raster raw ∧
      Raster.coveredBy raw.envelope q.envelope = some ground ∧
      a.raster.width = q.targetGrid.width ∧ a.raster.height = q.targetGrid.height ∧
      (q.targetGrid.transform.isIdentity = false →
        a.raster.envelope.isNear Raster.sameBox q.targetGrid.envelope = true) ∧
      (q.targetGrid.transform.isIdentity = true →
        a.raster.envelope.isNear Raster.sameBox ground = true) ∧
      (d.nativeEnvelope.isValid = true →
        (q.targetGrid.transform.isIdentity = true ↔ request.domain.grid = some .unitAtOrigin)) := by
  obtain ⟨d', q, raw, hd', hq, hraw, hrun, -, htarget⟩ := of_call_ok ha
  obtain rfl := Option.some.inj (hd.symm.trans hd')
  have hacc := CoverageDescriptor.accepts_of_validate hq
  obtain ⟨t, ht⟩ := hs.map hd
  have hbox := CoverageDescriptor.isRational_envelopeFor hs.atlas (hs.extent hd) hacc.envelope_eq
  obtain ⟨u, hu, -⟩ := CoverageDescriptor.isRational_gridFor ht (hs.extent hd) hbox hacc.grid_eq
  obtain ⟨gx, gy, hground⟩ := GridGeometry.exists_ground hu
  have hplan : (planOf q).targetGrid.envelope.IsRational := ⟨gx, gy, congrArg Envelope.axes hground⟩
  obtain ⟨-, hw, hh⟩ := Raster.placed_run hs.atlas (hs.raster hraw) hbox hplan hrun
  have hcode : (planOf q).nativeCrs.code = (planOf q).targetCrs.code := by
    show q.nativeCrs.code = q.targetCrs.code
    rw [hacc.code_eq, ← htarget, hcrs]
  obtain ⟨ground, hcovered, hnear⟩ := Raster.near_run (hs.raster hraw) hbox hplan hcode hrun
  refine ⟨q, raw, ground, hq, hraw, hcovered, hw, hh, ?_, ?_, ?_⟩
  · intro hid
    have hid : (planOf q).targetGrid.transform.isIdentity = false := hid
    rw [Raster.plannedExtent, hid] at hnear
    exact hnear
  · intro hid
    have hid : (planOf q).targetGrid.transform.isIdentity = true := hid
    rw [Raster.plannedExtent, hid] at hnear
    exact hnear
  · intro hv
    have hqv := CoverageDescriptor.isValid_envelopeFor hv hacc.envelope_eq
    have hgrid := hacc.grid_eq
    cases hgiven : request.domain.grid with
    | none => exact absurd (by simp [CoverageDescriptor.WithoutGrid, hgiven]) hg
    | some grid =>
      rw [hgiven] at hgrid
      have hasked : ¬ (grid.range = none ∧ grid.offsets = none) := by
        simpa [CoverageDescriptor.WithoutGrid, hgiven] using hg
      rw [CoverageDescriptor.gridFor_identity (hs.extent hd) hv hbox hqv hasked hgrid,
        Option.some.injEq]

end Answer

section Small

open scoped Geographic

def originRequest : CoverageRequest Exact :=
  smallRequest ⟨0.5, 0.5, 3.0, 3.0⟩ (some .unitAtOrigin)

/-- The small coverage has its place on the ground, yet the answer is not on the planned grid. -/
theorem call_planned_small :
    (CoverageDescriptor.small ["a"] : CoverageDescriptor Exact).gridGeometry.transform.isIdentity =
        false ∧
      ¬ CoverageDescriptor.WithoutGrid originRequest ∧
      ∃ (a : CoverageResult Exact Float32) (q : Query Exact) (ground : Envelope Exact),
        (smallService.call originRequest false).outcome = .ok a ∧ a.crs.code = .wgs84 ∧
        (CoverageDescriptor.small ["a"]).validate Encoder.standard Settings.standard
          originRequest = .ok q ∧
        a.raster.envelope.isNear Raster.sameBox ground = true ∧
        a.raster.envelope.isNear Raster.sameBox q.targetGrid.envelope = false := by
  have hgrid : ¬ CoverageDescriptor.WithoutGrid originRequest := by
    simp [CoverageDescriptor.WithoutGrid, originRequest, smallRequest, RequestGrid.unitAtOrigin]
  have hrun : (smallService.call originRequest false).outcome.toOption.map (fun a =>
      (a.crs.code, a.raster.envelope.axes)) =
      some (.wgs84, [⟨.finite (1 / 2), .finite 3⟩, ⟨.finite (1 / 2), .finite 3⟩]) := by
    decide +kernel
  have hplan : ((CoverageDescriptor.small ["a"]).validate Encoder.standard Settings.standard
      originRequest).toOption.map (fun q : Query Exact =>
        (q.targetGrid.transform.isIdentity, q.targetGrid.envelope.axes)) =
      some (true, [⟨.finite 0, .finite 3⟩, ⟨.finite 0, .finite 3⟩]) := by
    decide +kernel
  obtain ⟨a, ha, hplaced⟩ := exists_of_toOption_map hrun
  obtain ⟨q, hq, hplanned⟩ := exists_of_toOption_map hplan
  obtain ⟨hcode, hraster⟩ := Prod.mk.inj hplaced
  obtain ⟨hid, htarget⟩ := Prod.mk.inj hplanned
  obtain ⟨q', raw, ground, hq', -, -, -, -, -, hnear, -⟩ :=
    call_planned smallService_isRational (d := .small ["a"]) rfl hgrid ha hcode
  obtain rfl := Except.ok.inj (hq.symm.trans hq')
  refine ⟨by decide +kernel, hgrid, a, q, ground, ha, hcode, hq, hnear hid, ?_⟩
  have hapart : (Envelope.plane ⟨1 / 2, 3⟩ ⟨1 / 2, 3⟩ none).isNear Raster.sameBox
      (.plane ⟨0, 3⟩ ⟨0, 3⟩ none) = false := by
    decide +kernel
  rw [← hapart]
  exact Envelope.isNear_congr hraster htarget

end Small

end Service

end GeoRaster
