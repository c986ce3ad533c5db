import GeoRaster.Projection.Standard
import GeoRaster.Proofs.DeliveredShape
import GeoRaster.Proofs.Double
import Mathlib.Data.List.Zip

namespace GeoRaster

variable {α σ : Type}

/-- Every axis has finite bounds, the lower one below the upper one. -/
def Envelope.HasArea (e : Envelope Float) : Prop :=
  ∀ a ∈ e.axes, a.min < a.max ∧ a.min.isFinite = true ∧ a.max.isFinite = true

instance (e : Envelope Float) : Decidable e.HasArea :=
  inferInstanceAs (Decidable (∀ a ∈ e.axes, _))

/-- The plan asks for what the raster is: all of its bands in order, a box around it, a grid of its
size that lies where it lies or has no place of its own, and its own system. The kernel is free. -/
structure PipelinePlan.Describes [Scalar α] (plan : PipelinePlan α) (r : Raster α σ) : Prop where
  bands_eq : plan.bands = List.range r.bands.length
  nativeCode_eq : plan.nativeCrs.code = r.crs.code
  targetCode_eq : plan.targetCrs.code = r.crs.code
  dimension_eq : plan.envelope.dimension = r.envelope.dimension
  holds_eq : plan.envelope.holds r.envelope = true
  width_eq : plan.targetGrid.width = r.width
  height_eq : plan.targetGrid.height = r.height
  lies : plan.targetGrid.transform.isIdentity = true ∨
    r.envelope.isNear Raster.sameBox plan.targetGrid.envelope = true
  uncancelled : plan.cancelled = false

namespace Envelope

variable {e box : Envelope Float}

theorem HasArea.isNear_self (h : e.HasArea) : e.isNear Raster.sameBox e = true := by
  have htolerance : (0.0 : Float) < Raster.sameBox ∧ (Raster.sameBox : Float).isFinite = true := by
    decide +kernel
  have hzip : e.axes.zip e.axes = e.axes.map fun a => (a, a) := by
    simpa using List.zip_map' (f := id) (g := id) (l := e.axes)
  rw [isNear, decide_eq_true rfl, Bool.true_and, hzip, List.all_map, List.all_eq_true]
  intro a ha
  obtain ⟨-, hmin, hmax⟩ := h a ha
  exact Double.isNear_self hmin hmax htolerance.1 htolerance.2

theorem HasArea.meet?_eq (h : e.HasArea) (hd : box.dimension = e.dimension)
    (hb : box.holds e = true) : e.meet? box = some e := by
  have hzip (p) (hp : p ∈ e.axes.zip box.axes) : p.1 ∈ e.axes ∧ p.2.holds p.1 = true := by
    refine ⟨(List.of_mem_zip hp).1, ?_⟩
    rw [← List.zip_swap, List.mem_map] at hp
    obtain ⟨q, hq, rfl⟩ := hp
    exact List.all_eq_true.mp hb q hq
  have hoverlaps : e.overlaps box = true :=
    List.all_eq_true.mpr fun p hp =>
      Double.overlaps_of_holds (h p.1 (hzip p hp).1).1 (hzip p hp).2
  have hmeet : (e.axes.zip box.axes).map (fun p => p.1.meet p.2) = e.axes := by
    rw [List.map_congr_left fun p hp => Double.meet_of_holds (hzip p hp).2]
    exact List.map_fst_zip hd.ge
  rw [meet?, if_pos ⟨hd.symm, hoverlaps⟩]
  exact congrArg some (congrArg (Envelope.mk · e.crs) hmeet)

end Envelope

namespace Raster

def IsMade (r : Raster α σ) : Prop :=
  ∃ width height bands e crs, make width height bands e crs = .ok r

namespace IsMade

variable {r : Raster α σ}

theorem make_eq (h : r.IsMade) {crs : Crs} (hc : crs.code = r.crs.code) :
    make r.width r.height r.bands r.envelope crs = .ok r := by
  obtain ⟨width, height, bands, e, c, h⟩ := h
  obtain ⟨hcells, hsize, rfl⟩ := make_eq_ok.mp h
  have hcrs : crs.eastingFirst = c.eastingFirst :=
    congrArg (Crs.mk · .eastingFirst) hc
  refine make_eq_ok.mpr ⟨hcells, hsize, ?_⟩
  simp only [blank, withBands, hcrs]

end IsMade

variable [Scalar α] [Scalar σ] [Narrowing α σ] [Atlas α] {r a : Raster α σ} {plan : PipelinePlan α}

theorem isMade_run (h : r.run plan = .ok a) : a.IsMade := by
  rw [run] at h
  split at h
  · exact absurd h (by simp)
  · obtain ⟨selected, -, h⟩ := bind_eq_ok.mp h
    obtain ⟨⟨cropped, extent⟩, -, h⟩ := bind_eq_ok.mp h
    dsimp only at h
    split at h
    · exact absurd h (by simp)
    · obtain ⟨scaled, -, h⟩ := bind_eq_ok.mp h
      obtain ⟨e, -, he⟩ | ⟨bands, extent, hm⟩ :=
        reproject_cases scaled plan.targetCrs plan.interpolation
      · rw [he] at h
        exact absurd h (by simp)
      · rw [hm, ofRasterFault_eq_ok] at h
        exact ⟨_, _, _, _, _, h⟩

/-- Each stage leaves a raster alone that is what the plan describes. -/
theorem run_of_describes (hr : r.IsMade) (hd : plan.Describes r)
    (hmeet : r.envelope.meet? plan.envelope = some r.envelope)
    (hnear : r.envelope.isNear sameBox r.envelope = true) : r.run plan = .ok r := by
  have hselect : r.selectBands plan.bands = .ok r := by
    rw [selectBands_eq_mapError, hd.bands_eq, Band.select, if_pos rfl]
    exact ofRasterFault_eq_ok.mpr (hr.make_eq rfl)
  have hcrop : r.crop plan.envelope = .ok (r, r.envelope) := by
    simp only [crop, hmeet, hnear, if_true]
  have hextent : r.envelope.isNear sameBox (plannedExtent plan.targetGrid r.envelope) = true := by
    rw [plannedExtent]
    split
    · exact hnear
    · rename_i hplaced
      exact hd.lies.resolve_left hplaced
  have hscale : r.scale (plannedExtent plan.targetGrid r.envelope) plan.targetGrid.width
      plan.targetGrid.height plan.interpolation = .ok r := by
    rw [scale_eq_ite, if_pos ⟨hd.width_eq.symm, hd.height_eq.symm, hextent⟩]
  have hreproject : r.reproject plan.targetCrs plan.interpolation = .ok r := by
    have hidentity : (Transformation.between r.crs.code plan.targetCrs.eastingFirst.code :
        Transformation α).isIdentity = true := by
      simp [Transformation.between, Transformation.isIdentity, Crs.eastingFirst, Crs.ofCode,
        hd.targetCode_eq]
    rw [reproject_of_identity hidentity]
    exact ofRasterFault_eq_ok.mpr (hr.make_eq hd.targetCode_eq)
  rw [run, if_neg (not_not.mpr hd.nativeCode_eq.symm), hselect]
  simp only [bind, Except.bind, hcrop, hd.uncancelled, hscale, hreproject, Bool.false_eq_true,
    if_false]

end Raster

namespace Raster

/-- In double precision, too, a plan that describes a raster of finite bounds and positive area
leaves it as it is, samples and all; and so does one that describes the answer of a run, when the
answer is run again. -/
theorem run_settled [Scalar σ] [Narrowing Float σ] [Atlas Float] :
    (∀ (r : Raster Float σ) (plan : PipelinePlan Float), r.IsMade → r.envelope.HasArea →
      plan.Describes r → r.run plan = .ok r) ∧
      ∀ (r a : Raster Float σ) (plan again : PipelinePlan Float), r.run plan = .ok a →
        a.envelope.HasArea → again.Describes a → a.run again = .ok a := by
  have hsettled (r : Raster Float σ) (plan : PipelinePlan Float) (hr : r.IsMade)
      (harea : r.envelope.HasArea) (hd : plan.Describes r) : r.run plan = .ok r :=
    run_of_describes hr hd (harea.meet?_eq hd.dimension_eq hd.holds_eq) harea.isNear_self
  exact ⟨hsettled, fun r a plan again h harea hd => hsettled a again (isMade_run h) harea hd⟩

section Small

def fourCells : Raster Float Float32 where
  width := 2
  height := 2
  bands := [⟨"a", #[1.5, 0.0 / 0.0, -9999, 4], some (-9999)⟩]
  envelope := .ofBounds ⟨10, 20, 30, 60⟩ (some ⟨.wgs84, .eastingFirst⟩)
  crs := ⟨.wgs84, .eastingFirst⟩

def fourCellsOver (b : Bounds Float) (native target : Crs.Code) (method : Interpolation) :
    PipelinePlan Float where
  bands := [0]
  envelope := .ofBounds ⟨0, 20, 40, 90⟩ none
  targetGrid := {
    range := .ofSize 2 2
    transform := .ofBounds b 2 2
    crs := none
    planar := by decide }
  nativeCrs := .ofCode native
  targetCrs := .ofCode target
  interpolation := method
  cancelled := false

theorem run_settled_fourCells :
    fourCells.run (fourCellsOver ⟨10.00000001, 20, 30, 60⟩ .wgs84 .wgs84 .bilinear) =
        .ok fourCells ∧
      ∃ a, fourCells.run (fourCellsOver ⟨10, 20, 20, 60⟩ .wgs84 .nad83 .nearest) = .ok a ∧
        a.run (fourCellsOver ⟨10, 20, 20, 60⟩ .nad83 .nad83 .cubic) = .ok a := by
  have hmade : fourCells.IsMade := ⟨2, 2, fourCells.bands, fourCells.envelope, fourCells.crs, rfl⟩
  have harea : fourCells.envelope.HasArea := by decide +kernel
  have hdescribes : (fourCellsOver ⟨10.00000001, 20, 30, 60⟩ .wgs84 .wgs84 .bilinear).Describes
      fourCells := by
    constructor <;> decide +kernel
  have hanswer : (fourCells.run (fourCellsOver ⟨10, 20, 20, 60⟩ .wgs84 .nad83 .nearest)).toOption.map
      (fun a => (a.width, a.height, a.bands.length, a.crs, a.envelope)) =
      some (2, 2, 1, ⟨.nad83, .eastingFirst⟩,
        .ofBounds ⟨10, 20, 20, 60⟩ (some ⟨.nad83, .eastingFirst⟩)) := by
    decide +kernel
  obtain ⟨a, ha, hanswer⟩ := exists_of_toOption_map hanswer
  simp only [Prod.mk.injEq] at hanswer
  obtain ⟨hwidth, hheight, hbands, hcrs, henvelope⟩ := hanswer
  have harea' : a.envelope.HasArea := by
    rw [henvelope]
    decide +kernel
  have hdescribes' : (fourCellsOver ⟨10, 20, 20, 60⟩ .nad83 .nad83 .cubic).Describes a := by
    constructor <;> (try simp only [hwidth, hheight, hbands, hcrs, henvelope]) <;> decide +kernel
  exact ⟨run_settled.1 fourCells _ hmade harea hdescribes, a, ha,
    run_settled.2 fourCells a _ _ ha harea' hdescribes'⟩

end Small

end Raster

end GeoRaster
