import GeoRaster.Proofs.NearestAnswer
import GeoRaster.Proofs.RowWindow
import GeoRaster.Reader

namespace GeoRaster

/-- The bands have the names and the markers of missing samples that the coverage is described
with. -/
structure CoverageDescriptor.BandsMatch [Narrowing Exact Float32] (d : CoverageDescriptor Exact)
    (r : Raster Exact Float32) : Prop where
  names_eq : r.bands.map Band.name = d.bands.map BandDefinition.name
  noData_eq : r.bands.map Band.noData = d.bands.map fun b => b.noData.head?.map narrow

namespace RawFileEntry

/-- The box shares ground with the coverage, but not with the rows that are read for it. -/
def Misses (e : RawFileEntry Exact Float32) (box : Envelope Exact) : Prop :=
  (e.envelope.meet? box).isSome = true ∧ ((e.rowsEnvelope (e.rowsOf box)).meet? box).isNone = true

instance (e : RawFileEntry Exact Float32) (box : Envelope Exact) : Decidable (e.Misses box) :=
  inferInstanceAs (Decidable (_ ∧ _))

/-- What is read makes no difference to where the answer lies. A plan whose map is the identity has
no place of its own: its answer goes where the crop says that the box lies on the raster, unless the
kept cells lie there already. -/
def SharesGround (e : RawFileEntry Exact Float32) (r : Raster Exact Float32)
    (plan : PipelinePlan Exact) : Prop :=
  plan.targetGrid.transform.isIdentity = true →
    Raster.coveredBy r.envelope plan.envelope =
        Raster.coveredBy (e.rowsEnvelope (e.rowsOf plan.envelope)) plan.envelope ∨
      (∀ extent ∈ Raster.coveredBy r.envelope plan.envelope,
        (r.kept plan.envelope).FitsOn extent plan.targetGrid.width plan.targetGrid.height) ∧
      ∀ extent ∈ Raster.coveredBy (e.rowsEnvelope (e.rowsOf plan.envelope)) plan.envelope,
        (r.kept plan.envelope).FitsOn extent plan.targetGrid.width plan.targetGrid.height

/-- A crop keeps the same of the rows that are read as of the whole raster. -/
def KeepsAlike (e : RawFileEntry Exact Float32) (r : Raster Exact Float32) (box : Envelope Exact) :
    Prop :=
  (r.part ⟨0, r.width⟩ (e.rowsOf box)).kept box = r.kept box

/-- The rows that are read are as good as the whole raster. -/
structure AgreesOn (e : RawFileEntry Exact Float32) (r : Raster Exact Float32) (q : Query Exact) :
    Prop where
  not_misses : ¬ e.Misses q.envelope
  keepsAlike : e.KeepsAlike r q.envelope
  sharesGround : e.SharesGround r (Service.planOf q)

theorem describes_ofDescriptor [Narrowing Exact Float32] {d : CoverageDescriptor Exact}
    {n : NorthUp} {r : Raster Exact Float32} (hd : d.LiesOn n) (hr : d.IsFull r)
    (hb : d.BandsMatch r) (path : String) : (ofDescriptor d path).Describes r where
  width_eq := by
    rw [ofDescriptor, GridGeometry.width, GridRange.width, hr.width_eq]
    rfl
  height_eq := by
    rw [ofDescriptor, GridGeometry.height, GridRange.height, hr.height_eq]
    rfl
  bandNames_eq := hb.names_eq.symm
  noData_eq := hb.noData_eq.symm
  envelope_eq := hr.envelope_eq.symm
  crs_eq := (hr.crs_eq hd).symm

end RawFileEntry

namespace Raster

variable [Narrowing Exact Float32] [Atlas Exact] {r : Raster Exact Float32} {x y : Interval ℚ}
  {e : RawFileEntry Exact Float32} {plan : PipelinePlan Exact}

theorem run_misses (he : e.Describes r) (h : r.LiesOver x y)
    (hcode : r.crs.code = plan.nativeCrs.code) (hi : ∀ i ∈ plan.bands, i < r.bands.length)
    (hm : e.Misses plan.envelope) :
    (r.part ⟨0, r.width⟩ (e.rowsOf plan.envelope)).run plan = .error .emptyIntersection := by
  have hp := h.part_liesOver (CellSpan.fits_all h.width_pos) (he.fits_rowsOf h plan.envelope)
  have hi' : ∀ i ∈ plan.bands, i < (r.part ⟨0, r.width⟩ (e.rowsOf plan.envelope)).bands.length := by
    simpa [part] using hi
  have hs := selectBands_eq hp hi'
  have hnone := Option.isNone_iff_eq_none.mp hm.2
  rw [he.rowsEnvelope_eq h] at hnone
  exact run_error (r := r.part ⟨0, r.width⟩ (e.rowsOf plan.envelope)) hcode hs
    (crop_disjoint hnone)

section Rows

omit [Narrowing Exact Float32] [Atlas Exact]

variable {box : Envelope Exact} {cx cy : Interval ℚ}

theorem rowsOf_liesOver (he : e.Describes r) (h : r.LiesOver x y) (box : Envelope Exact) :
    (r.part ⟨0, r.width⟩ (e.rowsOf box)).LiesOver x (y.groundDown r.height (e.rowsOf box)) := by
  have hp := h.part_liesOver (CellSpan.fits_all h.width_pos) (he.fits_rowsOf h box)
  rwa [Interval.groundUp_all x h.width_pos] at hp

theorem meets_rowsOf (he : e.Describes r) (h : r.LiesOver x y) (hb : box.Shows x y cx cy)
    (hm : ¬ e.Misses box) : (y.groundDown r.height (e.rowsOf box)).Meets cy := by
  by_contra hno
  have hp := rowsOf_liesOver he h box
  have hmeet : r.envelope.meet? box = some (.plane cx cy (some r.crs)) := by
    rw [h.envelope_eq]
    exact hb.meet?_plane h.x_lt h.y_lt _
  have hnone := (hb.meet?_part ⟨le_rfl, le_rfl⟩
    (Interval.groundDown_within h.y_lt (he.fits_rowsOf h box)) hp.x_lt hp.y_lt (some r.crs)).mpr
    fun hboth => hno hboth.2
  apply hm
  constructor
  · rw [he.envelope_eq, hmeet]
    rfl
  · rw [he.rowsEnvelope_eq h, h.spans.blockEnvelope_eq, Interval.groundUp_all x h.width_pos, hnone]
    rfl

theorem shows_rowsOf (he : e.Describes r) (h : r.LiesOver x y) (hb : box.Shows x y cx cy)
    (hm : ¬ e.Misses box) :
    ∃ ry, box.Shows x (y.groundDown r.height (e.rowsOf box)) cx ry := by
  have hp := rowsOf_liesOver he h box
  have hs := hb.restrict ⟨le_rfl, le_rfl⟩
    (Interval.groundDown_within h.y_lt (he.fits_rowsOf h box)) hp.x_lt hp.y_lt hb.x_meets
    (meets_rowsOf he h hb hm)
  rw [Interval.common_of_within hb.x_within] at hs
  exact ⟨_, hs⟩

theorem crop_pick (h : r.LiesOver x y) (hb : box.Shows x y cx cy) (indices : List ℕ) :
    ∃ extent, (r.pick indices).crop box = .ok ((r.kept box).pick indices, extent) := by
  obtain ⟨-, -, extent, hcrop⟩ := (h.pick indices).crop_window hb
  refine ⟨extent, hcrop.trans ?_⟩
  rw [kept, part_pick]
  rfl

theorem keepsAlike_of_resolves (he : e.Describes r) (h : r.LiesOver x y) (hx : x.Resolves r.width)
    (hy : y.Resolves r.height) (hm : ¬ e.Misses box) : e.KeepsAlike r box := by
  cases hmeet : r.envelope.meet? box with
  | none => rw [RawFileEntry.KeepsAlike, he.rowsOf_disjoint hmeet, h.spans.part_all h.size_eq]
  | some common =>
    obtain ⟨cx, cy, hb⟩ := h.exists_shows hmeet
    obtain ⟨ry, hb'⟩ := shows_rowsOf he h hb hm
    have hreached := he.rowsOf_eq h hb
    obtain ⟨-, -, extent, hwindow⟩ := h.crop_window hb
    obtain ⟨-, -, extent', hwindow'⟩ := (rowsOf_liesOver he h box).crop_window hb'
    have hcrop := h.crop_resolved hx hy hb
    obtain ⟨_, hcrop'⟩ := h.crop_rows hx hy hb hreached (meets_rowsOf he h hb hm)
    have hkept := (Prod.mk.inj (Except.ok.inj (hwindow.symm.trans hcrop))).1
    have hkept' := (Prod.mk.inj (Except.ok.inj (hwindow'.symm.trans hcrop'))).1
    rw [← hreached] at hkept
    exact hkept'.trans hkept.symm

end Rows

theorem deliver_fits {c : Raster Exact Float32} {extent : Envelope Exact}
    (hf : c.FitsOn extent plan.targetGrid.width plan.targetGrid.height) :
    c.deliver extent plan = c.reproject plan.targetCrs plan.interpolation := by
  rw [deliver, scale_of_fits hf]
  rfl

omit [Atlas Exact] in
theorem fitted_inj {c : Raster Exact Float32} {a b : Interval ℚ} (hc : c.LiesOver a b)
    {extent extent' : Envelope Exact} {width height : ℕ} {method : Interpolation}
    (he : extent.crs = extent'.crs) (hcrs : extent.crs = some c.crs)
    (h : c.fitted extent width height method = c.fitted extent' width height method) :
    extent = extent' ∨ c.FitsOn extent width height ∧ c.FitsOn extent' width height := by
  have hself : ∀ e : Envelope Exact, e.crs = some c.crs →
      c = c.scaled e width height method → c.FitsOn e width height := by
    intro e hecrs heq
    have henv : c.envelope = { e with crs := some c.crs.eastingFirst } :=
      congrArg Raster.envelope heq
    have hsame : c.envelope = e := by
      rw [henv, eastingFirst_eq hc.order_eq, ← hecrs]
    refine ⟨congrArg Raster.width heq, congrArg Raster.height heq, ?_⟩
    rw [← hsame]
    exact hc.isNear_self
  by_cases hf : c.FitsOn extent width height
  · by_cases hf' : c.FitsOn extent' width height
    · exact .inr ⟨hf, hf'⟩
    · rw [fitted_of_fits hf, fitted_of_not_fits hf'] at h
      exact absurd (hself extent' (he ▸ hcrs) h) hf'
  · by_cases hf' : c.FitsOn extent' width height
    · rw [fitted_of_not_fits hf, fitted_of_fits hf'] at h
      exact absurd (hself extent hcrs h.symm) hf
    · left
      rw [fitted_of_not_fits hf, fitted_of_not_fits hf'] at h
      have haxes : extent.axes = extent'.axes :=
        congrArg (fun s : Raster Exact Float32 => s.envelope.axes) h
      obtain ⟨axes, crs⟩ := extent
      obtain ⟨axes', crs'⟩ := extent'
      obtain rfl : axes = axes' := haxes
      obtain rfl : crs = crs' := he
      rfl

theorem exists_deliveries (he : e.Describes r) (h : r.LiesOver x y)
    (hcode : r.crs.code = plan.nativeCrs.code) (hi : ∀ i ∈ plan.bands, i < r.bands.length)
    (hplan : plan.cancelled = false) (hm : ¬ e.Misses plan.envelope)
    (hk : e.KeepsAlike r plan.envelope) {cx cy : Interval ℚ} (hb : plan.envelope.Shows x y cx cy) :
    ∃ extent extent', coveredBy r.envelope plan.envelope = some extent ∧
      coveredBy (e.rowsEnvelope (e.rowsOf plan.envelope)) plan.envelope = some extent' ∧
      r.run plan = ((r.kept plan.envelope).pick plan.bands).deliver
        (plannedExtent plan.targetGrid extent) plan ∧
      (r.part ⟨0, r.width⟩ (e.rowsOf plan.envelope)).run plan =
        ((r.kept plan.envelope).pick plan.bands).deliver
          (plannedExtent plan.targetGrid extent') plan := by
  have hp := rowsOf_liesOver he h plan.envelope
  have hi' : ∀ i ∈ plan.bands,
      i < (r.part ⟨0, r.width⟩ (e.rowsOf plan.envelope)).bands.length := by
    simpa [part] using hi
  obtain ⟨ry, hb'⟩ := shows_rowsOf he h hb hm
  obtain ⟨extent, hcrop⟩ := crop_pick h hb plan.bands
  obtain ⟨extent', hcrop'⟩ := crop_pick hp hb' plan.bands
  rw [hk] at hcrop'
  refine ⟨extent, extent', coveredBy_of_crop (r := r.pick plan.bands) hcrop, ?_,
    run_eq hcode hplan (selectBands_eq h hi) hcrop,
    run_eq (r := r.part ⟨0, r.width⟩ (e.rowsOf plan.envelope)) hcode hplan
      (selectBands_eq hp hi') hcrop'⟩
  rw [he.rowsEnvelope_eq h]
  exact coveredBy_of_crop hcrop'

/-- The rows that are read make the same answer as the whole raster. -/
theorem run_rows (he : e.Describes r) (h : r.LiesOver x y)
    (hcode : r.crs.code = plan.nativeCrs.code) (hi : ∀ i ∈ plan.bands, i < r.bands.length)
    (hplan : plan.cancelled = false) (hm : ¬ e.Misses plan.envelope)
    (hk : e.KeepsAlike r plan.envelope) (hg : e.SharesGround r plan) :
    (r.part ⟨0, r.width⟩ (e.rowsOf plan.envelope)).run plan = r.run plan := by
  cases hmeet : r.envelope.meet? plan.envelope with
  | none => rw [he.rowsOf_disjoint hmeet, h.spans.part_all h.size_eq]
  | some common =>
    obtain ⟨cx, cy, hb⟩ := h.exists_shows hmeet
    obtain ⟨extent, extent', hcov, hcov', hrun, hrun'⟩ :=
      exists_deliveries he h hcode hi hplan hm hk hb
    rw [hrun, hrun']
    cases hid : plan.targetGrid.transform.isIdentity with
    | false =>
      rw [plannedExtent, plannedExtent, hid]
      rfl
    | true =>
      rw [plannedExtent, plannedExtent, hid]
      simp only [if_true]
      obtain hsame | ⟨hfits, hfits'⟩ := hg hid
      · rw [hcov, hcov'] at hsame
        rw [Option.some.inj hsame]
      · have hf := hfits extent hcov
        have hf' := hfits' extent' hcov'
        exact (deliver_fits (c := (r.kept plan.envelope).pick plan.bands) hf').trans
          (deliver_fits (c := (r.kept plan.envelope).pick plan.bands) hf).symm

/-- In the system of the raster, whatever else is read makes another answer. -/
theorem of_run_rows (he : e.Describes r) (h : r.LiesOver x y) (hx : x.Resolves r.width)
    (hy : y.Resolves r.height) (hcode : r.crs.code = plan.nativeCrs.code)
    (hi : ∀ i ∈ plan.bands, i < r.bands.length) (hplan : plan.cancelled = false)
    (hn : plan.targetGrid.width * plan.targetGrid.height < 2 ^ 64)
    (ht : plan.targetCrs.code = r.crs.code) {cx cy : Interval ℚ}
    (hb : plan.envelope.Shows x y cx cy)
    (heq : (r.part ⟨0, r.width⟩ (e.rowsOf plan.envelope)).run plan = r.run plan) :
    ¬ e.Misses plan.envelope ∧ e.SharesGround r plan := by
  have hm : ¬ e.Misses plan.envelope := by
    intro hm
    rw [run_misses he h hcode hi hm, h.run_answer hcode hi hb hplan hn ht] at heq
    exact absurd heq (by simp)
  refine ⟨hm, fun hid => ?_⟩
  have hk := keepsAlike_of_resolves he h hx hy hm
  obtain ⟨extent, extent', hcov, hcov', hrun, hrun'⟩ :=
    exists_deliveries he h hcode hi hplan hm hk hb
  obtain ⟨hc, hr, -⟩ := h.crop_window hb
  have hp : ((r.kept plan.envelope).pick plan.bands).LiesOver _ _ :=
    (h.part_liesOver hc hr).pick plan.bands
  have hcrs : extent.crs = some r.crs := by
    rw [coveredBy_crs hcov, h.envelope_eq, Envelope.plane_crs]
  have hcrs' : extent'.crs = some r.crs := by
    rw [coveredBy_crs hcov', he.rowsEnvelope_eq h, h.spans.blockEnvelope_eq, Envelope.plane_crs]
  rw [hrun, hrun', plannedExtent, plannedExtent, hid] at heq
  simp only [if_true] at heq
  rw [hp.deliver_fitted hn ht, hp.deliver_fitted hn ht] at heq
  obtain hsame | ⟨hf', hf⟩ := fitted_inj hp (hcrs'.trans hcrs.symm) hcrs' (Except.ok.inj heq)
  · left
    rw [hcov, hcov', hsame]
  · right
    rw [hcov, hcov']
    constructor
    · rintro _ ⟨⟩
      exact hf
    · rintro _ ⟨⟩
      exact hf'

end Raster

/-- The raster of a coverage is held in memory, and its samples in a file. -/
structure HeldTwice [Narrowing Exact Float32] (d : CoverageDescriptor Exact)
    (r : Raster Exact Float32) (memory : MemoryReader Exact Float32)
    (raw : RawFileReader Exact Float32) (path : String) (files : String → Except String ByteArray) :
    Prop where
  memory_eq : memory.find? d.id = some r
  entry_eq : raw.find? d.id = some (.ofDescriptor d path)
  file_eq : files path = .ok (encodeBands r.bands)
  size_lt : (encodeBands r.bands).size < 2 ^ 63

namespace Service

section Readers

variable {α σ : Type} [Scalar α] [Scalar σ] [Narrowing α σ]

def overFiles [SampleWord σ] (s : Service α σ) (raw : RawFileReader α σ) (task : ReadTask)
    (files : String → Except String ByteArray) : Service α σ :=
  { s with reader := raw.toReader task files }

def overMemory (s : Service α σ) (memory : MemoryReader α σ) : Service α σ :=
  { s with reader := memory.toReader s.settings.readTimeout }

end Readers

section Agreement

variable [Narrowing Exact Float32] [Atlas Exact] {d : CoverageDescriptor Exact} {n : NorthUp}
  {r : Raster Exact Float32} {s : Service Exact Float32}
  {memory : MemoryReader Exact Float32} {raw : RawFileReader Exact Float32} {path : String}
  {files : String → Except String ByteArray}

omit [Atlas Exact] in
theorem read_rawFile (hd : d.LiesOn n) (hr : d.IsFull r) (hb : d.BandsMatch r)
    (hheld : HeldTwice d r memory raw path files) {task : ReadTask}
    (hbuild : task.build = .wrapping ∨ r.bands ≠ []) (box : Envelope Exact) :
    raw.toReader task files d.id box =
      .raster (r.part ⟨0, r.width⟩
        ((RawFileEntry.ofDescriptor (σ := Float32) d path).rowsOf box)) := by
  have he := RawFileEntry.describes_ofDescriptor hd hr hb path
  have hpath : (RawFileEntry.ofDescriptor (σ := Float32) d path).path = path := rfl
  rw [RawFileReader.toReader, RawFileReader.read, hheld.entry_eq]
  simp only [hpath, hheld.file_eq, he.read_eq (hr.liesOver hd) hheld.size_lt hbuild]
  rfl

omit [Atlas Exact] in
theorem read_memory (hheld : HeldTwice d r memory raw path files) {timeout : Duration}
    (hdelay : memory.delay.nanoseconds ≤ timeout.nanoseconds) (box : Envelope Exact) :
    memory.toReader timeout d.id box = .raster r := by
  rw [MemoryReader.toReader, if_neg (Nat.not_lt.mpr hdelay), hheld.memory_eq]

theorem agreesOn_of_finish {q : Query Exact} (hd : d.LiesOn n) (hr : d.IsFull r)
    (hb : d.BandsMatch r) (hx : (n.easting d.gridGeometry).Resolves r.width)
    (hy : (n.northing d.gridGeometry).Resolves r.height)
    {request : CoverageRequest Exact} (ha : d.Accepts request q)
    (hcrs : q.targetCrs.code = d.nativeCrs.code)
    (heq : finish q (r.part ⟨0, r.width⟩
        ((RawFileEntry.ofDescriptor (σ := Float32) d path).rowsOf q.envelope)) = finish q r) :
    (RawFileEntry.ofDescriptor d path).AgreesOn r q := by
  have he := RawFileEntry.describes_ofDescriptor hd hr hb path
  have hl := hr.liesOver hd
  have hstrong : ¬ (RawFileEntry.ofDescriptor d path).Misses q.envelope ∧
      (RawFileEntry.ofDescriptor d path).SharesGround r (planOf q) := by
    cases hmeet : r.envelope.meet? q.envelope with
    | none =>
      refine ⟨fun hm => ?_, fun _ => .inl ?_⟩
      · rw [RawFileEntry.Misses, he.envelope_eq, hmeet] at hm
        exact absurd hm.1 (by simp)
      · have hrows : (RawFileEntry.ofDescriptor (σ := Float32) d path).rowsOf
            (planOf q).envelope = ⟨0, r.height⟩ := he.rowsOf_disjoint hmeet
        have hall : r.blockEnvelope ⟨0, r.width⟩ ⟨0, r.height⟩ = r.envelope :=
          congrArg Raster.envelope (hl.spans.part_all hl.size_eq)
        rw [hrows, he.rowsEnvelope_eq hl, hall]
    | some common =>
      obtain ⟨cx, cy, hshows⟩ := hl.exists_shows hmeet
      have hcode := hr.code_eq hd
      have hnative : r.crs.code = (planOf q).nativeCrs.code := hcode.trans ha.code_eq.symm
      have hcount := ha.count_le.trans_lt (by decide : maxCount < 2 ^ 64)
      obtain ⟨hi, hrun⟩ := hr.run_answer hd ha hcrs hshows
      have hwell : (r.answer (planOf q)).WellFormed := hl.answer_wellFormed hshows
      obtain ⟨g, hg⟩ := exists_gridOf hwell.width_pos hwell.height_pos q
      rw [finish_ok hrun hg] at heq
      obtain ⟨hfile, -⟩ := of_finish_ok (congrArg Call.outcome heq)
      exact Raster.of_run_rows he hl hx hy hnative hi rfl hcount (hcrs.trans hcode.symm) hshows
        (hfile.trans hrun.symm)
  exact ⟨hstrong.1, Raster.keepsAlike_of_resolves he hl hx hy hstrong.1, hstrong.2⟩

/-- A service over a file finds nothing where the rows that it reads miss the box, and answers like
one over memory where they are as good as the raster. If cells are long enough, a crop always keeps
the same of both, and in the system of the coverage the answers agree nowhere else. -/
theorem call_rawFile (request : CoverageRequest Exact) (hd : d.LiesOn n) (hr : d.IsFull r)
    (hb : d.BandsMatch r) (hs : s.catalog.descriptor? request.coverageId = some d)
    (hheld : HeldTwice d r memory raw path files)
    (hdelay : memory.delay.nanoseconds ≤ s.settings.readTimeout.nanoseconds) (task : ReadTask)
    (hbuild : task.build = .wrapping ∨ r.bands ≠ []) (cancelled : Bool) :
    match d.validate s.registry s.settings request with
    | .error _ =>
      (s.overFiles raw task files).call request cancelled = (s.overMemory memory).call request cancelled
    | .ok q =>
      (cancelled = false → (RawFileEntry.ofDescriptor d path).Misses q.envelope →
        (s.overFiles raw task files).call request cancelled = ⟨.error .emptyIntersection, .read⟩) ∧
      (cancelled = true ∨ (RawFileEntry.ofDescriptor d path).AgreesOn r q →
        (s.overFiles raw task files).call request cancelled =
          (s.overMemory memory).call request cancelled) ∧
      ((n.easting d.gridGeometry).Resolves r.width →
        (n.northing d.gridGeometry).Resolves r.height →
        (¬ (RawFileEntry.ofDescriptor d path).Misses q.envelope →
          (RawFileEntry.ofDescriptor d path).KeepsAlike r q.envelope) ∧
        (q.targetCrs.code = d.nativeCrs.code →
          (s.overFiles raw task files).call request cancelled =
            (s.overMemory memory).call request cancelled →
          cancelled = true ∨ (RawFileEntry.ofDescriptor d path).AgreesOn r q)) := by
  have he := RawFileEntry.describes_ofDescriptor hd hr hb path
  have hl := hr.liesOver hd
  cases hq : d.validate s.registry s.settings request with
  | error e =>
    exact (call_rejected (s := s.overFiles raw task files) cancelled hs hq).trans
      (call_rejected (s := s.overMemory memory) cancelled hs hq).symm
  | ok q =>
    cases cancelled with
    | true =>
      refine ⟨fun h => absurd h (by simp), fun _ => ?_, fun hx hy => ⟨fun hm => ?_, fun _ _ => ?_⟩⟩
      · exact (call_cancelled (s := s.overFiles raw task files) hs hq).trans
          (call_cancelled (s := s.overMemory memory) hs hq).symm
      · exact Raster.keepsAlike_of_resolves he hl hx hy hm
      · exact .inl rfl
    | false =>
      have ha := CoverageDescriptor.accepts_of_validate hq
      have hcode : r.crs.code = (planOf q).nativeCrs.code :=
        (hr.code_eq hd).trans ha.code_eq.symm
      have hi : ∀ i ∈ (planOf q).bands, i < r.bands.length := hr.band_lt ha
      have hfile := read_rawFile hd hr hb hheld hbuild q.envelope
      have hmemory := read_memory hheld hdelay q.envelope
      rw [← ha.id_eq] at hfile hmemory
      rw [call_accepted (s := s.overFiles raw task files) hs hq hfile,
        call_accepted (s := s.overMemory memory) hs hq hmemory]
      refine ⟨fun _ hm => ?_, fun h => ?_, fun hx hy => ⟨fun hm => ?_, fun hcrs h => ?_⟩⟩
      · exact finish_error (Raster.run_misses he hl hcode hi hm)
      · have hagrees := h.resolve_left (by simp)
        exact finish_congr (Raster.run_rows he hl hcode hi rfl hagrees.not_misses
          hagrees.keepsAlike hagrees.sharesGround)
      · exact Raster.keepsAlike_of_resolves he hl hx hy hm
      · exact .inr (agreesOn_of_finish hd hr hb hx hy ha hcrs h)

end Agreement

section Small

open scoped Geographic

def smallBand : Band Float32 := ⟨"a", Pattern.ramp 10 10, none⟩

def middleRequest : CoverageRequest Exact :=
  smallRequest (Envelope.planeBounds ⟨-4, 4⟩ ⟨-4, 4⟩) none

def smallMemory : MemoryReader Exact Float32 :=
  ⟨[("bands", CoverageDescriptor.smallRaster [smallBand])], ⟨0⟩⟩

def smallRaw : RawFileReader Exact Float32 :=
  ⟨[("bands", .ofDescriptor (.small ["a"]) "a.raw")]⟩

theorem call_rawFile_small :
    (small (smallRaw.toReader ⟨.checked, 1⟩ fun _ => .ok (encodeBands [smallBand]))).call
        middleRequest false =
      (small (smallMemory.toReader (.ofSeconds 30))).call
        middleRequest false := by
  have hsize : smallBand.data.size = 100 := by simp [smallBand, Pattern.ramp, Pattern.ofFn]
  have hfull : (CoverageDescriptor.small ["a"]).IsFull
      (CoverageDescriptor.smallRaster [smallBand]) :=
    CoverageDescriptor.small_isFull rfl (by simp [hsize])
  have hheld : HeldTwice (.small ["a"]) (CoverageDescriptor.smallRaster [smallBand]) smallMemory
      smallRaw "a.raw" fun _ => .ok (encodeBands [smallBand]) := by
    refine ⟨by decide +kernel, ?_, rfl, ?_⟩
    · rfl
    · show (encodeBands [smallBand]).size < 2 ^ 63
      rw [size_encodeBands (n := 100) (by simp [hsize])]
      decide
  have hplan : ((CoverageDescriptor.small ["a"]).validate Encoder.standard Settings.standard
      middleRequest).toOption.map
        (fun q => (q.targetGrid.transform.isIdentity,
          decide ((RawFileEntry.ofDescriptor (.small ["a"]) "a.raw").Misses q.envelope))) =
      some (false, false) := by
    decide +kernel
  have h := call_rawFile (s := small fun _ _ => .timedOut) middleRequest
    (CoverageDescriptor.small_liesOn ["a"]) hfull ⟨rfl, rfl⟩ rfl hheld (by decide) ⟨.checked, 1⟩
    (.inr (List.cons_ne_nil _ _)) false
  cases hq : (CoverageDescriptor.small ["a"]).validate Encoder.standard Settings.standard
      middleRequest with
  | error e =>
    rw [hq] at hplan
    exact absurd hplan (by simp [Except.toOption])
  | ok q =>
    rw [hq] at hplan
    obtain ⟨hid, hmiss⟩ : q.targetGrid.transform.isIdentity = false ∧
        ¬ (RawFileEntry.ofDescriptor (σ := Float32) (.small ["a"]) "a.raw").Misses q.envelope := by
      simpa [Except.toOption] using hplan
    simp only [small] at h
    rw [hq] at h
    obtain ⟨-, hagree, hresolves⟩ := h
    obtain ⟨hkeeps, -⟩ := hresolves (by decide +kernel) (by decide +kernel)
    exact hagree (.inr ⟨hmiss, hkeeps hmiss, fun h => absurd (hid.symm.trans h) Bool.false_ne_true⟩)

example : (RawFileEntry.ofDescriptor (.small ["a"]) "a.raw").Misses
    (.plane ⟨-4, 4⟩ ⟨0, 0⟩ (some (.ofCode .wgs84))) := by
  decide +kernel

end Small

end Service

end GeoRaster
