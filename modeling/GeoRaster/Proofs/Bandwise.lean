import GeoRaster.Coverage.Example
import GeoRaster.Proofs.PlannedExtent
import Mathlib.Logic.Relation

namespace GeoRaster

variable {α σ : Type}

section Selection

variable {bands bs : List (Band σ)} {indices : List ℕ}

theorem Band.select_eq_mapM : select bands indices = indices.mapM fun i => match bands[i]? with
    | some b => .ok b
    | none => .error (RasterFault.missingBand bands.length (i + 1)) := by
  rw [select]
  split
  · rename_i hr
    have hi : ∀ i ∈ indices, i < bands.length := fun i hi => List.mem_range.mp (hr ▸ hi)
    refine Eq.trans ?_ (mapM_pick hi).symm
    rw [hr, pick_range]
  · rfl

theorem Band.select_eq_ok :
    select bands indices = .ok bs ↔ List.Forall₂ (fun i b => bands[i]? = some b) indices bs := by
  rw [select_eq_mapM, mapM_eq_ok_iff]
  apply iff_of_eq
  congr! 3 with i b
  cases bands[i]? <;> simp

theorem Band.select_congr (hl : bs.length = bands.length)
    (h : ∀ i ∈ indices, bs[i]? = bands[i]?) : select bs indices = select bands indices := by
  rw [select_eq_mapM, select_eq_mapM, hl]
  induction indices with
  | nil => rfl
  | cons i indices ih =>
    rw [List.mapM_cons, List.mapM_cons, h i (List.mem_cons_self ..),
      ih fun j hj => h j (List.mem_cons_of_mem _ hj)]

end Selection

def PipelinePlan.selecting (plan : PipelinePlan α) (indices : List ℕ) : PipelinePlan α :=
  { plan with bands := indices }

namespace Raster

structure HasCells (r : Raster α σ) : Prop where
  width_pos : 0 < r.width
  height_pos : 0 < r.height

structure Filled (r : Raster α σ) : Prop extends r.HasCells where
  size_eq : ∀ b ∈ r.bands, b.data.size = r.width * r.height

def withBands (r : Raster α σ) (bands : List (Band σ)) : Raster α σ :=
  { r with bands := bands }

section WithBands

variable (r : Raster α σ) (bands : List (Band σ))

@[simp]
theorem width_withBands : (r.withBands bands).width = r.width := rfl

@[simp]
theorem height_withBands : (r.withBands bands).height = r.height := rfl

@[simp]
theorem bands_withBands : (r.withBands bands).bands = bands := rfl

@[simp]
theorem envelope_withBands : (r.withBands bands).envelope = r.envelope := rfl

@[simp]
theorem crs_withBands : (r.withBands bands).crs = r.crs := rfl

end WithBands

theorem hasCells_withBands {r : Raster α σ} {bands : List (Band σ)} :
    (r.withBands bands).HasCells ↔ r.HasCells :=
  ⟨fun h => ⟨h.width_pos, h.height_pos⟩, fun h => ⟨h.width_pos, h.height_pos⟩⟩

theorem HasCells.filled {r : Raster α σ} (h : r.HasCells) : (r.withBands []).Filled :=
  ⟨hasCells_withBands.mpr h, fun _ hb => absurd hb List.not_mem_nil⟩

def blank (width height : ℕ) (e : Envelope α) (crs : Crs) : Raster α σ :=
  ⟨width, height, [], { e with crs := some crs.eastingFirst }, crs.eastingFirst⟩

theorem make_eq_ok {width height : ℕ} {bands : List (Band σ)} {e : Envelope α} {crs : Crs}
    {a : Raster α σ} :
    make width height bands e crs = .ok a ↔ (0 < width ∧ 0 < height) ∧
      (∀ b ∈ bands, b.data.size = sampleCount width height) ∧
      a = (blank width height e crs).withBands bands := by
  rw [make]
  split
  · simp only [reduceCtorEq, false_iff]
    omega
  · have hcells : 0 < width ∧ 0 < height := by omega
    split
    · rename_i b hb
      have hne := List.find?_some hb
      simp only [reduceCtorEq, false_iff]
      intro h
      simp [h.2.1 b (List.mem_of_find?_eq_some hb)] at hne
    · rename_i hnone
      have hsize : ∀ b ∈ bands, b.data.size = sampleCount width height := by
        simpa using List.find?_eq_none.mp hnone
      simp only [Except.ok.injEq]
      exact ⟨fun h => ⟨hcells, hsize, h.symm⟩, fun h => h.2.2.symm⟩

theorem ofRasterFault_eq_ok {x : Except RasterFault (Raster α σ)} {a : Raster α σ} :
    x.mapError (Exception.ofRasterFault (α := α)) = .ok a ↔ x = .ok a := by
  cases x <;> simp [Except.mapError]

def eastingFirst (r : Raster α σ) : Raster α σ :=
  blank r.width r.height r.envelope r.crs

theorem hasCells_eastingFirst {r : Raster α σ} : r.eastingFirst.HasCells ↔ r.HasCells :=
  ⟨fun h => ⟨h.width_pos, h.height_pos⟩, fun h => ⟨h.width_pos, h.height_pos⟩⟩

theorem selectBands_eq_mapError {r : Raster α σ} {indices : List ℕ} :
    r.selectBands indices = (Band.select r.bands indices >>= fun bands =>
      make r.width r.height bands r.envelope r.crs).mapError .ofRasterFault := by
  rw [selectBands]
  cases Band.select r.bands indices >>= fun bands =>
    make r.width r.height bands r.envelope r.crs <;> rfl

theorem selectBands_eq_ok {r a : Raster α σ} {indices : List ℕ} :
    r.selectBands indices = .ok a ↔ r.HasCells ∧
      ∃ bands, List.Forall₂ (fun i b => r.bands[i]? = some b) indices bands ∧
        (∀ b ∈ bands, b.data.size = sampleCount r.width r.height) ∧
        a = r.eastingFirst.withBands bands := by
  rw [selectBands_eq_mapError, ofRasterFault_eq_ok, bind_eq_ok]
  simp only [make_eq_ok, Band.select_eq_ok]
  constructor
  · rintro ⟨bands, hb, ⟨hw, hh⟩, hsize, rfl⟩
    exact ⟨⟨hw, hh⟩, bands, hb, hsize, rfl⟩
  · rintro ⟨⟨hw, hh⟩, bands, hb, hsize, rfl⟩
    exact ⟨bands, hb, ⟨hw, hh⟩, hsize, rfl⟩

end Raster

variable [Scalar α]

theorem CellSpan.fits_between {size : ℕ} (h : 0 < size) (lower upper : α) :
    (between size lower upper).Fits size := by
  constructor <;> simp only [between] <;> omega

theorem Raster.map_crop_block {r : Raster α σ} {box common : Envelope α}
    (hm : r.envelope.meet? box = some common)
    (hn : ¬ common.isNear sameBox r.envelope = true) :
    (r.crop box).map Prod.fst =
      (r.block (r.columnsOf common.bounds) (r.rowsOf common.bounds)).mapError .ofRasterFault := by
  rw [crop, hm]
  simp only [hn]
  cases h : r.block (r.columnsOf common.bounds) (r.rowsOf common.bounds) <;>
    simp [Except.map, Except.mapError]

variable [Scalar σ] [Narrowing α σ]

/-- One band is cut out of another, or is the other one sampled on some grid. -/
inductive Band.Step (α : Type) [Scalar α] [Narrowing α σ] (method : Interpolation) (b : Band σ) :
    Band σ → Prop
  | block (width : ℕ) (cols rows : CellSpan) : Step α method b (b.block width cols rows)
  | resample (sourceWidth sourceHeight width height : ℕ) (locate : ℕ → ℕ → Option (Point α)) :
    Step α method b (b.resample sourceWidth sourceHeight width height method locate)

/-- One band is made of another in some steps. -/
def Band.MadeOf (α : Type) [Scalar α] [Narrowing α σ] (method : Interpolation) :
    Band σ → Band σ → Prop :=
  Relation.ReflTransGen (Band.Step α method)

namespace Raster

section Stages

variable {r : Raster α σ} {extent : Envelope α} {width height : ℕ} {method : Interpolation}
  {target : Crs}

theorem scale_eq_ite : r.scale extent width height method =
    if r.width = width ∧ r.height = height ∧ r.envelope.isNear sameBox extent then .ok r
    else (r.resampleOver extent width height method).mapError .ofRasterFault := by
  rw [scale]
  cases r.resampleOver extent width height method <;> rfl

variable [Atlas α]

theorem reproject_of_identity
    (h : (Transformation.between r.crs.code target.eastingFirst.code :
      Transformation α).isIdentity = true) :
    r.reproject target method =
      (make r.width r.height r.bands r.envelope target.eastingFirst).mapError .ofRasterFault := by
  simp only [reproject, h, if_true]
  cases make r.width r.height r.bands r.envelope target.eastingFirst <;> rfl

theorem reproject_of_not_identity {forth : Transformation α}
    (hf : forth = .between r.crs.code target.eastingFirst.code) (h : forth.isIdentity = false) :
    r.reproject target method =
      match r.envelope.shownIn? target.eastingFirst.code with
      | none => .error .emptyIntersection
      | some shown =>
        match shown.transform target.eastingFirst with
        | .error f => .error (.processing (.rasterExtent r.crs target.eastingFirst f))
        | .ok extent => (r.resampleInto forth.reverse extent target.eastingFirst method).mapError
          .ofRasterFault := by
  subst hf
  rw [reproject]
  simp only [h, Bool.false_eq_true, if_false]
  cases r.envelope.shownIn? target.eastingFirst.code with
  | none => rfl
  | some shown =>
    dsimp only
    cases shown.transform target.eastingFirst with
    | error f => rfl
    | ok extent =>
      dsimp only
      cases r.resampleInto _ extent target.eastingFirst method <;> rfl

end Stages

def placeOf (r : Raster α σ) (back : Transformation α) (extent : Envelope α) (col row : ℕ) : Option (Point α) :=
  (sourcePlace? back r.crs.isGeographic r.envelope.bounds
    (cellCentre extent.bounds (extent.bounds.width / Scalar.ofNat r.width)
      (extent.bounds.height / Scalar.ofNat r.height) col row)).map
    (positionIn r.envelope.bounds r.resolutionX r.resolutionY)

/-- How a stage takes the rasters on the frame of `r`: whether it takes any at all, which bands it
takes, the frame it puts them on, and what it makes of each of them. -/
structure Passage (method : Interpolation) (r : Raster α σ)
    (stage : Raster α σ → Except (Exception α) (Raster α σ)) where
  possible : Prop
  takes : Band σ → Prop
  frame : Raster α σ
  image : Band σ → Band σ
  ok_iff : ∀ bands a, stage (r.withBands bands) = .ok a ↔
    possible ∧ (∀ b ∈ bands, takes b) ∧ a = frame.withBands (bands.map image)
  madeOf : ∀ b, Band.MadeOf α method b (image b)
  filled : possible → ∀ bands, (r.withBands bands).Filled →
    (frame.withBands (bands.map image)).Filled

namespace Passage

variable {method : Interpolation} {r a : Raster α σ}
  {stage next : Raster α σ → Except (Exception α) (Raster α σ)}

def refuse (h : ∀ bands a, stage (r.withBands bands) ≠ .ok a) : Passage method r stage where
  possible := False
  takes _ := True
  frame := r
  image b := b
  ok_iff bands a := ⟨fun ha => (h bands a ha).elim, fun ha => ha.1.elim⟩
  madeOf _ := .refl
  filled := False.elim

def keep (h : ∀ bands, stage (r.withBands bands) = .ok (r.withBands bands)) :
    Passage method r stage where
  possible := True
  takes _ := True
  frame := r
  image b := b
  ok_iff bands a := by
    rw [h, List.map_id']
    simp [eq_comm]
  madeOf _ := .refl
  filled _ bands hf := by rwa [List.map_id']

def layOut (width height : ℕ) (e : Envelope α) (crs : Crs) (image : Band σ → Band σ)
    (h : ∀ bands, stage (r.withBands bands) =
      (make width height (bands.map image) e crs).mapError .ofRasterFault)
    (made : ∀ b, Band.MadeOf α method b (image b))
    (hsize : r.HasCells → ∀ b, b.data.size = r.width * r.height →
      (image b).data.size = width * height) :
    Passage method r stage where
  possible := 0 < width ∧ 0 < height
  takes b := (image b).data.size = sampleCount width height
  frame := blank width height e crs
  image := image
  ok_iff bands a := by
    rw [h, ofRasterFault_eq_ok, make_eq_ok, List.forall_mem_map]
  madeOf := made
  filled hp bands hf := by
    refine ⟨⟨hp.1, hp.2⟩, ?_⟩
    intro c hc
    obtain ⟨b, hb, rfl⟩ := List.mem_map.mp hc
    exact hsize (hasCells_withBands.mp hf.toHasCells) b (hf.size_eq b hb)

def comp (p : Passage method r stage) (q : Passage method p.frame next) :
    Passage method r fun s => stage s >>= next where
  possible := p.possible ∧ q.possible
  takes b := p.takes b ∧ q.takes (p.image b)
  frame := q.frame
  image b := q.image (p.image b)
  ok_iff bands a := by
    have hmap : bands.map (fun b => q.image (p.image b)) = (bands.map p.image).map q.image := by
      simp
    rw [bind_eq_ok, hmap]
    constructor
    · rintro ⟨s, hs, ha⟩
      obtain ⟨hp, htakes, rfl⟩ := (p.ok_iff bands s).mp hs
      obtain ⟨hq, htakes', rfl⟩ := (q.ok_iff _ a).mp ha
      rw [List.forall_mem_map] at htakes'
      exact ⟨⟨hp, hq⟩, fun b hb => ⟨htakes b hb, htakes' b hb⟩, rfl⟩
    · rintro ⟨⟨hp, hq⟩, htakes, ha⟩
      refine ⟨_, (p.ok_iff bands _).mpr ⟨hp, fun b hb => (htakes b hb).1, rfl⟩, ?_⟩
      refine (q.ok_iff _ a).mpr ⟨hq, ?_, ha⟩
      exact List.forall_mem_map.mpr fun b hb => (htakes b hb).2
  madeOf b := (p.madeOf b).trans (q.madeOf (p.image b))
  filled hp bands hf := by
    have := q.filled hp.2 _ (p.filled hp.1 bands hf)
    rwa [List.map_map] at this

def congr (p : Passage method r stage)
    (h : ∀ bands, next (r.withBands bands) = stage (r.withBands bands)) : Passage method r next :=
  { p with ok_iff := fun bands a => by rw [h, p.ok_iff] }

theorem hasCells (p : Passage method r stage) (hp : p.possible) (h : r.HasCells) :
    p.frame.HasCells :=
  hasCells_withBands.mp (p.filled hp [] h.filled).toHasCells

theorem hasCells_of_ok (p : Passage method r stage) (ha : stage r = .ok a) (h : r.HasCells) :
    a.HasCells := by
  obtain ⟨hp, -, rfl⟩ := (p.ok_iff r.bands a).mp ha
  exact hasCells_withBands.mpr (p.hasCells hp h)

theorem filled_of_ok (p : Passage method r stage) (ha : stage r = .ok a) (h : r.Filled) :
    a.Filled := by
  obtain ⟨hp, -, rfl⟩ := (p.ok_iff r.bands a).mp ha
  exact p.filled hp r.bands h

variable (method r)

def crop (box : Envelope α) : Passage method r fun s => (s.crop box).map Prod.fst :=
  match hm : r.envelope.meet? box with
  | none => refuse fun bands a => by simp [Raster.crop, hm, Except.map]
  | some common =>
    if hn : common.isNear sameBox r.envelope = true then
      keep fun bands => by simp [Raster.crop, hm, hn, Except.map]
    else
      let cols := r.columnsOf common.bounds
      let rows := r.rowsOf common.bounds
      layOut cols.length rows.length (r.blockEnvelope cols rows) r.crs (·.block r.width cols rows)
        (fun bands => map_crop_block (r := r.withBands bands) hm hn)
        (fun _ => .single (.block ..))
        (fun h b hb => Band.size_block hb (CellSpan.fits_between h.width_pos ..).stop_le
          (CellSpan.fits_between h.height_pos ..).stop_le)

def scale (extent : Envelope α) (width height : ℕ) :
    Passage method r (·.scale extent width height method) :=
  if hs : r.width = width ∧ r.height = height ∧ r.envelope.isNear sameBox extent = true then
    keep fun bands => by simp [scale_eq_ite, hs]
  else
    layOut width height extent r.crs
      (fun b => b.resample r.width r.height width height method
        fun col row => some (r.positionOf extent width height col row))
      (fun _ => scale_eq_ite.trans (if_neg hs))
      (fun _ => .single (.resample ..))
      (fun _ _ _ => size_resample)

variable [Atlas α]

def reproject (target : Crs) : Passage method r (·.reproject target method) :=
  match hi : (Transformation.between r.crs.code target.eastingFirst.code :
      Transformation α).isIdentity with
  | true =>
    layOut r.width r.height r.envelope target.eastingFirst (fun b => b)
      (fun bands => by
        rw [List.map_id']
        exact reproject_of_identity hi)
      (fun _ => .refl)
      (fun _ _ hb => hb)
  | false =>
    match hs : r.envelope.shownIn? target.eastingFirst.code with
    | none => refuse fun bands a => by
      rw [reproject_of_not_identity (r := r.withBands bands) rfl hi]
      simp [hs]
    | some shown =>
      match he : shown.transform target.eastingFirst with
      | .error f => refuse fun bands a => by
        rw [reproject_of_not_identity (r := r.withBands bands) rfl hi]
        simp [hs, he]
      | .ok extent =>
        layOut r.width r.height extent target.eastingFirst
          (fun b => b.resample r.width r.height r.width r.height method
            (r.placeOf (Transformation.between r.crs.code target.eastingFirst.code).reverse extent))
          (fun bands => by
            rw [reproject_of_not_identity (r := r.withBands bands) rfl hi]
            simp only [envelope_withBands, hs, he]
            rfl)
          (fun _ => .single (.resample ..))
          (fun _ _ _ => size_resample)

def deliver (extent : Envelope α) (plan : PipelinePlan α) :
    Passage plan.interpolation r (·.deliver extent plan) :=
  let scaled :=
    scale plan.interpolation r extent plan.targetGrid.width plan.targetGrid.height
  scaled.comp (reproject plan.interpolation scaled.frame plan.targetCrs)

end Passage

variable [Atlas α] {r a : Raster α σ} {plan : PipelinePlan α} {indices : List ℕ}

def processed (r : Raster α σ) (plan : PipelinePlan α) : Except (Exception α) (Raster α σ) := do
  let (cropped, extent) ← r.crop plan.envelope
  if plan.cancelled then .error .cancelled
  else cropped.deliver (plannedExtent plan.targetGrid extent) plan

theorem run_eq_processed : r.run plan =
    if r.crs.code ≠ plan.nativeCrs.code then .error (.processing (.rasterCrs r.crs plan.nativeCrs))
    else r.selectBands plan.bands >>= (·.processed plan) := rfl

theorem processed_of_covered {extent : Envelope α}
    (hc : coveredBy r.envelope plan.envelope = some extent) (hn : plan.cancelled = false) :
    r.processed plan = (r.crop plan.envelope).map Prod.fst >>=
      (·.deliver (plannedExtent plan.targetGrid extent) plan) := by
  rw [processed]
  cases h : r.crop plan.envelope with
  | error e => rfl
  | ok p =>
    obtain ⟨cropped, ground⟩ := p
    obtain rfl := Option.some.inj (hc.symm.trans (coveredBy_of_crop h))
    simp only [bind, Except.bind, hn]
    rfl

theorem processed_ok (h : r.processed plan = .ok a) :
    (∃ extent, coveredBy r.envelope plan.envelope = some extent) ∧ plan.cancelled = false := by
  obtain ⟨⟨cropped, extent⟩, hc, h⟩ := bind_eq_ok.mp h
  refine ⟨⟨extent, coveredBy_of_crop hc⟩, ?_⟩
  by_contra hn
  rw [Bool.not_eq_false] at hn
  simp [hn] at h

def Passage.processed (r : Raster α σ) (plan : PipelinePlan α) :
    Passage plan.interpolation r (·.processed plan) :=
  -- the ground that is covered, which the next stage is given, depends on the frame alone
  match hc : coveredBy r.envelope plan.envelope, hn : plan.cancelled with
  | none, _ => refuse fun bands a ha => by
    obtain ⟨⟨extent, he⟩, -⟩ := processed_ok ha
    rw [envelope_withBands, hc] at he
    exact absurd he (by simp)
  | some _, true => refuse fun bands a ha => by
    rw [(processed_ok ha).2] at hn
    exact absurd hn (by simp)
  | some extent, false =>
    let cropped := crop plan.interpolation r plan.envelope
    (cropped.comp (deliver cropped.frame (plannedExtent plan.targetGrid extent) plan)).congr
      fun _ => processed_of_covered hc hn

/-- A raster is delivered if the stages take its frame and every selected band. -/
theorem run_eq_ok (p : Passage plan.interpolation r.eastingFirst (·.processed plan)) :
    r.run (plan.selecting indices) = .ok a ↔
      (r.crs.code = plan.nativeCrs.code ∧ r.HasCells ∧ p.possible) ∧
      ∃ bands, List.Forall₂ (fun i b => r.bands[i]? = some b ∧
          b.data.size = sampleCount r.width r.height ∧ p.takes b) indices bands ∧
        a = p.frame.withBands (bands.map p.image) := by
  have hstage : ∀ s : Raster α σ, s.processed (plan.selecting indices) = s.processed plan :=
    fun _ => rfl
  rw [run_eq_processed]
  split
  · rename_i hcode
    simp only [reduceCtorEq, false_iff]
    exact fun h => hcode h.1.1
  · rename_i hcode
    simp only [bind_eq_ok, hstage, selectBands_eq_ok, forall₂_and_right]
    constructor
    · rintro ⟨_, ⟨hcells, bands, hb, hsize, rfl⟩, ha⟩
      obtain ⟨hp, htakes, rfl⟩ := (p.ok_iff bands a).mp ha
      exact ⟨⟨not_not.mp hcode, hcells, hp⟩, bands, ⟨hb, fun b h => ⟨hsize b h, htakes b h⟩⟩, rfl⟩
    · rintro ⟨⟨-, hcells, hp⟩, bands, ⟨hb, h⟩, rfl⟩
      exact ⟨_, ⟨hcells, bands, hb, fun b hm => (h b hm).1, rfl⟩,
        (p.ok_iff bands _).mpr ⟨hp, fun b hm => (h b hm).2, rfl⟩⟩

theorem filled_run (hr : r.Filled) (h : r.run plan = .ok a) : a.Filled := by
  let p := Passage.processed r.eastingFirst plan
  obtain ⟨⟨-, hcells, hp⟩, bands, hb, rfl⟩ := (run_eq_ok p).mp h
  apply p.filled hp
  refine ⟨hasCells_withBands.mpr (hasCells_eastingFirst.mpr hcells), ?_⟩
  intro b hm
  obtain ⟨i, -, hi, -⟩ := exists_of_forall₂_left hb.flip hm
  exact hr.size_eq b (List.mem_of_getElem? hi)

/-- Every band that is delivered is made of the band that was selected in its place. -/
theorem madeOf_run (h : r.run plan = .ok a) :
    List.Forall₂ (fun i c => ∃ b, r.bands[i]? = some b ∧ Band.MadeOf α plan.interpolation b c)
      plan.bands a.bands := by
  let p := Passage.processed r.eastingFirst plan
  obtain ⟨-, bands, hb, rfl⟩ := (run_eq_ok p).mp h
  rw [bands_withBands, List.forall₂_map_right_iff]
  apply hb.imp
  intro i b hib
  exact ⟨b, hib.1, p.madeOf b⟩

end Raster

section Small

def smallBands : List (Band Float32) :=
  [⟨"a", Pattern.ramp 10 10, none⟩, ⟨"b", Pattern.columnRow 10 10, some 3003⟩,
    ⟨"c", Pattern.constant 10 10 1, none⟩]

theorem filled_smallBands : (CoverageDescriptor.smallRaster smallBands).Filled where
  width_pos := Nat.zero_lt_succ 9
  height_pos := Nat.zero_lt_succ 9
  size_eq b hb := by
    obtain rfl | rfl | rfl : b = _ ∨ b = _ ∨ b = _ := by
      simpa [CoverageDescriptor.smallRaster, smallBands] using hb
    all_goals simp [Pattern.ramp, Pattern.columnRow, Pattern.constant, Pattern.ofFn,
      CoverageDescriptor.smallRaster]

def PipelinePlan.small (indices : List ℕ) : PipelinePlan Exact where
  bands := indices
  envelope := .ofBounds ⟨.finite (-5), .finite (-5), .finite 5, .finite 5⟩ none
  targetGrid := {
    range := .ofSize 3 2
    transform := .ofBounds ⟨.finite (-3), .finite (-3), .finite 3, .finite 3⟩ 3 2
    crs := some (.ofCode .wgs84)
    planar := by decide }
  nativeCrs := .ofCode .wgs84
  targetCrs := .ofCode .webMercator
  interpolation := .nearest
  cancelled := false

end Small

end GeoRaster
