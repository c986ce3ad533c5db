import GeoRaster.Proofs.Answer
import GeoRaster.Proofs.Planning
import GeoRaster.Proofs.Sampling

namespace GeoRaster

namespace Raster

section Stages

variable {α σ : Type} [Scalar α] {r : Raster α σ}

def window (r : Raster α σ) (box : Envelope α) : CellSpan × CellSpan :=
  match r.envelope.meet? box with
  | none => (⟨0, 0⟩, ⟨0, 0⟩)
  | some common =>
    if common.isNear sameBox r.envelope then (⟨0, r.width⟩, ⟨0, r.height⟩)
    else (r.columnsOf common.bounds, r.rowsOf common.bounds)

def kept {σ : Type} (r : Raster Exact σ) (box : Envelope Exact) : Raster Exact σ :=
  r.part (r.window box).1 (r.window box).2

/-- The place lies on the raster, in a cell that a crop keeps. -/
def Keeps (r : Raster α σ) (box : Envelope α) (p : Point α) : Prop :=
  r.envelope.bounds.holds p = true ∧ (r.window box).1.Has (r.columnOf p) ∧
    (r.window box).2.Has (r.rowOf p)

instance (r : Raster α σ) (box : Envelope α) (p : Point α) : Decidable (r.Keeps box p) :=
  inferInstanceAs (Decidable (_ ∧ _ ∧ _))

theorem centreOf_congr {r' : Raster α σ} (hw : r.width = r'.width) (hh : r.height = r'.height)
    (he : r.envelope = r'.envelope) (col row : ℕ) : r.centreOf col row = r'.centreOf col row := by
  rw [centreOf, centreOf, resolutionX, resolutionX, resolutionY, resolutionY, hw, hh, he]

variable [Scalar σ] [Narrowing α σ]

/-- The raster has the given size and lies on the extent already. -/
def FitsOn (r : Raster α σ) (extent : Envelope α) (width height : ℕ) : Prop :=
  r.width = width ∧ r.height = height ∧ r.envelope.isNear sameBox extent

instance (r : Raster α σ) (extent : Envelope α) (width height : ℕ) :
    Decidable (r.FitsOn extent width height) :=
  inferInstanceAs (Decidable (_ ∧ _ ∧ _))

/-- The raster on a grid over an extent; one that lies there already stays as it is. -/
def fitted (r : Raster α σ) (extent : Envelope α) (width height : ℕ) (method : Interpolation) :
    Raster α σ :=
  if r.width = width ∧ r.height = height ∧ r.envelope.isNear sameBox extent then r
  else r.scaled extent width height method

theorem fitted_of_fits {extent : Envelope α} {width height : ℕ} {method : Interpolation}
    (hf : r.FitsOn extent width height) : r.fitted extent width height method = r :=
  if_pos hf

theorem fitted_of_not_fits {extent : Envelope α} {width height : ℕ} {method : Interpolation}
    (hf : ¬ r.FitsOn extent width height) :
    r.fitted extent width height method = r.scaled extent width height method :=
  if_neg hf

theorem scale_of_fits {extent : Envelope α} {width height : ℕ} {method : Interpolation}
    (hf : r.FitsOn extent width height) : r.scale extent width height method = .ok r :=
  if_pos hf

end Stages

section Answer

variable {σ : Type} [Scalar σ] [Narrowing Exact σ] {r : Raster Exact σ} {x y cx cy : Interval ℚ}
  {box extent : Envelope Exact} {plan : PipelinePlan Exact}

def answer (r : Raster Exact σ) (plan : PipelinePlan Exact) : Raster Exact σ :=
  ((r.pick plan.bands).part (r.window plan.envelope).1 (r.window plan.envelope).2).fitted
    (plannedExtent plan.targetGrid ((coveredBy r.envelope plan.envelope).getD r.envelope))
    plan.targetGrid.width plan.targetGrid.height plan.interpolation

omit [Scalar σ] [Narrowing Exact σ] in
theorem LiesOver.crop_window (h : r.LiesOver x y) (hb : box.Shows x y cx cy) :
    (r.window box).1.Fits r.width ∧ (r.window box).2.Fits r.height ∧
      ∃ extent, r.crop box = .ok (r.part (r.window box).1 (r.window box).2, extent) := by
  have hm : r.envelope.meet? box = some (.plane cx cy (some r.crs)) := by
    rw [h.envelope_eq]
    exact hb.meet?_plane h.x_lt h.y_lt _
  rw [window, crop]
  simp only [hm]
  split
  · refine ⟨CellSpan.fits_all h.width_pos, CellSpan.fits_all h.height_pos, r.envelope, ?_⟩
    rw [h.spans.part_all h.size_eq]
  · rw [Envelope.bounds_plane (.inl h.spans.crs_map), h.spans.columnsOf_eq, h.spans.rowsOf_eq]
    have hc := CellSpan.fits_reached h.width_pos (x.fromMin r.width cx)
    have hr := CellSpan.fits_reached h.height_pos (y.fromMax r.height cy)
    refine ⟨hc, hr, .plane cx cy (some r.crs), ?_⟩
    rw [h.spans.block_eq h.size_eq h.count_lt hc hr]

theorem LiesOver.deliver_fitted [Atlas Exact] (h : r.LiesOver x y)
    (hn : plan.targetGrid.width * plan.targetGrid.height < 2 ^ 64)
    (ht : plan.targetCrs.code = r.crs.code) :
    r.deliver extent plan =
      .ok (r.fitted extent plan.targetGrid.width plan.targetGrid.height plan.interpolation) := by
  have hw := plan.targetGrid.width_pos
  have hh := plan.targetGrid.height_pos
  rw [deliver, scale_eq hw hh hn, fitted]
  simp only [bind, Except.bind]
  split
  · exact reproject_same h.wellFormed h.count_lt ht
  · refine reproject_same (scaled_wellFormed hw hh) ?_ ht
    intro b hb
    obtain ⟨c, -, rfl⟩ := List.mem_map.mp hb
    rwa [size_resample]

theorem LiesOver.run_answer [Atlas Exact] (h : r.LiesOver x y)
    (hcode : r.crs.code = plan.nativeCrs.code) (hi : ∀ i ∈ plan.bands, i < r.bands.length)
    (hb : plan.envelope.Shows x y cx cy) (hcancelled : plan.cancelled = false)
    (hn : plan.targetGrid.width * plan.targetGrid.height < 2 ^ 64)
    (ht : plan.targetCrs.code = r.crs.code) : r.run plan = .ok (r.answer plan) := by
  have hp := h.pick plan.bands
  obtain ⟨hc, hr, extent, hcrop⟩ := hp.crop_window hb
  have hextent : coveredBy r.envelope plan.envelope = some extent :=
    coveredBy_of_crop (r := r.pick plan.bands) hcrop
  rw [run_eq hcode hcancelled (selectBands_eq h hi) hcrop,
    (hp.part_liesOver hc hr).deliver_fitted hn ht, answer, hextent]
  rfl

/-- Where an answer lies does not depend on any samples. -/
theorem answer_congr (plan : PipelinePlan Exact) {r' : Raster Exact σ}
    (hw : r.width = r'.width) (hh : r.height = r'.height) (he : r.envelope = r'.envelope)
    (hc : r.crs = r'.crs) :
    (r.answer plan).width = (r'.answer plan).width ∧
      (r.answer plan).height = (r'.answer plan).height ∧
      (r.answer plan).envelope = (r'.answer plan).envelope := by
  obtain ⟨w, ht, bands, e, c⟩ := r
  obtain ⟨w', ht', bands', e', c'⟩ := r'
  obtain rfl : w = w' := hw
  obtain rfl : ht = ht' := hh
  obtain rfl : e = e' := he
  obtain rfl : c = c' := hc
  rw [answer, answer, fitted, fitted]
  split <;> split
  · exact ⟨rfl, rfl, rfl⟩
  · rename_i h h'
    exact absurd h h'
  · rename_i h h'
    exact absurd h' h
  · exact ⟨rfl, rfl, rfl⟩

end Answer

section Marks

variable {r : Raster Exact Float32} {x y : Interval ℚ} {k col row : ℕ}

/-- Samples on a block are those of the whole, counted from the first cell of the block. -/
theorem Repeats.of_part (h : r.LiesOver x y) {is : List ℕ} (hi : ∀ i ∈ is, i < r.bands.length)
    {i : ℕ} (hk : is[k]? = some i) {cols rows : CellSpan} (hc : cols.Fits r.width)
    (hr : rows.Fits r.height) {a : Raster Exact Float32} {c j : ℕ} (hcol : c < cols.length)
    (hrow : j < rows.length) (ha : a.Repeats k col row ((r.pick is).part cols rows) k c j) :
    a.Repeats k col row r i (cols.first + c) (rows.first + j) := by
  obtain ⟨b, u, v, hb, hu, hv, hagree⟩ := ha
  rw [get?_part (h.pick is).size_eq hc hr hcol hrow, get?_pick hi hk] at hv
  simp only [part, Raster.pick, List.getElem?_map, Band.getElem?_pick hi, hk] at hb
  obtain ⟨b', hb', rfl⟩ := Option.map_eq_some_iff.mp hb
  exact ⟨b', u, v, hb', hu, hv, hagree⟩

/-- The cell of an answer agrees with what the raster has at its centre, or is missing where the
raster has nothing. -/
def Shows (a : Raster Exact Float32) (k col row : ℕ) (r : Raster Exact Float32) (i : ℕ) : Prop :=
  ∃ b u, r.bands[i]? = some b ∧ a.get? k col row = some u ∧
    match r.at? i (a.centreOf col row) with
    | some v => b.Agree u v
    | none => b.isMissing u = true

theorem Keeps.shows {a : Raster Exact Float32} {box : Envelope Exact} {i : ℕ}
    (h : r.Keeps box (a.centreOf col row))
    (ha : a.Repeats k col row r i ((r.window box).1.nearest (r.columnOf (a.centreOf col row)))
      ((r.window box).2.nearest (r.rowOf (a.centreOf col row)))) : a.Shows k col row r i := by
  obtain ⟨hholds, hc, hr⟩ := h
  obtain ⟨b, u, v, hb, hu, hv, hagree⟩ := ha
  rw [CellSpan.nearest_of_has hc, CellSpan.nearest_of_has hr] at hv
  refine ⟨b, u, hb, hu, ?_⟩
  rw [at?_eq, if_pos hholds, hv]
  exact hagree

/-- The raster with a sample of its own in one cell. -/
def marked (r : Raster Exact Float32) (col row : ℕ) : Raster Exact Float32 :=
  { r with
    bands := r.bands.map fun b =>
      ⟨b.name, Pattern.ofFn r.width r.height fun c j => if c = col ∧ j = row then 1.0 else 0.0,
        none⟩ }

theorem get?_marked (col row : ℕ) {i c j : ℕ} (hi : i < r.bands.length) (hc : c < r.width)
    (hj : j < r.height) :
    (r.marked col row).get? i c j = some (if c = col ∧ j = row then 1.0 else 0.0) := by
  rw [get?, if_neg (by simp only [marked]; omega)]
  simp only [marked, List.getElem?_map, List.getElem?_eq_getElem hi]
  exact Pattern.getElem?_ofFn _ hc hj

theorem isNaN_mark (p : Prop) [Decidable p] :
    Scalar.isNaN (if p then 1.0 else 0.0 : Float32) = false := by
  split <;> decide +kernel

theorem isMissing_marked {c j i : ℕ} {b : Band Float32} (hb : (r.marked c j).bands[i]? = some b)
    {v : Float32} (hv : Scalar.isNaN v = false) : b.isMissing v = false := by
  simp only [marked, List.getElem?_map] at hb
  obtain ⟨_, -, rfl⟩ := Option.map_eq_some_iff.mp hb
  simp [Band.isMissing, hv]

theorem Repeats.of_marked {a : Raster Exact Float32} {c j i c' j' : ℕ} (hi : i < r.bands.length)
    (hc : c' < r.width) (hj : j' < r.height) (ha : a.Repeats k col row (r.marked c j) i c' j') :
    a.get? k col row = some (if c' = c ∧ j' = j then 1.0 else 0.0) := by
  obtain ⟨b, u, v, hb, hu, hv, hagree⟩ := ha
  rw [get?_marked c j hi hc hj] at hv
  obtain rfl := Option.some.inj hv
  rw [hu, hagree.eq_of_present (isMissing_marked hb (isNaN_mark _))]

theorem at?_marked (h : r.LiesOver x y) {i c j : ℕ} {p : Point Exact} (hi : i < r.bands.length)
    (hc : c = r.columnOf p) (hj : j = r.rowOf p) :
    (r.marked c j).at? i p = if r.envelope.bounds.holds p then some 1.0 else none := by
  have hin : r.columnOf p < r.width ∧ r.rowOf p < r.height := by
    have := h.width_pos
    have := h.height_pos
    rw [columnOf, rowOf]
    omega
  have hmark := get?_marked (r := r) c j hi hin.1 hin.2
  rw [if_pos ⟨hc.symm, hj.symm⟩] at hmark
  rw [at?_eq]
  exact congrArg (fun v => if r.envelope.bounds.holds p then v else none) hmark

/-- Where a centre is not kept, an answer can be told from the raster by a single sample. -/
theorem not_shows_marked (h : r.LiesOver x y) {a : Raster Exact Float32} {box : Envelope Exact}
    {i c j : ℕ} (hi : i < r.bands.length) (hc : c = r.columnOf (a.centreOf col row))
    (hj : j = r.rowOf (a.centreOf col row)) (hcols : (r.window box).1.Fits r.width)
    (hrows : (r.window box).2.Fits r.height) (hkeeps : ¬ r.Keeps box (a.centreOf col row))
    (ha : a.Repeats k col row (r.marked c j) i ((r.window box).1.nearest c)
      ((r.window box).2.nearest j)) : ¬ a.Shows k col row (r.marked c j) i := by
  rintro ⟨b, u, hb, hu, hshows⟩
  have hhas := CellSpan.has_nearest hcols c
  have hhas' := CellSpan.has_nearest hrows j
  have hmark := ha.of_marked hi (hhas.2.trans_le hcols.stop_le) (hhas'.2.trans_le hrows.stop_le)
  obtain rfl := Option.some.inj (hu.symm.trans hmark)
  rw [at?_marked h hi hc hj] at hshows
  by_cases hholds : r.envelope.bounds.holds (a.centreOf col row) = true
  · -- The raster has its mark at the centre, so the answer has taken its sample from there.
    rw [if_pos hholds] at hshows
    have hone : Scalar.isNaN (1.0 : Float32) = false := by decide +kernel
    have hvalue := hshows.eq_of_present (isMissing_marked hb hone)
    have hsame : (r.window box).1.nearest c = c ∧ (r.window box).2.nearest j = j := by
      by_contra hne
      rw [if_neg hne] at hvalue
      exact absurd hvalue (by decide +kernel)
    rw [hsame.1, hc] at hhas
    rw [hsame.2, hj] at hhas'
    exact hkeeps ⟨hholds, hhas, hhas'⟩
  · rw [if_neg hholds] at hshows
    rw [isMissing_marked hb (isNaN_mark _)] at hshows
    exact absurd hshows Bool.false_ne_true

end Marks

section Nearest

variable [Narrowing Exact Float32] {r : Raster Exact Float32} {x y ex ey cx cy : Interval ℚ}
  {extent : Envelope Exact} {width height k col row : ℕ} {plan : PipelinePlan Exact}

theorem LiesOver.fitted_repeats (h : r.LiesOver x y) (he : extent.IsPlane)
    (hk : k < r.bands.length)
    (hcol : col < (r.fitted extent width height .nearest).width)
    (hrow : row < (r.fitted extent width height .nearest).height) :
    ∃ p q : ℚ, (r.fitted extent width height .nearest).centreOf col row =
        ⟨.finite p, .finite q⟩ ∧
      (r.fitted extent width height .nearest).Repeats k col row r k (x.cellUp r.width p)
        (y.cellDown r.height q) := by
  rw [fitted] at hcol hrow ⊢
  split at hcol
  · rename_i hlies
    rw [if_pos hlies] at hrow ⊢
    refine ⟨_, _, h.centreOf_eq col row, ?_⟩
    rw [Interval.cellUp_centre h.x_lt hcol, Interval.cellDown_centre h.y_lt hrow]
    obtain ⟨v, hv⟩ := exists_get? h.size_eq hk hcol hrow
    exact ⟨r.bands[k], v, v, List.getElem?_eq_getElem hk, hv, hv, .inl rfl⟩
  · rename_i hlies
    rw [if_neg hlies] at hrow ⊢
    obtain ⟨ex, ey, c, hc, rfl⟩ := he
    have hbounds := Envelope.bounds_plane_of_order (x := ex) (y := ey) hc
    have hw : (width : ℚ) ≠ 0 := Nat.cast_ne_zero.mpr (Nat.zero_lt_of_lt hcol).ne'
    have hh : (height : ℚ) ≠ 0 := Nat.cast_ne_zero.mpr (Nat.zero_lt_of_lt hrow).ne'
    refine ⟨ex.centreUp width col, ey.centreDown height row, ?_,
      h.scaled_repeats hbounds hk hcol hrow⟩
    have hscaled : (r.scaled (.plane ex ey (some c)) width height .nearest).envelope.bounds =
        Envelope.planeBounds ex ey :=
      Envelope.bounds_plane_of_order rfl
    rw [centreOf, cellCentre, resolutionX, resolutionY, hscaled]
    simp [scaled, Envelope.planeBounds, Bounds.width, Bounds.height, Exact.finite_div _ hw,
      Exact.finite_div _ hh, Interval.centreUp, Interval.centreDown, Interval.cell,
      Interval.length]

theorem LiesOver.answer_repeats (h : r.LiesOver x y) (hi : ∀ i ∈ plan.bands, i < r.bands.length)
    (hb : plan.envelope.Shows x y cx cy) (hmethod : plan.interpolation = .nearest)
    (hextent : (plannedExtent plan.targetGrid
      ((coveredBy r.envelope plan.envelope).getD r.envelope)).IsPlane)
    {i : ℕ} (hk : plan.bands[k]? = some i) (hcol : col < (r.answer plan).width)
    (hrow : row < (r.answer plan).height) :
    (r.answer plan).Repeats k col row r i
      ((r.window plan.envelope).1.nearest (r.columnOf ((r.answer plan).centreOf col row)))
      ((r.window plan.envelope).2.nearest (r.rowOf ((r.answer plan).centreOf col row))) := by
  obtain ⟨hc, hr, -⟩ := h.crop_window hb
  have hp := (h.pick plan.bands).part_liesOver hc hr
  have hlen : k < ((r.pick plan.bands).part (r.window plan.envelope).1
      (r.window plan.envelope).2).bands.length := by
    simp only [part, Raster.pick, List.length_map, Band.length_pick hi]
    exact (List.getElem?_eq_some_iff.mp hk).1
  rw [answer, hmethod] at hcol hrow ⊢
  obtain ⟨p, q, hpq, ha⟩ := hp.fitted_repeats hextent hlen hcol hrow
  rw [hpq, h.columnOf_eq, h.rowOf_eq, ← Interval.cellUp_groundUp h.x_lt hc,
    ← Interval.cellDown_groundDown h.y_lt hr]
  exact ha.of_part h hi hk hc hr (CellSpan.cellAt_lt hp.width_pos _)
    (CellSpan.cellAt_lt hp.height_pos _)

end Nearest

section Fitted

variable {σ : Type} [Scalar σ] [Narrowing Exact σ] {r : Raster Exact σ} {x y : Interval ℚ}
  {extent : Envelope Exact} {width height : ℕ} {method : Interpolation}

theorem LiesOver.fitted_wellFormed (h : r.LiesOver x y) (hw : 0 < width) (hh : 0 < height) :
    (r.fitted extent width height method).WellFormed := by
  rw [fitted]
  split
  · exact h.wellFormed
  · exact scaled_wellFormed hw hh

theorem LiesOver.answer_wellFormed (h : r.LiesOver x y) {plan : PipelinePlan Exact}
    {cx cy : Interval ℚ} (hb : plan.envelope.Shows x y cx cy) : (r.answer plan).WellFormed := by
  obtain ⟨hc, hr, -⟩ := h.crop_window hb
  exact ((h.pick plan.bands).part_liesOver hc hr).fitted_wellFormed
    (GridGeometry.width_pos _) (GridGeometry.height_pos _)

theorem length_bands_answer {plan : PipelinePlan Exact}
    (hi : ∀ i ∈ plan.bands, i < r.bands.length) :
    (r.answer plan).bands.length = plan.bands.length := by
  rw [answer, fitted]
  split <;> simp [scaled, part, pick, Band.length_pick hi]

end Fitted

end Raster

namespace CoverageDescriptor

variable {σ : Type} {d : CoverageDescriptor Exact} {n : NorthUp} {request : CoverageRequest Exact}
  {q : Query Exact} {cx cy : Interval ℚ}

theorem IsFull.marked {r : Raster Exact Float32} (hr : d.IsFull r) (col row : ℕ) :
    d.IsFull (r.marked col row) where
  wellFormed := by
    refine ⟨hr.wellFormed.width_pos, hr.wellFormed.height_pos, ?_, hr.wellFormed.crs_eq,
      hr.wellFormed.order_eq⟩
    intro b hb
    obtain ⟨c, -, rfl⟩ := List.mem_map.mp hb
    exact Array.size_ofFn
  size_lt := by
    intro b hb
    obtain ⟨c, hc, rfl⟩ := List.mem_map.mp hb
    have := hr.size_lt c hc
    rw [hr.wellFormed.size_eq c hc] at this
    exact Array.size_ofFn.trans_lt this
  width_eq := hr.width_eq
  height_eq := hr.height_eq
  envelope_eq := hr.envelope_eq
  length_eq := (List.length_map _).trans hr.length_eq

theorem LiesOn.plannedExtent_isPlane [Atlas Exact] {r : Raster Exact σ} (hd : d.LiesOn n)
    (hr : d.IsFull r) (ha : d.Accepts request q)
    (hb : q.envelope.Shows (n.easting d.gridGeometry) (n.northing d.gridGeometry) cx cy)
    (hcrs : q.envelope.crs = some d.nativeCrs.eastingFirst) :
    (Raster.plannedExtent q.targetGrid
      ((Raster.coveredBy r.envelope q.envelope).getD r.envelope)).IsPlane := by
  have hl := hr.liesOver hd
  rw [Raster.plannedExtent]
  split
  · rw [Raster.coveredBy, hl.envelope_eq, hb.meet?_plane hl.x_lt hl.y_lt]
    simp only [Option.map_some, Option.getD_some]
    split
    · exact ⟨_, _, _, hl.order_eq, rfl⟩
    · exact ⟨_, _, _, hl.order_eq, rfl⟩
  · have hplan := gridFor_clipped hd.nativeEnvelope_eq (n.easting_lt _) (n.northing_lt _) hb
      ha.grid_eq
    obtain ⟨t, ht, hshear, hgcrs⟩ := GridGeometry.planned_exact hd.transform_eq
      (Envelope.bounds_plane_of_order (c := d.nativeCrs.eastingFirst) rfl) (hcrs ▸ hplan)
    have hunsheared : t.shearX = 0 ∧ t.shearY = 0 := by
      obtain rfl | h := hshear
      · exact ⟨rfl, rfl⟩
      · exact h
    rw [GridGeometry.envelope_unsheared ht hunsheared.1 hunsheared.2, hgcrs]
    exact ⟨_, _, _, rfl, rfl⟩

theorem IsFull.run_answer [Scalar σ] [Narrowing Exact σ] [Atlas Exact] {r : Raster Exact σ}
    (hr : d.IsFull r) (hd : d.LiesOn n) (ha : d.Accepts request q)
    (hcrs : q.targetCrs.code = d.nativeCrs.code)
    (hb : q.envelope.Shows (n.easting d.gridGeometry) (n.northing d.gridGeometry) cx cy) :
    (∀ i ∈ q.bands, i < r.bands.length) ∧
      r.run (Service.planOf q) = .ok (r.answer (Service.planOf q)) := by
  have hi := hr.band_lt ha
  have hcode := hr.code_eq hd
  refine ⟨hi, (hr.liesOver hd).run_answer ?_ hi hb rfl ?_ (hcrs.trans hcode.symm)⟩
  · exact hcode.trans ha.code_eq.symm
  · exact ha.count_le.trans_lt (by decide)

/-- What an answer by the nearest neighbour repeats, for all full rasters at once. -/
theorem IsFull.answer_repeats [Narrowing Exact Float32] [Atlas Exact] {r : Raster Exact Float32}
    (hr : d.IsFull r) (hd : d.LiesOn n) (ha : d.Accepts request q)
    (hcrs : q.targetCrs.code = d.nativeCrs.code)
    (hqcrs : q.envelope.crs = some d.nativeCrs.eastingFirst)
    (hb : q.envelope.Shows (n.easting d.gridGeometry) (n.northing d.gridGeometry) cx cy)
    (hmethod : q.interpolation = .nearest) {k i col row : ℕ} (hk : q.bands[k]? = some i)
    (hcol : col < (r.answer (Service.planOf q)).width)
    (hrow : row < (r.answer (Service.planOf q)).height) :
    (r.answer (Service.planOf q)).Repeats k col row r i
      ((r.window q.envelope).1.nearest
        (r.columnOf ((r.answer (Service.planOf q)).centreOf col row)))
      ((r.window q.envelope).2.nearest
        (r.rowOf ((r.answer (Service.planOf q)).centreOf col row))) := by
  have hi := (hr.run_answer hd ha hcrs hb).1
  have hplane := hd.plannedExtent_isPlane hr ha hb hqcrs
  exact (hr.liesOver hd).answer_repeats hi hb hmethod hplane hk hcol hrow

end CoverageDescriptor

namespace Service

theorem exists_gridOf {α σ : Type} [Scalar α] {a : Raster α σ} (hw : 0 < a.width)
    (hh : 0 < a.height) (q : Query α) : ∃ g, gridOf q a = .ok g := by
  rw [gridOf]
  split
  · exact ⟨_, rfl⟩
  · rw [Raster.gridGeometry, GridGeometry.ofEnvelope, GridGeometry.ofRange,
      dif_pos (GridRange.isPlanar_ofSize hw hh)]
    exact ⟨_, rfl⟩

section Nearest

variable [Narrowing Exact Float32] [Atlas Exact] {d : CoverageDescriptor Exact} {n : NorthUp}
  {r : Raster Exact Float32} {s : Service Exact Float32} {request : CoverageRequest Exact}
  {q : Query Exact}

theorem call_answer (hd : d.LiesOn n) (hr : d.IsFull r)
    (hs : s.catalog.descriptor? request.coverageId = some d)
    (hq : d.validate s.registry s.settings request = .ok q)
    (hread : s.reader d.id q.envelope = .raster r) (hcrs : q.targetCrs.code = d.nativeCrs.code)
    {cx cy : Interval ℚ}
    (hb : q.envelope.Shows (n.easting d.gridGeometry) (n.northing d.gridGeometry) cx cy) :
    ∃ a, (s.call request false).outcome = .ok a ∧ a.raster = r.answer (planOf q) := by
  have ha := CoverageDescriptor.accepts_of_validate hq
  obtain ⟨-, hrun⟩ := hr.run_answer hd ha hcrs hb
  have hwell : (r.answer (planOf q)).WellFormed := (hr.liesOver hd).answer_wellFormed hb
  obtain ⟨g, hg⟩ := exists_gridOf hwell.width_pos hwell.height_pos q
  have hcall := call_accepted hs hq (by rw [ha.id_eq]; exact hread)
  rw [finish_ok hrun hg] at hcall
  exact ⟨_, congrArg Call.outcome hcall, rfl⟩

/-- Cells of an answer by the nearest neighbour are right where their centres are kept, and whether
others are right is a matter of the samples. -/
theorem call_nearest (hd : d.LiesOn n) (hr : d.IsFull r)
    (hs : s.catalog.descriptor? request.coverageId = some d)
    (hq : d.validate s.registry s.settings request = .ok q)
    (hread : s.reader d.id q.envelope = .raster r) (hmethod : q.interpolation = .nearest)
    (hcrs : q.targetCrs.code = d.nativeCrs.code)
    (hover : (d.nativeEnvelope.meet? q.envelope).isSome = true) :
    ∃ a, (s.call request false).outcome = .ok a ∧ a.raster.bands.length = q.bands.length ∧
      ∀ k i, q.bands[k]? = some i → ∀ col < a.raster.width, ∀ row < a.raster.height,
        a.raster.Repeats k col row r i
            ((r.window q.envelope).1.nearest (r.columnOf (a.raster.centreOf col row)))
            ((r.window q.envelope).2.nearest (r.rowOf (a.raster.centreOf col row))) ∧
          (r.Keeps q.envelope (a.raster.centreOf col row) → a.raster.Shows k col row r i) ∧
          (¬ r.Keeps q.envelope (a.raster.centreOf col row) →
            ∃ r' a', d.IsFull r' ∧
              (({ s with reader := fun _ _ => .raster r' } : Service _ _).call request
                false).outcome = .ok a' ∧
              (a'.raster.get? k col row).isSome = true ∧ ¬ a'.raster.Shows k col row r' i) := by
  have hl := hr.liesOver hd
  have ha := CoverageDescriptor.accepts_of_validate hq
  obtain ⟨hqcrs, -⟩ := CoverageDescriptor.envelopeFor_ok hd.crs_eq hd.isValid ha.envelope_eq
  obtain ⟨cx, cy, hb, -⟩ := Envelope.exists_shows (some d.nativeCrs.eastingFirst)
    hl.x_lt hl.y_lt (by
      rw [← hd.nativeEnvelope_eq]
      exact Option.isSome_iff_ne_none.mp hover)
  have hi := (hr.run_answer hd ha hcrs hb).1
  obtain ⟨a, hcall, hanswer⟩ := call_answer hd hr hs hq hread hcrs hb
  refine ⟨a, hcall, ?_, ?_⟩
  · rw [hanswer]
    exact Raster.length_bands_answer hi
  intro k i hk col hcol row hrow
  rw [hanswer] at hcol hrow ⊢
  have hcell := hr.answer_repeats hd ha hcrs hqcrs hb hmethod hk hcol hrow
  refine ⟨hcell, fun hkeeps => hkeeps.shows hcell, fun hkeeps => ?_⟩
  obtain ⟨p, hp⟩ : ∃ p, p = (r.answer (planOf q)).centreOf col row := ⟨_, rfl⟩
  have hfull := hr.marked (r.columnOf p) (r.rowOf p)
  obtain ⟨a', hcall', hanswer'⟩ := call_answer
    (s := { s with reader := fun _ _ => .raster (r.marked (r.columnOf p) (r.rowOf p)) })
    hd hfull hs hq rfl hcrs hb
  obtain ⟨hw, hh, he⟩ := Raster.answer_congr (planOf q)
    (show (r.marked (r.columnOf p) (r.rowOf p)).width = r.width from rfl) rfl rfl rfl
  have hcentre := Raster.centreOf_congr hw hh he col row
  have hcell' := hfull.answer_repeats hd ha hcrs hqcrs hb hmethod hk (hw ▸ hcol) (hh ▸ hrow)
  obtain ⟨hcols, hrows, -⟩ := hl.crop_window hb
  refine ⟨_, a', hfull, hcall', ?_, ?_⟩
  · obtain ⟨_, u, _, -, hu, -⟩ := hcell'
    rw [hanswer', hu]
    rfl
  · have hlt : i < r.bands.length := hi i (List.mem_of_getElem? hk)
    rw [hcentre, ← hp] at hcell'
    rw [hanswer']
    apply Raster.not_shows_marked hl hlt _ _ hcols hrows _ hcell'
    · rw [hcentre, hp]
    · rw [hcentre, hp]
    · rwa [hcentre]

end Nearest

section Small

open scoped Geographic

def coarseRequest : CoverageRequest Exact :=
  { smallRequest (Envelope.planeBounds ⟨-4, 5⟩ ⟨-4, 5⟩)
      (some ⟨none, some (-4.0, 5.0), some (3.0, -3.0)⟩) with
    interpolation := some "nearest" }

def numberedBand : Band Float32 := ⟨"a", Pattern.ramp 10 10, none⟩

theorem call_nearest_small :
    ∃ q a, (CoverageDescriptor.small ["a"]).validate Encoder.standard Settings.standard
        coarseRequest = .ok q ∧
      ((small fun _ _ => .raster (CoverageDescriptor.smallRaster [numberedBand])).call
        coarseRequest false).outcome = .ok a ∧ a.raster.bands.length = q.bands.length ∧
      ∀ k i, q.bands[k]? = some i → ∀ col < a.raster.width, ∀ row < a.raster.height,
        (CoverageDescriptor.smallRaster [numberedBand]).Keeps q.envelope
            (a.raster.centreOf col row) →
          a.raster.Shows k col row (CoverageDescriptor.smallRaster [numberedBand]) i := by
  have hfull : (CoverageDescriptor.small ["a"]).IsFull
      (CoverageDescriptor.smallRaster [numberedBand]) :=
    CoverageDescriptor.small_isFull rfl (by simp [numberedBand, Pattern.ramp, Pattern.ofFn])
  have hplan : ((CoverageDescriptor.small ["a"]).validate Encoder.standard Settings.standard
      coarseRequest).toOption.map (fun q => (decide (q.interpolation = .nearest),
        decide (q.targetCrs.code = .wgs84),
        ((CoverageDescriptor.small ["a"]).nativeEnvelope.meet? q.envelope).isSome)) =
      some (true, true, true) := by
    decide +kernel
  cases hq : (CoverageDescriptor.small ["a"]).validate Encoder.standard Settings.standard
      coarseRequest with
  | error e =>
    rw [hq] at hplan
    exact absurd hplan (by simp [Except.toOption])
  | ok q =>
    rw [hq] at hplan
    obtain ⟨hmethod, hcrs, hover⟩ : q.interpolation = .nearest ∧ q.targetCrs.code = .wgs84 ∧
        ((CoverageDescriptor.small ["a"]).nativeEnvelope.meet? q.envelope).isSome = true := by
      simpa [Except.toOption] using hplan
    obtain ⟨a, ha⟩ := call_nearest
      (s := small fun _ _ => .raster (CoverageDescriptor.smallRaster [numberedBand]))
      (CoverageDescriptor.small_liesOn ["a"]) hfull rfl hq rfl hmethod hcrs hover
    refine ⟨q, a, rfl, ha.1, ha.2.1, ?_⟩
    intro k i hk col hcol row hrow
    exact (ha.2.2 k i hk col hcol row hrow).2.1

end Small

end Service

end GeoRaster
