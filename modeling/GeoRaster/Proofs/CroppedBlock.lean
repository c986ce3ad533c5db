import GeoRaster.Coverage.Example
import GeoRaster.Proofs.CoveringCells
import GeoRaster.Proofs.Stages

namespace GeoRaster

def CellSpan.places (s : CellSpan) : Interval ℚ :=
  ⟨s.first, s.stop⟩

namespace Interval

def Hugs (u : ℚ) (g a : Interval ℚ) : Prop :=
  a.min - g.min < u ∧ g.max - a.max < u

instance (u : ℚ) (g a : Interval ℚ) : Decidable (g.Hugs u a) :=
  inferInstanceAs (Decidable (_ ∧ _))

/-- Ground in cells of length `c` that an interval is snapped to: it covers the interval up to the
margin, and hugs it up to a cell and the margin. In place of that a single place may have the cell
`behind` it for its ground. -/
structure Snapped (a g behind : Interval ℚ) (c : ℚ) : Prop where
  covered : a.WithinBy (CellSpan.margin * c) g
  hugged : g.Hugs ((1 + CellSpan.margin) * c) a ∨ a.min = a.max ∧ g = behind

def cellAfter (p c : ℚ) : Interval ℚ :=
  ⟨p + CellSpan.margin * c, p + CellSpan.margin * c + c⟩

def cellBefore (p c : ℚ) : Interval ℚ :=
  ⟨p - CellSpan.margin * c - c, p - CellSpan.margin * c⟩

end Interval

namespace CellSpan

variable {size : ℕ} {d : Interval ℚ}

theorem first_le_min (hl : 0 ≤ d.min) : ((reached size d).first : ℚ) ≤ d.min + margin := by
  have hm := margin_pos
  have hfloor := Nat.floor_le (show 0 ≤ d.min + margin by linarith)
  have hfirst : ((reached size d).first : ℚ) ≤ ⌊d.min + margin⌋₊ :=
    Nat.cast_le.mpr (min_le_left _ _)
  exact hfirst.trans hfloor

theorem max_le_stop (hu : d.max ≤ size) : d.max ≤ (reached size d).stop + margin := by
  have hm := margin_pos
  have hceil := Nat.le_ceil (d.max - margin)
  have hstop : ⌈d.max - margin⌉₊ ≤ (reached size d).stop ∨ size ≤ (reached size d).stop := by
    simp only [reached]
    omega
  obtain hc | hc := hstop
  · have : (⌈d.max - margin⌉₊ : ℚ) ≤ (reached size d).stop := Nat.cast_le.mpr hc
    linarith
  · have : (size : ℚ) ≤ (reached size d).stop := Nat.cast_le.mpr hc
    linarith

variable (h : 0 < size) (hle : d.min ≤ d.max)
include h hle

theorem min_sub_first_lt (hu : d.max ≤ size) : d.min - (reached size d).first < 1 + margin := by
  have hm := margin_pos
  have hfloor := Nat.lt_floor_add_one (d.min + margin)
  have hlast : ((size - 1 : ℕ) : ℚ) = size - 1 := Nat.cast_pred h
  have hfirst : (reached size d).first = ⌊d.min + margin⌋₊ ∨
      (reached size d).first = size - 1 := min_choice _ _
  obtain hf | hf := hfirst
  · rw [hf]
    linarith
  · rw [hf, hlast]
    linarith

/-- The reached cells end less than a cell and the margin beyond an interval. Only a place that the
margin carries onto the border of a cell is left with the cell behind that border. -/
theorem stop_sub_max_lt (hl : 0 ≤ d.min) :
    (reached size d).stop - d.max < 1 + margin ∨
      d.min = d.max ∧ (reached size d).places = ⟨d.min + margin, d.min + margin + 1⟩ := by
  have hm := margin_pos
  have hfirst : ((reached size d).first : ℚ) ≤ d.min + margin := first_le_min hl
  have hlt := first_lt_stop (a := d) h
  have hstop : (reached size d).stop ≤
      max ⌈d.max - margin⌉₊ ((reached size d).first + 1) := min_le_left _ _
  by_cases hc : (reached size d).first + 1 < ⌈d.max - margin⌉₊
  · -- The last cell is the one that the interval ends in.
    left
    have hceil := Nat.ceil_lt_add_one (Nat.ceil_pos.mp (Nat.zero_lt_of_lt hc)).le
    have hle' : ((reached size d).stop : ℚ) ≤ ⌈d.max - margin⌉₊ := Nat.cast_le.mpr (by omega)
    linarith
  · -- There is only the first cell, which begins at most the margin after the interval.
    have hone : ((reached size d).stop : ℚ) = (reached size d).first + 1 := by
      rw [← Nat.cast_add_one]
      congr 1
      omega
    by_cases hend : (reached size d).stop - d.max < 1 + margin
    · exact .inl hend
    · right
      have hborder : ((reached size d).first : ℚ) = d.min + margin := by linarith
      refine ⟨by linarith, ?_⟩
      rw [places, hone, hborder]

theorem reached_snapped (hl : 0 ≤ d.min) (hu : d.max ≤ size) :
    d.Snapped (reached size d).places (.cellAfter d.min 1) 1 := by
  refine ⟨⟨?_, ?_⟩, ?_⟩
  · rw [mul_one]
    exact sub_le_iff_le_add.mpr (first_le_min hl)
  · rw [mul_one]
    exact max_le_stop hu
  · rw [mul_one, Interval.cellAfter, mul_one]
    exact (stop_sub_max_lt h hle hl).imp (fun hend => ⟨min_sub_first_lt h hle hu, hend⟩) id

end CellSpan

namespace Interval

variable {e a d g : Interval ℚ} {n : ℕ} {o c : ℚ}

def placedUp (o c : ℚ) (d : Interval ℚ) : Interval ℚ :=
  ⟨o + d.min * c, o + d.max * c⟩

def placedDown (o c : ℚ) (d : Interval ℚ) : Interval ℚ :=
  ⟨o - d.max * c, o - d.min * c⟩

theorem placedUp_fromMin (hc : e.cell n ≠ 0) (a : Interval ℚ) :
    (e.fromMin n a).placedUp e.min (e.cell n) = a := by
  simp [placedUp, fromMin, div_mul_cancel₀ _ hc]

theorem placedDown_fromMax (hc : e.cell n ≠ 0) (a : Interval ℚ) :
    (e.fromMax n a).placedDown e.max (e.cell n) = a := by
  simp [placedDown, fromMax, div_mul_cancel₀ _ hc]

theorem WithinBy.placedUp {t : ℚ} (hc : 0 ≤ c) (h : d.WithinBy t g) :
    (d.placedUp o c).WithinBy (t * c) (g.placedUp o c) := by
  have hmin := mul_le_mul_of_nonneg_right h.1 hc
  have hmax := mul_le_mul_of_nonneg_right h.2 hc
  constructor
  · simp only [Interval.placedUp]
    linarith
  · simp only [Interval.placedUp]
    linarith

theorem WithinBy.placedDown {t : ℚ} (hc : 0 ≤ c) (h : d.WithinBy t g) :
    (d.placedDown o c).WithinBy (t * c) (g.placedDown o c) := by
  have hmin := mul_le_mul_of_nonneg_right h.1 hc
  have hmax := mul_le_mul_of_nonneg_right h.2 hc
  constructor
  · simp only [Interval.placedDown]
    linarith
  · simp only [Interval.placedDown]
    linarith

theorem Hugs.placedUp {u : ℚ} (hc : 0 < c) (h : g.Hugs u d) :
    (g.placedUp o c).Hugs (u * c) (d.placedUp o c) := by
  have hmin := mul_lt_mul_of_pos_right h.1 hc
  have hmax := mul_lt_mul_of_pos_right h.2 hc
  constructor
  · simp only [Interval.placedUp]
    linarith
  · simp only [Interval.placedUp]
    linarith

theorem Hugs.placedDown {u : ℚ} (hc : 0 < c) (h : g.Hugs u d) :
    (g.placedDown o c).Hugs (u * c) (d.placedDown o c) := by
  have hmin := mul_lt_mul_of_pos_right h.1 hc
  have hmax := mul_lt_mul_of_pos_right h.2 hc
  constructor
  · simp only [Interval.placedDown]
    linarith
  · simp only [Interval.placedDown]
    linarith

theorem Snapped.placedUp (hc : 0 < c) (h : d.Snapped g (cellAfter d.min 1) 1) :
    (d.placedUp o c).Snapped (g.placedUp o c) (cellAfter (d.placedUp o c).min c) c := by
  obtain ⟨hcovered, hhugged⟩ := h
  rw [mul_one] at hcovered hhugged
  refine ⟨hcovered.placedUp hc.le, hhugged.imp (Hugs.placedUp hc) ?_⟩
  rintro ⟨hplace, rfl⟩
  constructor
  · rw [Interval.placedUp, hplace]
  · simp only [Interval.placedUp, cellAfter, mk.injEq]
    constructor <;> ring

theorem Snapped.placedDown (hc : 0 < c) (h : d.Snapped g (cellAfter d.min 1) 1) :
    (d.placedDown o c).Snapped (g.placedDown o c) (cellBefore (d.placedDown o c).max c) c := by
  obtain ⟨hcovered, hhugged⟩ := h
  rw [mul_one] at hcovered hhugged
  refine ⟨hcovered.placedDown hc.le, hhugged.imp (Hugs.placedDown hc) ?_⟩
  rintro ⟨hplace, rfl⟩
  constructor
  · rw [Interval.placedDown, hplace]
  · simp only [Interval.placedDown, cellAfter, cellBefore, mk.injEq]
    constructor <;> ring

section Ground

variable (he : e.min < e.max) (hn : 0 < n) (hw : a.Within e) (hle : a.min ≤ a.max)
include he hn hw hle

theorem snapped_groundUp :
    a.Snapped (e.groundUp n (.reached n (e.fromMin n a))) (cellAfter a.min (e.cell n))
      (e.cell n) := by
  have hc := cell_pos he hn
  obtain ⟨hl, hle', hu⟩ := fromMin_mem hn he hw hle
  have hs := (CellSpan.reached_snapped hn hle' hl hu).placedUp (o := e.min) hc
  rwa [placedUp_fromMin hc.ne'] at hs

theorem snapped_groundDown :
    a.Snapped (e.groundDown n (.reached n (e.fromMax n a))) (cellBefore a.max (e.cell n))
      (e.cell n) := by
  have hc := cell_pos he hn
  obtain ⟨hl, hle', hu⟩ := fromMax_mem hn he hw hle
  have hs := (CellSpan.reached_snapped hn hle' hl hu).placedDown (o := e.max) hc
  rwa [placedDown_fromMax hc.ne'] at hs

end Ground

end Interval

namespace Raster

variable {σ : Type}

/-- The samples of the first raster are those of a block of cells of the second one. Every slice of
a row that is copied lies within the samples of its band. -/
structure IsBlockOf {α : Type} (a r : Raster α σ) (cols rows : CellSpan) : Prop where
  cols_fit : cols.Fits r.width
  rows_fit : rows.Fits r.height
  width_eq : a.width = cols.length
  height_eq : a.height = rows.length
  labels_eq : a.bands.map (fun b => (b.name, b.noData)) = r.bands.map fun b => (b.name, b.noData)
  slice_le : ∀ b ∈ r.bands, ∀ row, rows.first ≤ row → row < rows.stop →
    row * r.width + cols.first < row * r.width + cols.stop ∧
      row * r.width + cols.stop ≤ b.data.size
  exists_sample : ∀ k < r.bands.length, ∀ col < a.width, ∀ row < a.height,
    ∃ v, a.get? k col row = some v ∧ r.get? k (cols.first + col) (rows.first + row) = some v

variable {r : Raster Exact σ} {x y : Interval ℚ} {cols rows : CellSpan}

theorem part_isBlockOf (hs : ∀ b ∈ r.bands, b.data.size = r.width * r.height)
    (hc : cols.Fits r.width) (hr : rows.Fits r.height) :
    (r.part cols rows).IsBlockOf r cols rows where
  cols_fit := hc
  rows_fit := hr
  width_eq := rfl
  height_eq := rfl
  labels_eq := by
    simp only [part, List.map_map]
    rfl
  slice_le := by
    intro b hb row hfirst hstop
    have hle := Nat.mul_le_mul_right r.width (hstop.trans_le hr.stop_le)
    rw [Nat.succ_mul] at hle
    have := hc.first_lt
    have := hc.stop_le
    rw [hs b hb, Nat.mul_comm r.width]
    omega
  exists_sample := by
    intro k hk col hcol row hrow
    rw [get?_part hs hc hr hcol hrow]
    have hcol' : cols.first + col < r.width := by
      have := hc.stop_le
      simp only [part, CellSpan.length] at hcol
      omega
    have hrow' : rows.first + row < r.height := by
      have := hr.stop_le
      simp only [part, CellSpan.length] at hrow
      omega
    obtain ⟨v, hv⟩ := exists_get? hs hk hcol' hrow'
    exact ⟨v, hv, hv⟩

/-- What a crop leaves of a raster over `x` and `y` for a box that shares `cx` and `cy` with it: a
block of the raster's cells with the ground under them. All cells are left for a part that counts as
the whole. Every other part is what the block says it shows, and is snapped to its ground. -/
structure Leaves (r : Raster Exact σ) (x y cx cy : Interval ℚ) (a : Raster Exact σ)
    (extent : Envelope Exact) (cols rows : CellSpan) : Prop where
  wellFormed : a.WellFormed
  isBlockOf : a.IsBlockOf r cols rows
  envelope_eq : a.envelope =
    .plane (x.groundUp r.width cols) (y.groundDown r.height rows) (some r.crs)
  whole : cx.Near x ∧ cy.Near y → a = r ∧ extent = r.envelope ∧
    cx.Within (x.groundUp r.width cols) ∧ cy.Within (y.groundDown r.height rows)
  snapped : ¬ (cx.Near x ∧ cy.Near y) → extent = .plane cx cy (some r.crs) ∧
    cx.Snapped (x.groundUp r.width cols) (.cellAfter cx.min (x.cell r.width)) (x.cell r.width) ∧
    cy.Snapped (y.groundDown r.height rows) (.cellBefore cy.max (y.cell r.height))
      (y.cell r.height)

theorem Spans.exists_leaves (h : r.Spans x y)
    (hs : ∀ b ∈ r.bands, b.data.size = r.width * r.height)
    (hn : ∀ b ∈ r.bands, b.data.size < 2 ^ 64) {cx cy : Interval ℚ} {box : Envelope Exact}
    (hb : box.Shows x y cx cy) (hcx : cx.min ≤ cx.max) (hcy : cy.min ≤ cy.max) :
    ∃ a extent cols rows, r.crop box = .ok (a, extent) ∧
      r.Leaves x y cx cy a extent cols rows := by
  have hall : (⟨0, r.width⟩ : CellSpan).Fits r.width := CellSpan.fits_all h.width_pos
  have hall' : (⟨0, r.height⟩ : CellSpan).Fits r.height := CellSpan.fits_all h.height_pos
  have hc := CellSpan.fits_reached h.width_pos (x.fromMin r.width cx)
  have hr := CellSpan.fits_reached h.height_pos (y.fromMax r.height cy)
  have hcrop := h.crop_eq hs hn hb
  by_cases hnear : cx.Near x ∧ cy.Near y
  · have hpart := h.part_all hs
    have hwell := h.part_wellFormed hs hall hall'
    have hblock := part_isBlockOf hs hall hall'
    rw [hpart] at hwell hblock
    rw [if_pos hnear] at hcrop
    refine ⟨_, _, _, _, hcrop, hwell, hblock, ?_, fun _ => ⟨rfl, rfl, ?_, ?_⟩,
      fun hfar => absurd hnear hfar⟩
    · rw [← h.blockEnvelope_eq]
      exact (congrArg Raster.envelope hpart).symm
    · rw [Interval.groundUp_all x h.width_pos]
      exact hb.x_within
    · rw [Interval.groundDown_all y h.height_pos]
      exact hb.y_within
  · rw [if_neg hnear] at hcrop
    exact ⟨_, _, _, _, hcrop, h.part_wellFormed hs hc hr, part_isBlockOf hs hc hr,
      h.blockEnvelope_eq _ _, fun hn => absurd hn hnear, fun _ => ⟨rfl,
        Interval.snapped_groundUp h.x_lt h.width_pos hb.x_within hcx,
        Interval.snapped_groundDown h.y_lt h.height_pos hb.y_within hcy⟩⟩

/-- A crop fails just where the box shares nothing with the raster, and otherwise leaves a block of
its cells. -/
theorem crop_leaves (h : r.WellFormed) (hw : r.width < 2 ^ 64) (hh : r.height < 2 ^ 64)
    (hn : ∀ b ∈ r.bands, b.data.size < 2 ^ 64) (haxes : r.envelope.axes = [x.exact, y.exact])
    (hx : x.min < x.max) (hy : y.min < y.max) (box : Envelope Exact) (hv : box.isValid = true) :
    (r.crop box = .error .emptyIntersection ↔ r.envelope.meet? box = none) ∧
      ∀ common, r.envelope.meet? box = some common →
        ∃ cx cy a extent cols rows, common = .plane cx cy (some r.crs) ∧
          r.crop box = .ok (a, extent) ∧ r.Leaves x y cx cy a extent cols rows := by
  have hr := h.spans hw hh haxes hx hy
  have hkeeps : ∀ common, r.envelope.meet? box = some common →
      ∃ cx cy a extent cols rows, common = .plane cx cy (some r.crs) ∧
        r.crop box = .ok (a, extent) ∧ r.Leaves x y cx cy a extent cols rows := by
    intro common hm
    rw [hr.envelope_eq] at hm
    have hne : (Envelope.plane x y (some r.crs)).meet? box ≠ none := by
      rw [hm]
      simp
    obtain ⟨cx, cy, hb, hvalid⟩ := Envelope.exists_shows (some r.crs) hx hy hne
    obtain ⟨hcx, hcy⟩ := hvalid hv
    obtain ⟨a, extent, cols, rows, hcrop, hl⟩ := hr.exists_leaves h.size_eq hn hb hcx hcy
    rw [hb.meet?_plane hx hy] at hm
    exact ⟨cx, cy, a, extent, cols, rows, (Option.some.inj hm).symm, hcrop, hl⟩
  refine ⟨⟨fun hcrop => ?_, crop_disjoint⟩, hkeeps⟩
  cases hm : r.envelope.meet? box with
  | none => rfl
  | some common =>
    obtain ⟨cx, cy, a, extent, cols, rows, -, hok, -⟩ := hkeeps common hm
    rw [hok] at hcrop
    exact absurd hcrop (by simp)

section Unit

def unitRaster : Raster Exact Float32 where
  width := 4
  height := 4
  bands := [⟨"b", Pattern.ramp 4 4, none⟩]
  envelope := .plane ⟨0, 4⟩ ⟨0, 4⟩ (some (.ofCode .webMercator))
  crs := .ofCode .webMercator

theorem unitRaster_wellFormed : unitRaster.WellFormed where
  width_pos := by decide
  height_pos := by decide
  size_eq := by
    intro b hb
    obtain rfl := List.mem_singleton.mp hb
    exact Array.size_ofFn
  crs_eq := rfl
  order_eq := rfl

def acrossBox : Envelope Exact :=
  .plane ⟨1 / 2, 3 / 2⟩ ⟨1, 9⟩ none

theorem crop_leaves_across :
    unitRaster.envelope.meet? acrossBox =
        some (.plane ⟨1 / 2, 3 / 2⟩ ⟨1, 4⟩ (some (.ofCode .webMercator))) ∧
      ∃ cx cy a extent cols rows, unitRaster.crop acrossBox = .ok (a, extent) ∧
        unitRaster.Leaves ⟨0, 4⟩ ⟨0, 4⟩ cx cy a extent cols rows := by
  have hn : ∀ b ∈ unitRaster.bands, b.data.size < 2 ^ 64 := by
    intro b hb
    rw [unitRaster_wellFormed.size_eq b hb]
    decide
  have hm : unitRaster.envelope.meet? acrossBox =
      some (.plane ⟨1 / 2, 3 / 2⟩ ⟨1, 4⟩ (some (.ofCode .webMercator))) := by
    decide +kernel
  obtain ⟨-, hkeeps⟩ := crop_leaves unitRaster_wellFormed (by decide) (by decide) hn rfl
    (by norm_num) (by norm_num) acrossBox (by decide +kernel)
  obtain ⟨cx, cy, a, extent, cols, rows, -, hcrop, hl⟩ := hkeeps _ hm
  exact ⟨hm, cx, cy, a, extent, cols, rows, hcrop, hl⟩

def placeBox : Envelope Exact :=
  .plane ⟨2999999 / 1000000, 2999999 / 1000000⟩ ⟨1, 3⟩ none

/-- The block that is left reaches a whole cell and the margin beyond the place. -/
theorem crop_place_not_hugged :
    placeBox.isValid = true ∧
      unitRaster.envelope.meet? placeBox = some (.plane ⟨2999999 / 1000000, 2999999 / 1000000⟩
        ⟨1, 3⟩ (some (.ofCode .webMercator))) ∧
      ¬ Interval.Near ⟨2999999 / 1000000, 2999999 / 1000000⟩ ⟨0, 4⟩ ∧
      (∃ a extent, unitRaster.crop placeBox = .ok (a, extent) ∧
        a.envelope = .plane ⟨3, 4⟩ ⟨1, 3⟩ (some (.ofCode .webMercator))) ∧
      ¬ Interval.Hugs ((1 + CellSpan.margin) * Interval.cell ⟨0, 4⟩ 4) ⟨3, 4⟩
        ⟨2999999 / 1000000, 2999999 / 1000000⟩ := by
  have hcrop : (unitRaster.crop placeBox).toOption.map (·.1.envelope) =
      some (.plane ⟨3, 4⟩ ⟨1, 3⟩ (some (.ofCode .webMercator))) := by
    decide +kernel
  obtain ⟨⟨a, extent⟩, hok, henvelope⟩ := exists_of_toOption_map hcrop
  refine ⟨by decide +kernel, by decide +kernel, by decide +kernel, ⟨a, extent, hok, henvelope⟩,
    by decide +kernel⟩

end Unit

end Raster

end GeoRaster
