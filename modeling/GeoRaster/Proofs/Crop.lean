import GeoRaster.Proofs.Block

namespace GeoRaster

namespace Interval

variable {e a : Interval ℚ} {n : ℕ}

/-- The length of one of `n` cells. -/
def cell (e : Interval ℚ) (n : ℕ) : ℚ :=
  e.length / n

def fromMin (e : Interval ℚ) (n : ℕ) (a : Interval ℚ) : Interval ℚ :=
  ⟨(a.min - e.min) / e.cell n, (a.max - e.min) / e.cell n⟩

def fromMax (e : Interval ℚ) (n : ℕ) (a : Interval ℚ) : Interval ℚ :=
  ⟨(e.max - a.max) / e.cell n, (e.max - a.min) / e.cell n⟩

def groundUp (e : Interval ℚ) (n : ℕ) (s : CellSpan) : Interval ℚ :=
  ⟨e.min + s.first * e.cell n, e.min + s.stop * e.cell n⟩

def groundDown (e : Interval ℚ) (n : ℕ) (s : CellSpan) : Interval ℚ :=
  ⟨e.max - s.stop * e.cell n, e.max - s.first * e.cell n⟩

theorem cell_pos (he : e.min < e.max) (hn : 0 < n) : 0 < e.cell n :=
  div_pos (sub_pos.mpr he) (Nat.cast_pos.mpr hn)

theorem mul_cell (e : Interval ℚ) (hn : 0 < n) : n * e.cell n = e.length :=
  mul_div_cancel₀ _ (Nat.cast_ne_zero.mpr hn.ne')

theorem groundUp_all (e : Interval ℚ) (hn : 0 < n) : e.groundUp n ⟨0, n⟩ = e := by
  simp [groundUp, mul_cell e hn, length]

theorem groundDown_all (e : Interval ℚ) (hn : 0 < n) : e.groundDown n ⟨0, n⟩ = e := by
  simp [groundDown, mul_cell e hn, length]

variable {s : CellSpan}

theorem groundUp_lt (he : e.min < e.max) (hn : 0 < n) (hs : s.first < s.stop) :
    (e.groundUp n s).min < (e.groundUp n s).max := by
  have := mul_lt_mul_of_pos_right (Nat.cast_lt.mpr hs) (cell_pos he hn)
  simpa [groundUp] using this

theorem groundDown_lt (he : e.min < e.max) (hn : 0 < n) (hs : s.first < s.stop) :
    (e.groundDown n s).min < (e.groundDown n s).max := by
  have := mul_lt_mul_of_pos_right (Nat.cast_lt.mpr hs) (cell_pos he hn)
  simpa [groundDown] using this

theorem length_groundUp (e : Interval ℚ) (n : ℕ) (hs : s.first ≤ s.stop) :
    (e.groundUp n s).length = s.length * e.cell n := by
  rw [CellSpan.length, Nat.cast_sub hs]
  simp only [groundUp, length]
  ring

theorem length_groundDown (e : Interval ℚ) (n : ℕ) (hs : s.first ≤ s.stop) :
    (e.groundDown n s).length = s.length * e.cell n := by
  rw [CellSpan.length, Nat.cast_sub hs]
  simp only [groundDown, length]
  ring

theorem cell_groundUp (e : Interval ℚ) (n : ℕ) (hs : s.first < s.stop) :
    (e.groundUp n s).cell s.length = e.cell n := by
  have : (s.length : ℚ) ≠ 0 := Nat.cast_ne_zero.mpr (Nat.sub_ne_zero_of_lt hs)
  rw [cell, length_groundUp e n hs.le, mul_div_cancel_left₀ _ this]

theorem cell_groundDown (e : Interval ℚ) (n : ℕ) (hs : s.first < s.stop) :
    (e.groundDown n s).cell s.length = e.cell n := by
  have : (s.length : ℚ) ≠ 0 := Nat.cast_ne_zero.mpr (Nat.sub_ne_zero_of_lt hs)
  rw [cell, length_groundDown e n hs.le, mul_div_cancel_left₀ _ this]

theorem fromMin_mem (hn : 0 < n) (he : e.min < e.max) (hw : a.Within e) (hle : a.min ≤ a.max) :
    0 ≤ (e.fromMin n a).min ∧ (e.fromMin n a).min ≤ (e.fromMin n a).max ∧
      (e.fromMin n a).max ≤ n := by
  have hc := cell_pos he hn
  have hl := mul_cell e hn
  obtain ⟨h₁, h₂⟩ := hw
  simp only [length] at hl
  refine ⟨div_nonneg (by linarith) hc.le, ?_, ?_⟩
  · exact div_le_div_of_nonneg_right (by linarith) hc.le
  · rw [fromMin, div_le_iff₀ hc]
    linarith

theorem fromMax_mem (hn : 0 < n) (he : e.min < e.max) (hw : a.Within e) (hle : a.min ≤ a.max) :
    0 ≤ (e.fromMax n a).min ∧ (e.fromMax n a).min ≤ (e.fromMax n a).max ∧
      (e.fromMax n a).max ≤ n := by
  have hc := cell_pos he hn
  have hl := mul_cell e hn
  obtain ⟨h₁, h₂⟩ := hw
  simp only [length] at hl
  refine ⟨div_nonneg (by linarith) hc.le, ?_, ?_⟩
  · exact div_le_div_of_nonneg_right (by linarith) hc.le
  · rw [fromMax, div_le_iff₀ hc]
    linarith

/-- The cells are longer than what two intervals may differ by and still count as one. -/
def Resolves (e : Interval ℚ) (n : ℕ) : Prop :=
  1e-9 * Max.max e.length leastLength < (1 - CellSpan.margin) * e.cell n

instance (e : Interval ℚ) (n : ℕ) : Decidable (e.Resolves n) :=
  inferInstanceAs (Decidable (_ < _))

/-- Short of about `10 ^ 9` cells, only the least length that counts can be too long for them. -/
theorem resolves_of_le (he : e.min < e.max) (hn : 0 < n) (hle : n ≤ 10 ^ 8)
    (hc : 1e-9 * leastLength < (1 - CellSpan.margin) * e.cell n) : e.Resolves n := by
  have hpos := cell_pos he hn
  have hl := mul_cell e hn
  have hq : (n : ℚ) ≤ 10 ^ 8 := by exact_mod_cast hle
  have hcell : (n : ℚ) * e.cell n ≤ 10 ^ 8 * e.cell n := mul_le_mul_of_nonneg_right hq hpos.le
  have hm : CellSpan.margin = 1e-6 := rfl
  rw [Resolves, mul_max_of_nonneg _ _ (by norm_num), max_lt_iff]
  refine ⟨?_, hc⟩
  rw [← hl, hm]
  norm_num
  linarith

theorem tolerance_of_within (h : a.Within e) (hm : e.Meets a) :
    tolerance a e = 1e-9 * Max.max e.length leastLength := by
  obtain ⟨h₁, h₂⟩ := h
  obtain ⟨h₃, h₄⟩ := hm
  have ha : |a.length| ≤ e.length := by
    rw [abs_le]
    simp only [length]
    constructor <;> linarith
  have he : |e.length| = e.length := abs_of_nonneg ((abs_nonneg _).trans ha)
  rw [tolerance, he, max_eq_right ha]

theorem near_fromMin (hn : 0 < n) (hw : a.Within e) (hm : e.Meets a) (ha : a.Near e)
    (hr : e.Resolves n) :
    (e.fromMin n a).min + CellSpan.margin < 1 ∧ n - 1 < (e.fromMin n a).max - CellSpan.margin := by
  have hlt : e.min < e.max := by
    obtain ⟨h₁, h₂⟩ := hw
    obtain ⟨h₃, h₄⟩ := hm
    linarith
  have hc := cell_pos hlt hn
  have hl := mul_cell e hn
  obtain ⟨h₁, h₂⟩ := ha
  rw [tolerance_of_within hw hm] at h₁ h₂
  rw [Resolves] at hr
  have h₃ := (abs_le.mp h₁).2
  have h₄ := (abs_le.mp h₂).1
  simp only [length] at hl
  constructor
  · have : (a.min - e.min) / e.cell n < 1 - CellSpan.margin := by
      rw [div_lt_iff₀ hc]
      linarith
    simp only [fromMin]
    linarith
  · have : n - 1 + CellSpan.margin < (a.max - e.min) / e.cell n := by
      rw [lt_div_iff₀ hc]
      linarith
    simp only [fromMin]
    linarith

theorem near_fromMax (hn : 0 < n) (hw : a.Within e) (hm : e.Meets a) (ha : a.Near e)
    (hr : e.Resolves n) :
    (e.fromMax n a).min + CellSpan.margin < 1 ∧ n - 1 < (e.fromMax n a).max - CellSpan.margin := by
  have hlt : e.min < e.max := by
    obtain ⟨h₁, h₂⟩ := hw
    obtain ⟨h₃, h₄⟩ := hm
    linarith
  have hc : e.cell n ≠ 0 := (cell_pos hlt hn).ne'
  have hl := mul_cell e hn
  -- Counted from the other end, the two distances change places.
  have hx : (e.fromMax n a).min = n - (e.fromMin n a).max := by
    simp only [fromMin, fromMax]
    rw [eq_sub_iff_add_eq, ← add_div, div_eq_iff hc, hl, length]
    ring
  have hy : (e.fromMax n a).max = n - (e.fromMin n a).min := by
    simp only [fromMin, fromMax]
    rw [eq_sub_iff_add_eq, ← add_div, div_eq_iff hc, hl, length]
    ring
  obtain ⟨h₁, h₂⟩ := near_fromMin hn hw hm ha hr
  constructor <;> linarith

end Interval

structure CellSpan.Fits (s : CellSpan) (size : ℕ) : Prop where
  first_lt : s.first < s.stop
  stop_le : s.stop ≤ size

theorem CellSpan.fits_reached {size : ℕ} (h : 0 < size) (a : Interval ℚ) :
    (reached size a).Fits size :=
  ⟨first_lt_stop h, stop_le size a⟩

theorem CellSpan.fits_all {size : ℕ} (h : 0 < size) : (⟨0, size⟩ : CellSpan).Fits size :=
  ⟨h, le_rfl⟩

namespace CellSpan.Fits

variable {s : CellSpan} {size : ℕ}

theorem length_pos (h : s.Fits size) : 0 < s.length :=
  Nat.sub_pos_of_lt h.first_lt

theorem length_le (h : s.Fits size) : s.length ≤ size :=
  (Nat.sub_le _ _).trans h.stop_le

end CellSpan.Fits

namespace Interval

variable {e a : Interval ℚ} {n : ℕ} {s : CellSpan}

theorem groundDown_within (he : e.min < e.max) (hs : s.Fits n) : (e.groundDown n s).Within e := by
  have hn : 0 < n := (Nat.zero_le _).trans_lt (hs.first_lt.trans_le hs.stop_le)
  have hc := cell_pos he hn
  have hl := mul_cell e hn
  have h₁ : (s.stop : ℚ) * e.cell n ≤ n * e.cell n :=
    mul_le_mul_of_nonneg_right (Nat.cast_le.mpr hs.stop_le) hc.le
  have h₂ : 0 ≤ s.first * e.cell n := mul_nonneg (Nat.cast_nonneg _) hc.le
  simp only [length] at hl
  constructor
  · simp only [groundDown]
    linarith
  · simp only [groundDown]
    linarith

theorem resolves_groundDown (he : e.min < e.max) (hs : s.Fits n) (hr : e.Resolves n) :
    (e.groundDown n s).Resolves s.length := by
  have hw := groundDown_within he hs
  have hle : (e.groundDown n s).length ≤ e.length := by
    obtain ⟨h₁, h₂⟩ := hw
    simp only [length]
    linarith
  rw [Resolves, cell_groundDown e n hs.first_lt]
  refine lt_of_le_of_lt ?_ hr
  exact mul_le_mul_of_nonneg_left (max_le_max hle le_rfl) (by norm_num)

/-- Distances on a block are those on the whole, counted from the first cell of the block. -/
theorem fromMax_groundDown (he : e.min < e.max) (hs : s.Fits n) (a : Interval ℚ) :
    (e.groundDown n s).fromMax s.length ((e.groundDown n s).common a) =
      ⟨Max.max (e.fromMax n a).min s.first - s.first,
        Min.min (e.fromMax n a).max s.stop - s.first⟩ := by
  have hn : 0 < n := (Nat.zero_le _).trans_lt (hs.first_lt.trans_le hs.stop_le)
  have hc := cell_pos he hn
  have hshift : ∀ k b : ℚ, (e.max - k * e.cell n - b) / e.cell n = (e.max - b) / e.cell n - k := by
    intro k b
    rw [div_eq_iff hc.ne', sub_mul, div_mul_cancel₀ _ hc.ne']
    ring
  simp only [fromMax, cell_groundDown e n hs.first_lt, mk.injEq]
  simp only [groundDown, common]
  constructor
  · rcases le_total (e.max - s.first * e.cell n) a.max with h | h
    · have hle : (e.max - a.max) / e.cell n ≤ s.first := by
        rw [div_le_iff₀ hc]
        linarith
      rw [min_eq_left h, max_eq_right hle, sub_self, sub_self, zero_div]
    · have hle : (s.first : ℚ) ≤ (e.max - a.max) / e.cell n := by
        rw [le_div_iff₀ hc]
        linarith
      rw [min_eq_right h, max_eq_left hle, hshift]
  · rcases le_total (e.max - s.stop * e.cell n) a.min with h | h
    · have hle : (e.max - a.min) / e.cell n ≤ s.stop := by
        rw [div_le_iff₀ hc]
        linarith
      rw [max_eq_right h, min_eq_left hle, hshift]
    · have hle : (s.stop : ℚ) ≤ (e.max - a.min) / e.cell n := by
        rw [le_div_iff₀ hc]
        linarith
      rw [max_eq_left h, min_eq_right hle, hshift, sub_sub_cancel, mul_div_cancel_right₀ _ hc.ne']

end Interval

namespace Raster

variable {σ : Type} {r : Raster Exact σ} {x y : Interval ℚ} {cols rows : CellSpan}

theorem eastingFirst_eq {c : Crs} (h : c.order = .eastingFirst) : c.eastingFirst = c := by
  obtain ⟨code, order⟩ := c
  subst h
  rfl

theorem WellFormed.make_eq {α : Type} {r : Raster α σ} (h : r.WellFormed)
    (hn : ∀ b ∈ r.bands, b.data.size < 2 ^ 64) :
    make r.width r.height r.bands r.envelope r.crs = .ok r := by
  have hw := h.width_pos.ne'
  have hh := h.height_pos.ne'
  have hf : r.bands.find? (fun b => b.data.size ≠ sampleCount r.width r.height) = none := by
    rw [List.find?_eq_none]
    intro b hb
    have := hn b hb
    simp only [h.size_eq b hb, sampleCount, ne_eq, decide_eq_true_eq, not_not] at this ⊢
    exact (Nat.mod_eq_of_lt this).symm
  obtain ⟨w, ht, bands, ⟨axes, crs⟩, c⟩ := r
  have hc : c.eastingFirst = c := eastingFirst_eq h.order_eq
  have he : crs = some c := h.crs_eq
  simp only [make, hw, hh, or_self, ↓reduceIte, hf, hc, he]

/-- The raster has cells over two intervals of positive length, easting first. -/
structure Spans (r : Raster Exact σ) (x y : Interval ℚ) : Prop where
  width_pos : 0 < r.width
  height_pos : 0 < r.height
  width_lt : r.width < 2 ^ 64
  height_lt : r.height < 2 ^ 64
  envelope_eq : r.envelope = .plane x y (some r.crs)
  order_eq : r.crs.order = .eastingFirst
  x_lt : x.min < x.max
  y_lt : y.min < y.max

/-- The raster lies over two intervals of positive length, easting first, with a sample for every
cell. -/
structure LiesOver (r : Raster Exact σ) (x y : Interval ℚ) : Prop where
  width_pos : 0 < r.width
  height_pos : 0 < r.height
  width_lt : r.width < 2 ^ 63
  height_lt : r.height < 2 ^ 63
  size_eq : ∀ b ∈ r.bands, b.data.size = r.width * r.height
  count_lt : ∀ b ∈ r.bands, b.data.size < 2 ^ 64
  envelope_eq : r.envelope = .plane x y (some r.crs)
  order_eq : r.crs.order = .eastingFirst
  x_lt : x.min < x.max
  y_lt : y.min < y.max

theorem LiesOver.spans (h : r.LiesOver x y) : r.Spans x y where
  width_pos := h.width_pos
  height_pos := h.height_pos
  width_lt := h.width_lt.trans (by decide)
  height_lt := h.height_lt.trans (by decide)
  envelope_eq := h.envelope_eq
  order_eq := h.order_eq
  x_lt := h.x_lt
  y_lt := h.y_lt

theorem WellFormed.envelope_eq (h : r.WellFormed)
    (haxes : r.envelope.axes = [x.exact, y.exact]) : r.envelope = .plane x y (some r.crs) := by
  rw [Envelope.plane, ← haxes, ← h.crs_eq]

theorem WellFormed.spans (h : r.WellFormed) (hw : r.width < 2 ^ 64) (hh : r.height < 2 ^ 64)
    (haxes : r.envelope.axes = [x.exact, y.exact]) (hx : x.min < x.max) (hy : y.min < y.max) :
    r.Spans x y where
  width_pos := h.width_pos
  height_pos := h.height_pos
  width_lt := hw
  height_lt := hh
  envelope_eq := h.envelope_eq haxes
  order_eq := h.order_eq
  x_lt := hx
  y_lt := hy

/-- The block of some cells as a raster of its own. -/
def part (r : Raster Exact σ) (cols rows : CellSpan) : Raster Exact σ where
  width := cols.length
  height := rows.length
  bands := r.bands.map (·.block r.width cols rows)
  envelope := r.blockEnvelope cols rows
  crs := r.crs

theorem crop_disjoint {box : Envelope Exact} (hb : r.envelope.meet? box = none) :
    r.crop box = .error .emptyIntersection := by
  rw [crop, hb]

namespace Spans

variable (h : r.Spans x y)
include h

theorem crs_map : (some r.crs).map Crs.eastingIndex = some 0 := by
  simp [Crs.eastingIndex, h.order_eq]

theorem bounds_eq : r.envelope.bounds = Envelope.planeBounds x y := by
  rw [h.envelope_eq]
  exact Envelope.bounds_plane (.inl h.crs_map)

theorem resolutionX_eq : r.resolutionX = .finite (x.cell r.width) := by
  have hw : (r.width : ℚ) ≠ 0 := Nat.cast_ne_zero.mpr h.width_pos.ne'
  rw [resolutionX, h.bounds_eq]
  simp only [Envelope.planeBounds, Bounds.width, Exact.finite_sub, Exact.ofNat_eq]
  exact Exact.finite_div _ hw

theorem resolutionY_eq : r.resolutionY = .finite (y.cell r.height) := by
  have hh : (r.height : ℚ) ≠ 0 := Nat.cast_ne_zero.mpr h.height_pos.ne'
  rw [resolutionY, h.bounds_eq]
  simp only [Envelope.planeBounds, Bounds.height, Exact.finite_sub, Exact.ofNat_eq]
  exact Exact.finite_div _ hh

theorem columnsOf_eq (cx cy : Interval ℚ) :
    r.columnsOf (Envelope.planeBounds cx cy) =
      CellSpan.reached r.width (x.fromMin r.width cx) := by
  have hc : x.cell r.width ≠ 0 := (Interval.cell_pos h.x_lt h.width_pos).ne'
  rw [columnsOf, h.bounds_eq, h.resolutionX_eq]
  simp only [Envelope.planeBounds, Exact.finite_sub, Exact.finite_div _ hc]
  exact CellSpan.between_finite h.width_lt _ _

theorem rowsOf_eq (cx cy : Interval ℚ) :
    r.rowsOf (Envelope.planeBounds cx cy) =
      CellSpan.reached r.height (y.fromMax r.height cy) := by
  have hc : y.cell r.height ≠ 0 := (Interval.cell_pos h.y_lt h.height_pos).ne'
  rw [rowsOf, h.bounds_eq, h.resolutionY_eq]
  simp only [Envelope.planeBounds, Exact.finite_sub, Exact.finite_div _ hc]
  exact CellSpan.between_finite h.height_lt _ _

theorem blockEnvelope_eq (cols rows : CellSpan) :
    r.blockEnvelope cols rows =
      .plane (x.groundUp r.width cols) (y.groundDown r.height rows) (some r.crs) := by
  rw [blockEnvelope, h.bounds_eq, h.resolutionX_eq, h.resolutionY_eq, h.envelope_eq]
  simp [Envelope.planeBounds, Envelope.ofCorners, Envelope.plane, Interval.exact,
    Interval.groundUp, Interval.groundDown]

variable (hs : ∀ b ∈ r.bands, b.data.size = r.width * r.height)
include hs

theorem part_wellFormed (hc : cols.Fits r.width) (hr : rows.Fits r.height) :
    (r.part cols rows).WellFormed where
  width_pos := hc.length_pos
  height_pos := hr.length_pos
  size_eq := by
    intro b hb
    obtain ⟨b, hm, rfl⟩ := List.mem_map.mp hb
    exact Band.size_block (hs b hm) hc.stop_le hr.stop_le
  crs_eq := congrArg Envelope.crs (h.blockEnvelope_eq cols rows)
  order_eq := h.order_eq

theorem part_all : r.part ⟨0, r.width⟩ ⟨0, r.height⟩ = r := by
  have he : r.blockEnvelope ⟨0, r.width⟩ ⟨0, r.height⟩ = r.envelope := by
    rw [h.blockEnvelope_eq, Interval.groundUp_all x h.width_pos,
      Interval.groundDown_all y h.height_pos, h.envelope_eq]
  have hb : r.bands.map (·.block r.width ⟨0, r.width⟩ ⟨0, r.height⟩) = r.bands := by
    conv_rhs => rw [← List.map_id r.bands]
    apply List.map_congr_left
    intro b hm
    exact Band.block_all (hs b hm)
  obtain ⟨w, ht, bands, e, c⟩ := r
  simp only [part] at he hb ⊢
  simp [he, hb, CellSpan.length]

variable (hn : ∀ b ∈ r.bands, b.data.size < 2 ^ 64)
include hn

omit h in
theorem count_part_lt (hc : cols.Fits r.width) (hr : rows.Fits r.height) :
    ∀ b ∈ (r.part cols rows).bands, b.data.size < 2 ^ 64 := by
  intro b hb
  obtain ⟨b, hm, rfl⟩ := List.mem_map.mp hb
  rw [Band.size_block (hs b hm) hc.stop_le hr.stop_le]
  have := hn b hm
  rw [hs b hm] at this
  exact (Nat.mul_le_mul hc.length_le hr.length_le).trans_lt this

theorem block_eq (hc : cols.Fits r.width) (hr : rows.Fits r.height) :
    r.block cols rows = .ok (r.part cols rows) :=
  (h.part_wellFormed hs hc hr).make_eq (count_part_lt hs hn hc hr)

/-- The cells that a box reaches, or the whole raster for a box around it. -/
theorem crop_eq {cx cy : Interval ℚ} {box : Envelope Exact} (hb : box.Shows x y cx cy) :
    r.crop box = .ok (
      if cx.Near x ∧ cy.Near y then (r, r.envelope)
      else
        (r.part (.reached r.width (x.fromMin r.width cx))
            (.reached r.height (y.fromMax r.height cy)),
          .plane cx cy (some r.crs))) := by
  have hm : r.envelope.meet? box = some (.plane cx cy (some r.crs)) := by
    rw [h.envelope_eq]
    exact hb.meet?_plane h.x_lt h.y_lt _
  have hnear : (Envelope.plane cx cy (some r.crs)).isNear sameBox r.envelope = true ↔
      cx.Near x ∧ cy.Near y := by
    rw [h.envelope_eq]
    exact Envelope.isNear_plane
  have hp : (Envelope.plane cx cy (some r.crs)).bounds = Envelope.planeBounds cx cy :=
    Envelope.bounds_plane (.inl h.crs_map)
  simp only [crop, hm, hnear, hp, h.columnsOf_eq, h.rowsOf_eq]
  split
  · rfl
  · rw [h.block_eq hs hn (CellSpan.fits_reached h.width_pos _)
      (CellSpan.fits_reached h.height_pos _)]

end Spans

namespace LiesOver

variable (h : r.LiesOver x y)
include h

theorem part_liesOver (hc : cols.Fits r.width) (hr : rows.Fits r.height) :
    (r.part cols rows).LiesOver (x.groundUp r.width cols) (y.groundDown r.height rows) where
  width_pos := hc.length_pos
  height_pos := hr.length_pos
  width_lt := hc.length_le.trans_lt h.width_lt
  height_lt := hr.length_le.trans_lt h.height_lt
  size_eq := (h.spans.part_wellFormed h.size_eq hc hr).size_eq
  count_lt := Spans.count_part_lt h.size_eq h.count_lt hc hr
  envelope_eq := h.spans.blockEnvelope_eq cols rows
  order_eq := h.order_eq
  x_lt := Interval.groundUp_lt h.x_lt h.width_pos hc.first_lt
  y_lt := Interval.groundDown_lt h.y_lt h.height_pos hr.first_lt

theorem wellFormed : r.WellFormed where
  width_pos := h.width_pos
  height_pos := h.height_pos
  size_eq := h.size_eq
  crs_eq := by
    rw [h.envelope_eq]
    rfl
  order_eq := h.order_eq

theorem part_part (hc : cols.Fits r.width) (hr : rows.Fits r.height) :
    (r.part ⟨0, r.width⟩ rows).part cols ⟨0, rows.length⟩ = r.part cols rows := by
  have hw : (⟨0, r.width⟩ : CellSpan).Fits r.width := CellSpan.fits_all h.width_pos
  have hp := h.part_liesOver hw hr
  have he : (r.part ⟨0, r.width⟩ rows).blockEnvelope cols ⟨0, rows.length⟩ =
      r.blockEnvelope cols rows := by
    rw [hp.spans.blockEnvelope_eq, h.spans.blockEnvelope_eq, Interval.groundUp_all x h.width_pos]
    exact congrArg (Envelope.plane _ · _) (Interval.groundDown_all _ hr.length_pos)
  have hb : (r.bands.map (·.block r.width ⟨0, r.width⟩ rows)).map
      (·.block r.width cols ⟨0, rows.length⟩) = r.bands.map (·.block r.width cols rows) := by
    rw [List.map_map]
    apply List.map_congr_left
    intro b hm
    exact Band.block_block (h.size_eq b hm) hc.stop_le hr.stop_le
  exact mk.injEq .. ▸ ⟨rfl, rfl, hb, he, rfl⟩

section Crop

variable {cx cy : Interval ℚ} {box : Envelope Exact}

theorem exists_shows {common : Envelope Exact} (hm : r.envelope.meet? box = some common) :
    ∃ cx cy, box.Shows x y cx cy := by
  obtain ⟨cx, cy, hb, -⟩ := Envelope.exists_shows (some r.crs) h.x_lt h.y_lt (by
    rw [← h.envelope_eq, hm]
    simp)
  exact ⟨cx, cy, hb⟩

/-- Where cells are long enough, the box around the raster needs no case of its own: it reaches all
cells. -/
theorem crop_resolved (hx : x.Resolves r.width) (hy : y.Resolves r.height)
    (hb : box.Shows x y cx cy) :
    r.crop box = .ok
      (r.part (.reached r.width (x.fromMin r.width cx))
          (.reached r.height (y.fromMax r.height cy)),
        if cx.Near x ∧ cy.Near y then r.envelope else .plane cx cy (some r.crs)) := by
  rw [h.spans.crop_eq h.size_eq h.count_lt hb]
  split
  · rename_i hn
    obtain ⟨hl, hu⟩ := Interval.near_fromMin h.width_pos hb.x_within hb.x_meets hn.1 hx
    obtain ⟨hl', hu'⟩ := Interval.near_fromMax h.height_pos hb.y_within hb.y_meets hn.2 hy
    rw [CellSpan.reached_eq_all h.width_pos hl hu, CellSpan.reached_eq_all h.height_pos hl' hu',
      h.spans.part_all h.size_eq]
  · rfl

/-- Where the rows that a box reaches share ground with it, they can be cut out first. -/
theorem crop_rows (hx : x.Resolves r.width) (hy : y.Resolves r.height) (hb : box.Shows x y cx cy)
    (hrows : rows = .reached r.height (y.fromMax r.height cy))
    (hm : (y.groundDown r.height rows).Meets cy) :
    ∃ extent, (r.part ⟨0, r.width⟩ rows).crop box =
      .ok (r.part (.reached r.width (x.fromMin r.width cx)) rows, extent) := by
  have hf : rows.Fits r.height := by
    rw [hrows]
    exact CellSpan.fits_reached h.height_pos _
  have hp := h.part_liesOver (CellSpan.fits_all h.width_pos) hf
  rw [Interval.groundUp_all x h.width_pos] at hp
  have hs := hb.restrict ⟨le_rfl, le_rfl⟩ (Interval.groundDown_within h.y_lt hf) h.x_lt hp.y_lt
    hb.x_meets hm
  rw [Interval.common_of_within hb.x_within] at hs
  have hr : ∃ extent, (r.part ⟨0, r.width⟩ rows).crop box =
      .ok ((r.part ⟨0, r.width⟩ rows).part (.reached r.width (x.fromMin r.width cx))
        (.reached rows.length ((y.groundDown r.height rows).fromMax rows.length
          ((y.groundDown r.height rows).common cy))), extent) :=
    ⟨_, hp.crop_resolved hx (Interval.resolves_groundDown h.y_lt hf hy) hs⟩
  have hall : CellSpan.reached rows.length ((y.groundDown r.height rows).fromMax rows.length
      ((y.groundDown r.height rows).common cy)) = ⟨0, rows.length⟩ := by
    rw [Interval.fromMax_groundDown h.y_lt hf, hrows]
    exact CellSpan.reached_inner h.height_pos
  rwa [hall, h.part_part (CellSpan.fits_reached h.width_pos _) hf] at hr

end Crop

end LiesOver

end Raster

end GeoRaster
