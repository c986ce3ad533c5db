import GeoRaster.Catalog.Document
import GeoRaster.Proofs.AxisOrder
import GeoRaster.Proofs.Planning

namespace GeoRaster

namespace DeclaredCoverage

/-- The description keeps what is declared, and its grid is laid over the declared bounds. -/
structure Describes {α : Type} [Scalar α] (c : DeclaredCoverage α) (d : CoverageDescriptor α) :
    Prop where
  width_pos : 0 < c.width
  height_pos : 0 < c.height
  bands_ne : c.bands ≠ []
  minX_lt : c.envelope.minX < c.envelope.maxX
  minY_lt : c.envelope.minY < c.envelope.maxY
  id_eq : d.id = c.id
  bands_eq : d.bands = c.bands
  range_eq : d.gridGeometry.range = .ofSize c.width c.height
  transform_eq : d.gridGeometry.transform = .ofBounds c.envelope c.width c.height
  envelope_eq : d.nativeEnvelope =
    { d.gridGeometry.envelope with crs := some d.nativeCrs.eastingFirst }

theorem complete_keeps {α : Type} (c : DeclaredCoverage α) (d : CoverageDescriptor α) :
    (c.complete d).id = d.id ∧ (c.complete d).bands = d.bands ∧
      (c.complete d).gridGeometry = d.gridGeometry ∧
      (c.complete d).nativeEnvelope = d.nativeEnvelope ∧
      (c.complete d).nativeCrs = d.nativeCrs := by
  simp only [complete]
  split <;> split <;> exact ⟨rfl, rfl, rfl, rfl, rfl⟩

section Describing

variable {α : Type} [Scalar α] {c : DeclaredCoverage α} {d : CoverageDescriptor α}

theorem describes_of_describe (h : c.describe = .ok d) : c.Describes d := by
  rw [describe] at h
  split at h
  · exact absurd h (by simp)
  rename_i crs hcrs
  split_ifs at h with hcells hbands hbounds
  split at h
  case h_2 => exact absurd h (by simp)
  rename_i grid hgrid
  obtain rfl := Except.ok.inj h
  obtain ⟨hid, hbandsEq, hgridEq, henvelope, hnative⟩ :=
    c.complete_keeps (.make c.id crs grid c.bands)
  obtain ⟨hrange, htransform, -⟩ := GridGeometry.ofRange_ok hgrid
  rw [not_or] at hcells
  simp only [Bool.not_eq_true', Bool.not_eq_false, Bool.and_eq_true, decide_eq_true_eq] at hbounds
  exact {
    width_pos := Nat.pos_of_ne_zero hcells.1
    height_pos := Nat.pos_of_ne_zero hcells.2
    bands_ne := fun he => hbands (List.isEmpty_iff.mpr he)
    minX_lt := hbounds.1
    minY_lt := hbounds.2
    id_eq := hid
    bands_eq := hbandsEq
    range_eq := by
      rw [hgridEq]
      exact hrange
    transform_eq := by
      rw [hgridEq]
      exact htransform.trans (by rw [Envelope.bounds_ofBounds])
    envelope_eq := by
      rw [henvelope, hgridEq, hnative]
      rfl }

theorem Describes.width_eq (h : c.Describes d) :
    d.gridGeometry.width = min c.width (2 ^ 63 - 1) := by
  rw [GridGeometry.width, h.range_eq, GridRange.width]
  simp [GridRange.span, GridRange.ofSize, GridRange.cellsBetween_lastIndex_min h.width_pos]

theorem Describes.height_eq (h : c.Describes d) :
    d.gridGeometry.height = min c.height (2 ^ 63 - 1) := by
  rw [GridGeometry.height, h.range_eq, GridRange.height]
  simp [GridRange.span, GridRange.ofSize, GridRange.cellsBetween_lastIndex_min h.height_pos]

end Describing

/-- The later stages are defined on the description, and it tells of the coverage what is
declared. -/
structure SoundlyDescribes (c : DeclaredCoverage Exact) (d : CoverageDescriptor Exact) : Prop where
  bands_ne : d.bands ≠ []
  width_eq : d.gridGeometry.width = c.width
  height_eq : d.gridGeometry.height = c.height
  envelope_eq : ∃ x y : Interval ℚ, c.envelope = Envelope.planeBounds x y ∧ x.min < x.max ∧
    y.min < y.max ∧ d.nativeEnvelope = .plane x y (some d.nativeCrs.eastingFirst)
  northUp : ∃ t : Affine ℚ, d.gridGeometry.transform = t.exact ∧ 0 < t.scaleX ∧ t.scaleY < 0 ∧
    t.shearX = 0 ∧ t.shearY = 0
  invertible : d.gridGeometry.transform.inverse?.isSome = true

def IsBounded (c : DeclaredCoverage Exact) : Prop :=
  ∃ x y : Interval ℚ, c.envelope = Envelope.planeBounds x y

def place (x y : Interval ℚ) {width height : ℕ} (hx : x.min < x.max) (hy : y.min < y.max)
    (hw : 0 < width) (hh : 0 < height) : NorthUp where
  west := x.min
  north := y.max
  cellWidth := x.cell width
  cellHeight := y.cell height
  cellWidth_pos := Interval.cell_pos hx hw
  cellHeight_pos := Interval.cell_pos hy hh

section Bounded

variable {c : DeclaredCoverage Exact} {d : CoverageDescriptor Exact} {x y : Interval ℚ}

theorem Describes.bounds_lt (h : c.Describes d) (hb : c.envelope = Envelope.planeBounds x y) :
    x.min < x.max ∧ y.min < y.max := by
  have hx := h.minX_lt
  have hy := h.minY_lt
  rw [hb] at hx hy
  exact ⟨Exact.finite_lt.mp hx, Exact.finite_lt.mp hy⟩

theorem Describes.liesOn (h : c.Describes d) (hb : c.envelope = Envelope.planeBounds x y)
    (hx : x.min < x.max) (hy : y.min < y.max) :
    d.LiesOn (place x y hx hy h.width_pos h.height_pos) where
  transform_eq := by
    rw [h.transform_eq, hb, Affine.ofBounds_exact x y h.width_pos h.height_pos]
    rfl
  envelope_eq := h.envelope_eq

theorem Describes.nativeEnvelope_eq (h : c.Describes d)
    (hb : c.envelope = Envelope.planeBounds x y) :
    d.nativeEnvelope = .plane (x.groundUp c.width ⟨0, min c.width (2 ^ 63 - 1)⟩)
      (y.groundDown c.height ⟨0, min c.height (2 ^ 63 - 1)⟩)
      (some d.nativeCrs.eastingFirst) := by
  obtain ⟨hx, hy⟩ := h.bounds_lt hb
  have heasting : (place x y hx hy h.width_pos h.height_pos).easting d.gridGeometry =
      x.groundUp c.width ⟨0, min c.width (2 ^ 63 - 1)⟩ := by
    simp only [NorthUp.easting, GridGeometry.low, GridGeometry.high, h.range_eq, GridRange.ofSize,
      List.getD_cons_zero, Int64.toInt_zero, GridRange.toInt_lastIndex_add_one]
    simp only [NorthUp.columns, place, Interval.groundUp, Interval.mk.injEq]
    constructor <;> push_cast <;> ring
  have hnorthing : (place x y hx hy h.width_pos h.height_pos).northing d.gridGeometry =
      y.groundDown c.height ⟨0, min c.height (2 ^ 63 - 1)⟩ := by
    simp only [NorthUp.northing, GridGeometry.low, GridGeometry.high, h.range_eq, GridRange.ofSize,
      List.getD_cons_succ, List.getD_cons_zero, Int64.toInt_zero, GridRange.toInt_lastIndex_add_one]
    simp only [NorthUp.rows, place, Interval.groundDown, Interval.mk.injEq]
    constructor <;> push_cast <;> ring
  rw [(h.liesOn hb hx hy).nativeEnvelope_eq, heasting, hnorthing]

theorem Describes.soundly_iff (h : c.Describes d) :
    c.SoundlyDescribes d ↔ c.IsBounded ∧ c.width < 2 ^ 63 ∧ c.height < 2 ^ 63 := by
  constructor
  · intro hs
    obtain ⟨x, y, hb, -⟩ := hs.envelope_eq
    have hw := h.width_eq.symm.trans hs.width_eq
    have hh := h.height_eq.symm.trans hs.height_eq
    exact ⟨⟨x, y, hb⟩, by omega, by omega⟩
  · rintro ⟨⟨x, y, hb⟩, hw, hh⟩
    obtain ⟨hx, hy⟩ := h.bounds_lt hb
    have hl := h.liesOn hb hx hy
    have hwidth : min c.width (2 ^ 63 - 1) = c.width := by omega
    have hheight : min c.height (2 ^ 63 - 1) = c.height := by omega
    exact {
      bands_ne := h.bands_eq ▸ h.bands_ne
      width_eq := h.width_eq.trans hwidth
      height_eq := h.height_eq.trans hheight
      envelope_eq := by
        refine ⟨x, y, hb, hx, hy, ?_⟩
        rw [h.nativeEnvelope_eq hb, hwidth, hheight, Interval.groundUp_all x h.width_pos,
          Interval.groundDown_all y h.height_pos]
      northUp := ⟨_, hl.transform_eq, Interval.cell_pos hx h.width_pos,
        neg_neg_of_pos (Interval.cell_pos hy h.height_pos), rfl, rfl⟩
      invertible := by rw [hl.transform_eq, NorthUp.inverse?_affine]; rfl }

end Bounded

end DeclaredCoverage

namespace Catalog

section Entries

variable {α : Type} {c c' : Catalog α}

theorem insertEntry_ok {e : CatalogEntry α} (h : c.insertEntry e = .ok c') :
    c'.entries = c.entries ++ [e] := by
  rw [insertEntry] at h
  split at h
  · exact absurd h (by simp)
  · obtain rfl := Except.ok.inj h
    rfl

variable [Scalar α] {directory : Option String}

theorem declare_ok {declared : DeclaredCoverage α} (h : declare directory c declared = .ok c') :
    ∃ e, declared.describe = .ok e.descriptor ∧
      e.dataPath = declared.dataPath.map (resolvePath directory) ∧
      c'.entries = c.entries ++ [e] := by
  rw [declare] at h
  split at h
  · rename_i d hd
    exact ⟨_, hd, rfl, insertEntry_ok h⟩
  · exact absurd h (by simp)

/-- A catalog grows by one entry for every coverage that is declared, in their order. -/
theorem foldlM_declare_ok {cs : List (DeclaredCoverage α)}
    (h : cs.foldlM (declare directory) c = .ok c') :
    ∃ es, c'.entries = c.entries ++ es ∧
      List.Forall₂ (fun declared e => declared.describe = .ok e.descriptor ∧
        e.dataPath = declared.dataPath.map (resolvePath directory)) cs es := by
  induction cs generalizing c with
  | nil => exact ⟨[], by rw [List.append_nil, Except.ok.inj h], .nil⟩
  | cons declared cs ih =>
    rw [List.foldlM_cons, bind_eq_ok] at h
    obtain ⟨c₁, hdeclare, h⟩ := h
    obtain ⟨e, hd, hpath, he⟩ := declare_ok hdeclare
    obtain ⟨es, hes, hall⟩ := ih h
    refine ⟨e :: es, ?_, .cons ⟨hd, hpath⟩ hall⟩
    rw [hes, he, List.append_assoc]
    rfl

end Entries

/-- Of a file that is accepted, every coverage is listed in the catalog, in the order of the file.
Its grid has the declared cells as far as indices can number them, laid north up over the declared
bounds where these are numbers. The checks let bounds without end and greater sizes through, and
they are what keeps a description from being sound. -/
theorem ofText_loads {directory : Option String} {text : String} {c : Catalog Exact}
    (h : ofText directory text = .ok c) :
    ∃ cs, declaredOfText? text = some cs ∧ List.Forall₂ (fun declared e =>
      e.id = declared.id ∧ e.descriptor.bands = declared.bands ∧ declared.bands ≠ [] ∧
      e.descriptor.gridGeometry.width = min declared.width (2 ^ 63 - 1) ∧
      e.descriptor.gridGeometry.height = min declared.height (2 ^ 63 - 1) ∧
      (∀ x y : Interval ℚ, declared.envelope = Envelope.planeBounds x y →
        x.min < x.max ∧ y.min < y.max ∧
        e.descriptor.gridGeometry.transform =
          Affine.exact ⟨x.cell declared.width, 0, x.min, 0, -y.cell declared.height, y.max⟩ ∧
        e.descriptor.nativeEnvelope =
          .plane (x.groundUp declared.width ⟨0, min declared.width (2 ^ 63 - 1)⟩)
            (y.groundDown declared.height ⟨0, min declared.height (2 ^ 63 - 1)⟩)
            (some e.descriptor.nativeCrs.eastingFirst)) ∧
      (declared.SoundlyDescribes e.descriptor ↔
        declared.IsBounded ∧ declared.width < 2 ^ 63 ∧ declared.height < 2 ^ 63)) cs c.entries := by
  rw [ofText] at h
  split at h
  · exact absurd h (by simp)
  rename_i cs hcs
  obtain ⟨es, hes, hall⟩ := foldlM_declare_ok h
  refine ⟨cs, hcs, ?_⟩
  rw [hes]
  refine List.Forall₂.imp (fun declared e he => ?_) hall
  have hd := DeclaredCoverage.describes_of_describe he.1
  refine ⟨hd.id_eq, hd.bands_eq, hd.bands_ne, hd.width_eq, hd.height_eq, fun x y hb => ?_,
    hd.soundly_iff⟩
  obtain ⟨hx, hy⟩ := hd.bounds_lt hb
  exact ⟨hx, hy, (hd.liesOn hb hx hy).transform_eq, hd.nativeEnvelope_eq hb⟩

def smallText : String :=
  "coverages: [\x7bid: c, crs: CRS:84, envelope: [0, 0, 4, 4], " ++
    "width: 4, height: 4, bands: [\x7bname: b\x7d]\x7d]"

theorem ofText_loads_small : ∃ (c : Catalog Exact) (d : DeclaredCoverage Exact)
    (e : CatalogEntry Exact), ofText none smallText = .ok c ∧
      declaredOfText? smallText = some [d] ∧ c.entries = [e] ∧
      d.SoundlyDescribes e.descriptor := by
  have hdeclared : (declaredOfText? (α := Exact) smallText).map
      (List.map fun d => (d.envelope, d.width, d.height)) =
      some [(⟨.finite 0, .finite 0, .finite 4, .finite 4⟩, 4, 4)] := by decide +kernel
  have hok : (ofText (α := Exact) none smallText).toOption.isSome = true := by decide +kernel
  obtain ⟨c, hc⟩ : ∃ c : Catalog Exact, ofText none smallText = .ok c := by
    cases hc : ofText (α := Exact) none smallText with
    | error f => simp [hc, Except.toOption] at hok
    | ok c => exact ⟨c, rfl⟩
  obtain ⟨cs, hcs, hall⟩ := ofText_loads hc
  rw [hcs, Option.map_some, Option.some_inj] at hdeclared
  obtain ⟨d, rfl, hd⟩ := List.map_eq_singleton_iff.mp hdeclared
  obtain ⟨hbounds, hw, hh⟩ : _ ∧ d.width = 4 ∧ d.height = 4 := by
    simpa only [Prod.mk.injEq] using hd
  obtain ⟨e, es, he, hnil, hentries⟩ := List.forall₂_cons_left_iff.mp hall
  obtain rfl := List.forall₂_nil_left_iff.mp hnil
  have hbounded : d.IsBounded := ⟨⟨0, 4⟩, ⟨0, 4⟩, hbounds⟩
  obtain ⟨-, -, -, -, -, -, hsound⟩ := he
  exact ⟨c, d, e, hc, hcs, hentries, hsound.mpr ⟨hbounded, by omega, by omega⟩⟩

end Catalog

end GeoRaster
