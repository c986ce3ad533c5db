import GeoRaster.Proofs.Bandwise
import GeoRaster.Proofs.CellLookup
import GeoRaster.Proofs.ShownLatitudes

namespace GeoRaster

def Point.turned (p : Point Exact) (degrees : ℚ) : Point Exact :=
  ⟨p.x + .finite degrees, p.y⟩

/-- The place as it stands or, if that is not in the box, moved by one turn into it. -/
def Bounds.turnedInto? (b : Bounds Exact) (p : Point Exact) : Option (Point Exact) :=
  ([0, 360, -360].map p.turned).find? b.holds

section Turns

variable {x y : Interval ℚ} {p : Point Exact}

theorem Envelope.holds_planeBounds (t : ℚ) (v : Exact) :
    (planeBounds x y).holds ⟨.finite t, v⟩ =
      (decide (x.Has t) && (decide (.finite y.min ≤ v) && decide (v ≤ .finite y.max))) := by
  rw [Bool.eq_iff_iff]
  simp only [Bounds.holds, Bool.and_eq_true, decide_eq_true_eq]
  simp only [planeBounds, Exact.finite_le, Interval.Has, and_assoc]

theorem Envelope.holds_planeBounds_of_not_finite (h : ∀ t, p.x ≠ .finite t) :
    (planeBounds x y).holds p = false := by
  rw [Bool.eq_false_iff]
  intro hp
  simp only [Bounds.holds, Bool.and_eq_true, decide_eq_true_eq] at hp
  obtain ⟨⟨⟨hwest, heast⟩, -⟩, -⟩ := hp
  obtain ⟨t, ht, -⟩ := Interval.exists_of_exact_le (e := x) hwest heast
  exact h t ht

theorem Exact.add_of_not_finite {a : Exact} (h : ∀ t, a ≠ .finite t) (q : ℚ) :
    a + .finite q = a := by
  cases a with
  | finite t => exact absurd rfl (h t)
  | nan | negInfinity | infinity => rfl

theorem Raster.wrapTowards_finite (t : ℚ) :
    wrapTowards (.finite x.min) (.finite x.max) (.finite t) =
      Exact.finite (if t < x.min then t + 360 else if x.max < t then t - 360 else t) := by
  simp only [wrapTowards, Exact.turn_eq, Exact.finite_lt, Exact.finite_add, Exact.finite_sub]
  split
  · rfl
  · split <;> rfl

theorem Raster.wrapTowards_of_not_finite {a : Exact} (h : ∀ t, a ≠ .finite t)
    (least greatest : Exact) : wrapTowards least greatest a = a := by
  have hback : a - 360.0 = a := by
    rw [Exact.turn_eq]
    exact Exact.add_of_not_finite h (-360)
  rw [wrapTowards, hback, Exact.turn_eq, Exact.add_of_not_finite h, ite_self, ite_self]

theorem Bounds.turnedInto?_planeBounds :
    (Envelope.planeBounds x y).turnedInto? p =
      let q : Point Exact := ⟨Raster.wrapTowards (.finite x.min) (.finite x.max) p.x, p.y⟩
      if (Envelope.planeBounds x y).holds q then some q else none := by
  obtain ⟨u, v⟩ := p
  by_cases hu : ∀ t, u ≠ .finite t
  · have hturned : ∀ degrees, (⟨u, v⟩ : Point Exact).turned degrees = ⟨u, v⟩ := fun degrees =>
      congrArg (Point.mk · v) (Exact.add_of_not_finite hu degrees)
    have hmissed : (Envelope.planeBounds x y).holds ⟨u, v⟩ = false :=
      Envelope.holds_planeBounds_of_not_finite hu
    simp [turnedInto?, hturned, hmissed, Raster.wrapTowards_of_not_finite hu]
  · obtain ⟨t, rfl⟩ : ∃ t, u = .finite t := by
      simpa using hu
    simp only [turnedInto?, Point.turned, List.map_cons, List.map_nil, List.find?_cons,
      List.find?_nil, Exact.finite_add, Raster.wrapTowards_finite, Envelope.holds_planeBounds]
    generalize (decide (.finite y.min ≤ v) && decide (v ≤ .finite y.max)) = shown
    cases shown with
    | false => simp
    | true =>
      simp only [Bool.and_true, add_zero, ← sub_eq_add_neg]
      -- a longitude west of the box can only be moved east into it, and the other way round
      rcases lt_or_ge t x.min with hwest | hwest
      · have hstay : ¬ x.Has t := fun h => absurd h.1 (not_le.mpr hwest)
        have hback : ¬ x.Has (t - 360) := fun h => absurd h.1 (by linarith)
        by_cases hforth : x.Has (t + 360) <;> simp [hwest, hstay, hback, hforth]
      · rcases lt_or_ge x.max t with heast | heast
        · have hstay : ¬ x.Has t := fun h => absurd h.2 (not_le.mpr heast)
          have hforth : ¬ x.Has (t + 360) := fun h => absurd h.2 (by linarith)
          by_cases hback : x.Has (t - 360) <;>
            simp [not_lt.mpr hwest, heast, hstay, hforth, hback]
        · have hstay : x.Has t := ⟨hwest, heast⟩
          simp [not_lt.mpr hwest, not_lt.mpr heast, hstay]

theorem Raster.sourcePlace?_eq (back : Transformation Exact) :
    sourcePlace? back true (Envelope.planeBounds x y) p =
      back.image? p >>= (Envelope.planeBounds x y).turnedInto? := by
  rw [sourcePlace?]
  cases back.image? p with
  | none => rfl
  | some q => exact Bounds.turnedInto?_planeBounds.symm

end Turns

theorem Transformation.isIdentity_reverse (t : Transformation Exact) :
    t.reverse.isIdentity = t.isIdentity := by
  simp only [isIdentity, reverse, eq_comm, Bool.and_comm]

section Back

variable [Elementary Exact] {source target : Crs.Code}

/-- The place on earth that a place of a system shows. -/
def Crs.Code.placeOnEarth? (target : Crs.Code) (p : Point Exact) : Option (Point Exact) :=
  (standardProjection target).inverse p >>= Geographic.place?

theorem Transformation.image?_reverse (hs : source.isGeographic = true)
    (ht : target.isGeographic = false) (p : Point Exact) :
    (between source target : Transformation Exact).reverse.image? p = target.placeOnEarth? p := by
  have hidentity : (between source target : Transformation Exact).reverse.isIdentity = false :=
    (isIdentity_reverse _).trans (not_isIdentity hs ht)
  have hinverse : (between source target : Transformation Exact).reverse.source.inverse p =
      (standardProjection target).inverse p := rfl
  have hforward : (between source target : Transformation Exact).reverse.target.forward =
      Geographic.place? := by
    simp only [reverse, between, Crs.Code.projection_of_isGeographic hs, Geographic.projection]
  rw [image?, apply, hidentity, if_neg Bool.false_ne_true, hinverse, hforward,
    Crs.Code.placeOnEarth?]
  cases (standardProjection target : Projection Exact).inverse p with
  | none => rfl
  | some g => cases hg : Geographic.place? g <;> simp [hg, Except.toOption]

end Back

namespace Raster

variable [Elementary Exact] {σ : Type} [Scalar σ] [Narrowing Exact σ]

/-- The place of the source that a cell shows, if the source holds it. -/
def shownAt? (r s : Raster Exact σ) (col row : ℕ) : Option (Point Exact) :=
  s.crs.code.placeOnEarth? (s.centreOf col row) >>= r.envelope.bounds.turnedInto?

/-- The new raster has the cells and bands of the old one. A cell that shows a place of the old
raster has the value that the kernel finds there, and all others are blank. -/
structure Redraws (r : Raster Exact σ) (target : Crs) (method : Interpolation)
    (s : Raster Exact σ) : Prop where
  width_eq : s.width = r.width
  height_eq : s.height = r.height
  crs_eq : s.crs = target.eastingFirst
  labels_eq : s.bands.map (fun b => (b.name, b.noData)) = r.bands.map fun b => (b.name, b.noData)
  cells : ∀ (k : ℕ) (b : Band σ), r.bands[k]? = some b → ∀ col < r.width, ∀ row < r.height,
    (∀ p, r.shownAt? s col row = some p → s.get? k col row =
      some (SampleGrid.cell ⟨b.masked, r.width, r.height⟩ method b.fill (some (r.position p)))) ∧
    (r.shownAt? s col row = none → s.get? k col row = some b.fill)

section Source

variable {r : Raster Exact σ} {x y : Interval ℚ} {target : Crs} {extent : Envelope Exact}
  {method : Interpolation}

def drawnOn (r : Raster Exact σ) (extent : Envelope Exact) (target : Crs)
    (method : Interpolation) : Raster Exact σ :=
  (blank r.width r.height extent target).withBands <| r.bands.map fun b =>
    b.resample r.width r.height r.width r.height method
      (r.placeOf (.reverse (.between r.crs.code target.code)) extent)

theorem resampleInto_eq (h : r.WellFormed) (hn : ∀ b ∈ r.bands, b.data.size < 2 ^ 64)
    (extent : Envelope Exact) (target : Crs) (method : Interpolation) :
    r.resampleInto (.reverse (.between r.crs.code target.code)) extent target method =
      .ok (r.drawnOn extent target method) := by
  refine make_eq_ok.mpr ⟨⟨h.width_pos, h.height_pos⟩, ?_, rfl⟩
  intro c hc
  obtain ⟨b, hb, rfl⟩ := List.mem_map.mp hc
  have hcount := hn b hb
  rw [h.size_eq b hb] at hcount
  rw [size_resample, sampleCount]
  exact (Nat.mod_eq_of_lt hcount).symm

theorem placeOf_eq (hr : r.crs.isGeographic = true) (ht : target.isGeographic = false)
    (hb : r.envelope.bounds = Envelope.planeBounds x y) (he : extent.crs = some target.eastingFirst)
    (col row : ℕ) :
    r.placeOf (.reverse (.between r.crs.code target.code)) extent col row =
      (r.shownAt? (r.drawnOn extent target method) col row).map r.position := by
  have hcentre : (r.drawnOn extent target method).centreOf col row =
      cellCentre extent.bounds (extent.bounds.width / Scalar.ofNat r.width)
        (extent.bounds.height / Scalar.ofNat r.height) col row := by
    obtain ⟨axes, crs⟩ := extent
    obtain rfl : crs = some target.eastingFirst := he
    rfl
  rw [placeOf, hr, hb, sourcePlace?_eq, Transformation.image?_reverse hr ht, shownAt?, hb, hcentre]
  unfold position
  rw [hb]
  rfl

theorem redraws_drawnOn (hr : r.crs.isGeographic = true) (ht : target.isGeographic = false)
    (hb : r.envelope.bounds = Envelope.planeBounds x y)
    (he : extent.crs = some target.eastingFirst) :
    r.Redraws target method (r.drawnOn extent target method) where
  width_eq := rfl
  height_eq := rfl
  crs_eq := rfl
  labels_eq := List.map_map
  cells k b hk col hcol row hrow := by
    have hget : (r.drawnOn extent target method).get? k col row =
        some (SampleGrid.cell ⟨b.masked, r.width, r.height⟩ method b.fill
          ((r.shownAt? (r.drawnOn extent target method) col row).map r.position)) := by
      rw [← placeOf_eq hr ht hb he, get?, if_neg (by simp [drawnOn, blank]; omega)]
      simp only [drawnOn, bands_withBands, width_withBands, List.getElem?_map, hk]
      exact b.getElem?_resample _ _ _ _ hcol hrow
    constructor
    · intro p hp
      rw [hget, hp, Option.map_some]
    · intro hp
      rw [hget, hp, Option.map_none]
      rfl

section Success

variable (h : r.WellFormed) (hr : r.crs.isGeographic = true) (ht : target.isGeographic = false)
  (haxes : r.envelope.axes = [x.exact, y.exact])
include h hr ht haxes

theorem reproject_of_shown (hn : ∀ b ∈ r.bands, b.data.size < 2 ^ 64) (method : Interpolation)
    (harea : (y.common target.code.latitudes).min < (y.common target.code.latitudes).max) :
    ∃ extent, extent.crs = some target.eastingFirst ∧
      r.reproject target method = .ok (r.drawnOn extent target method) := by
  have hshown := Envelope.shownIn?_plane x y hr h.order_eq target.code
  have hwithin : (y.common target.code.latitudes).Within target.eastingFirst.code.latitudes :=
    ⟨le_max_right _ _, min_le_right _ _⟩
  have hprojected : target.eastingFirst.isGeographic = false := ht
  obtain ⟨extent, hextent⟩ :=
    Envelope.exists_transform x hr h.order_eq hprojected hwithin harea.le
  refine ⟨extent, Envelope.transform_crs hextent, ?_⟩
  rw [if_pos harea] at hshown
  have hcode : target.eastingFirst.code = target.code := rfl
  have hdrawn := resampleInto_eq h hn extent target.eastingFirst method
  rw [reproject_of_not_identity rfl (Transformation.not_isIdentity hr ht), h.envelope_eq haxes,
    hcode, hshown]
  simp only [hextent]
  exact ofRasterFault_eq_ok.mpr hdrawn

theorem reproject_of_not_shown (method : Interpolation)
    (harea : ¬ (y.common target.code.latitudes).min < (y.common target.code.latitudes).max) :
    r.reproject target method = .error .emptyIntersection := by
  have hshown := Envelope.shownIn?_plane x y hr h.order_eq target.code
  rw [if_neg harea] at hshown
  have hcode : target.eastingFirst.code = target.code := rfl
  rw [reproject_of_not_identity rfl (Transformation.not_isIdentity hr ht), h.envelope_eq haxes,
    hcode, hshown]

end Success

/-- A geographic raster can be put into a projected system if the system shows an area of it, and
otherwise there is nothing of it to show; nothing else can go wrong. What comes of it shows the
raster, cell by cell. -/
theorem reproject_geographic (h : r.WellFormed) (hr : r.crs.isGeographic = true)
    (haxes : r.envelope.axes = [x.exact, y.exact]) (hn : ∀ b ∈ r.bands, b.data.size < 2 ^ 64)
    (ht : target.isGeographic = false) (method : Interpolation) :
    ((∃ s, r.reproject target method = .ok s) ↔
      (y.common target.code.latitudes).min < (y.common target.code.latitudes).max) ∧
    (∀ e, r.reproject target method = .error e → e = .emptyIntersection) ∧
    ∀ s, r.reproject target method = .ok s → r.Redraws target method s := by
  by_cases harea : (y.common target.code.latitudes).min < (y.common target.code.latitudes).max
  · obtain ⟨extent, hcrs, hok⟩ := reproject_of_shown h hr ht haxes hn method harea
    have hbounds : r.envelope.bounds = Envelope.planeBounds x y := by
      rw [h.envelope_eq haxes]
      exact Envelope.bounds_plane_of_order h.order_eq
    rw [hok]
    refine ⟨iff_of_true ⟨_, rfl⟩ harea, fun e he => absurd he (by simp), fun s hs => ?_⟩
    rw [← Except.ok.inj hs]
    exact redraws_drawnOn hr ht hbounds hcrs
  · have herror := reproject_of_not_shown h hr ht haxes method harea
    rw [herror]
    exact ⟨iff_of_false (by simp) harea, fun e he => (Except.error.inj he).symm,
      fun s hs => absurd hs (by simp)⟩

end Source

end Raster

namespace LongitudePlane

/-- Stand-ins for the elementary functions under which a polar system spreads longitudes evenly
along its first axis, at 60 degrees of latitude. -/
scoped instance elementary : Elementary Exact where
  pi := .finite 180
  sqrt _ := .finite 1
  exp a := a
  log a := a
  sin a := a
  cos a := a
  tan _ := .finite 1
  atan _ := .finite 15
  atan2 a _ := a / .finite 6378137
  pow _ _ := .finite 1
  hypot _ _ := .finite 1

def belt : Raster Exact Exact where
  width := 4
  height := 1
  bands := [⟨"a", Pattern.ramp 4 1, none⟩]
  envelope := .plane ⟨0, 360⟩ ⟨50, 70⟩ (some (.ofCode .wgs84))
  crs := .ofCode .wgs84

theorem belt_wellFormed : belt.WellFormed where
  width_pos := by decide
  height_pos := by decide
  size_eq := by decide
  crs_eq := rfl
  order_eq := rfl

end LongitudePlane

section Belt

open LongitudePlane

/-- The last column shows longitude -45, which the raster holds as 315. -/
theorem Raster.reproject_geographic_belt :
    belt.WellFormed ∧
      (∃ s, belt.reproject (.ofCode .arctic) .nearest = .ok s ∧
        belt.Redraws (.ofCode .arctic) .nearest s ∧ s.get? 0 3 0 = some (.finite 3)) ∧
      belt.reproject (.ofCode .antarctic) .nearest = .error .emptyIntersection := by
  have harctic : (Crs.ofCode .arctic).isGeographic = false := rfl
  obtain ⟨hok, -, hredraws⟩ :=
    reproject_geographic belt_wellFormed rfl rfl (by decide) harctic .nearest
  obtain ⟨s, hs⟩ := hok.mpr (by norm_num [Interval.common, Crs.ofCode, Crs.Code.latitudes])
  have hcell : (belt.reproject (.ofCode .arctic) .nearest).toOption >>= (·.get? 0 3 0) =
      some (.finite 3) := by
    decide +kernel
  rw [hs] at hcell
  refine ⟨belt_wellFormed, ⟨s, hs, hredraws s hs, hcell⟩, ?_⟩
  exact reproject_of_not_shown belt_wellFormed rfl rfl rfl .nearest
    (by norm_num [Interval.common, Crs.ofCode, Crs.Code.latitudes])

end Belt

end GeoRaster
