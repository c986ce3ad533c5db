import GeoRaster.Projection.Geographic
import GeoRaster.Proofs.Planning

namespace GeoRaster

def Point.IsRational (p : Point Exact) : Prop :=
  ∃ x y : ℚ, p = ⟨.finite x, .finite y⟩

def Bounds.IsRational (b : Bounds Exact) : Prop :=
  ∃ x y : Interval ℚ, b = Envelope.planeBounds x y

/-- The box has two axes, and all its bounds are rational. -/
def Envelope.IsRational (e : Envelope Exact) : Prop :=
  ∃ x y : Interval ℚ, e.axes = [x.exact, y.exact]

structure Projection.IsRational (p : Projection Exact) : Prop where
  forward : ∀ {a b : Point Exact}, a.IsRational → p.forward a = some b → b.IsRational
  inverse : ∀ {a b : Point Exact}, a.IsRational → p.inverse a = some b → b.IsRational
  south : ∃ q : ℚ, p.south = .finite q
  north : ∃ q : ℚ, p.north = .finite q
  pole : ∀ o, p.pole = some o → ∃ q : ℚ, o.latitude = .finite q

def Atlas.IsRational [Atlas Exact] : Prop :=
  ∀ c, (Atlas.projection c : Projection Exact).IsRational

theorem Geographic.isRational_place? {a b : Point Exact} (ha : a.IsRational)
    (h : place? a = some b) : b.IsRational := by
  rw [place?] at h
  split at h
  · obtain rfl := Option.some.inj h
    exact ha
  · exact absurd h (by simp)

theorem Geographic.projection_isRational : (projection : Projection Exact).IsRational where
  forward := isRational_place?
  inverse := isRational_place?
  south := ⟨_, rfl⟩
  north := ⟨_, rfl⟩
  pole o h := absurd h (by simp [projection])

namespace Bounds

theorem isRational_mk (a b c d : ℚ) :
    (⟨.finite a, .finite b, .finite c, .finite d⟩ : Bounds Exact).IsRational :=
  ⟨⟨a, c⟩, ⟨b, d⟩, rfl⟩

theorem IsRational.insert {b : Bounds Exact} {p : Point Exact} (hb : b.IsRational)
    (hp : p.IsRational) : (b.insert p).IsRational := by
  obtain ⟨x, y, rfl⟩ := hb
  obtain ⟨u, v, rfl⟩ := hp
  simp only [Bounds.insert, Envelope.planeBounds, Exact.min_finite, Exact.max_finite]
  exact isRational_mk ..

theorem isRational_foldl {b : Bounds Exact} (hb : b.IsRational) {ps : List (Point Exact)}
    (h : ∀ p ∈ ps, p.IsRational) : (ps.foldl Bounds.insert b).IsRational := by
  induction ps generalizing b with
  | nil => exact hb
  | cons p ps ih =>
    exact ih (hb.insert (h p (List.mem_cons_self ..))) fun q hq => h q (List.mem_cons_of_mem _ hq)

theorem isRational_hull {ps : List (Point Exact)} (hne : ps ≠ []) (h : ∀ p ∈ ps, p.IsRational) :
    (hull ps).IsRational := by
  cases ps with
  | nil => exact absurd rfl hne
  | cons p ps =>
    obtain ⟨u, v, rfl⟩ := h p (List.mem_cons_self ..)
    exact isRational_foldl (isRational_mk u v u v) fun q hq => h q (List.mem_cons_of_mem _ hq)

theorem isRational_border {b : Bounds Exact} (hb : b.IsRational) (samples : ℕ) :
    ∀ p ∈ b.border samples, p.IsRational := by
  obtain ⟨x, y, rfl⟩ := hb
  intro p hp
  obtain ⟨i, -, hp⟩ := List.mem_flatMap.mp hp
  have hcount : ((max samples 2 - 1 : ℕ) : ℚ) ≠ 0 := Nat.cast_ne_zero.mpr (by omega)
  simp only [borderPoints, Envelope.planeBounds, Exact.ofNat_eq, Exact.finite_div _ hcount,
    Exact.finite_sub, Exact.finite_mul, Exact.finite_add, List.mem_cons, List.not_mem_nil,
    or_false] at hp
  obtain rfl | rfl | rfl | rfl := hp <;> exact ⟨_, _, rfl⟩

theorem border_ne_nil (b : Bounds Exact) (samples : ℕ) : b.border samples ≠ [] := by
  have hpos : 0 ∈ List.range (max samples 2) := List.mem_range.mpr (by omega)
  intro h
  have hnil := List.flatMap_eq_nil_iff.mp h 0 hpos
  exact absurd hnil (by simp [borderPoints])

end Bounds

namespace Envelope

variable {e e' box : Envelope Exact} {target : Crs}

theorem isRational_ofBounds {b : Bounds Exact} (hb : b.IsRational) (crs : Option Crs) :
    (ofBounds b crs).IsRational := by
  obtain ⟨x, y, rfl⟩ := hb
  rw [ofBounds]
  split
  · exact ⟨y, x, rfl⟩
  · exact ⟨x, y, rfl⟩

theorem IsRational.bounds (h : e.IsRational) : e.bounds.IsRational := by
  obtain ⟨x, y, hxy⟩ := h
  have hindex : e.eastingIndex = 0 ∨ e.eastingIndex = 1 := by
    rw [eastingIndex]
    cases e.crs with
    | none => exact .inl rfl
    | some c =>
      obtain ⟨code, order⟩ := c
      cases order with
      | eastingFirst => exact .inl rfl
      | northingFirst => exact .inr rfl
  obtain hi | hi := hindex
  · exact ⟨x, y, by simp [Envelope.bounds, easting, northing, hi, axis, hxy, planeBounds,
      Interval.exact]⟩
  · exact ⟨y, x, by simp [Envelope.bounds, easting, northing, hi, axis, hxy, planeBounds,
      Interval.exact]⟩

theorem isRational_meet? (he : e.IsRational) (hb : box.IsRational) {common : Envelope Exact}
    (h : e.meet? box = some common) : common.IsRational ∧ common.crs = e.crs := by
  obtain ⟨x, y, hxy⟩ := he
  obtain ⟨u, v, huv⟩ := hb
  rw [meet?] at h
  split at h
  · obtain rfl := Option.some.inj h
    refine ⟨⟨x.common u, y.common v, ?_⟩, rfl⟩
    simp [hxy, huv]
  · exact absurd h (by simp)

section Transformation

theorem isRational_apply {t : Transformation Exact} (hs : t.source.IsRational)
    (ht : t.target.IsRational) {p q : Point Exact} (hp : p.IsRational) (h : t.apply p = .ok q) :
    q.IsRational := by
  rw [Transformation.apply] at h
  split at h
  · obtain rfl := Except.ok.inj h
    exact hp
  · split at h
    · exact absurd h (by simp)
    · rename_i g hg
      split at h
      · exact absurd h (by simp)
      · rename_i q' hq
        obtain rfl := Except.ok.inj h
        exact ht.forward (hs.inverse hp hg) hq

theorem isRational_hullOfBorder {t : Transformation Exact} (hs : t.source.IsRational)
    (ht : t.target.IsRational) {b b' : Bounds Exact} (hb : b.IsRational)
    (h : hullOfBorder t b = .ok b') : b'.IsRational := by
  obtain ⟨images, himages, h⟩ := bind_eq_ok.mp h
  have hhull : (Bounds.hull images).IsRational := by
    apply Bounds.isRational_hull
    · intro hnil
      rw [hnil] at himages
      exact absurd himages (mapM_ne_nil (Bounds.border_ne_nil b _))
    · intro p hp
      obtain ⟨a, ha, hap⟩ := mapM_ok himages hp
      exact isRational_apply hs ht (Bounds.isRational_border hb _ a ha) hap
  have h := Except.ok.inj h
  split at h
  · rename_i pole hpole
    split at h
    · obtain ⟨x, y, hxy⟩ := hhull
      obtain ⟨latitude, hlatitude⟩ := hs.pole pole hpole
      subst h
      rw [hxy, Bounds.aroundPole, hlatitude]
      simp only [planeBounds, Exact.min_finite, Exact.max_finite]
      exact Bounds.isRational_mk ..
    · exact h ▸ hhull
  · exact h ▸ hhull

theorem isRational_transformBounds {t : Transformation Exact} (hs : t.source.IsRational)
    (ht : t.target.IsRational) {b b' : Bounds Exact} (hb : b.IsRational)
    (h : transformBounds t b = .ok b') : b'.IsRational := by
  rw [transformBounds] at h
  split at h
  · obtain rfl := Except.ok.inj h
    exact hb
  · split at h
    · obtain ⟨lower, hlower, h⟩ := bind_eq_ok.mp h
      obtain ⟨upper, hupper, h⟩ := bind_eq_ok.mp h
      obtain rfl := Except.ok.inj h
      obtain ⟨x, y, rfl⟩ := hb
      obtain ⟨u, v, rfl⟩ := isRational_apply hs ht ⟨x.min, y.min, rfl⟩ hlower
      obtain ⟨u', v', rfl⟩ := isRational_apply hs ht ⟨x.max, y.max, rfl⟩ hupper
      exact Bounds.isRational_mk ..
    · exact isRational_hullOfBorder hs ht hb h

variable [Atlas Exact]

theorem isRational_transform (ha : Atlas.IsRational) (he : e.IsRational)
    (h : e.transform target = .ok e') : e'.IsRational := by
  rw [transform] at h
  split at h
  · exact absurd h (by simp)
  · split at h
    · exact absurd h (by simp)
    · obtain ⟨b, hb, h⟩ := bind_eq_ok.mp h
      obtain rfl := Except.ok.inj h
      exact isRational_ofBounds (isRational_transformBounds (ha _) (ha _) he.bounds hb) _

theorem isRational_shownIn? (ha : Atlas.IsRational) (he : e.IsRational) {code : Crs.Code}
    (h : e.shownIn? code = some e') : e'.IsRational ∧ e'.crs = e.crs := by
  rw [shownIn?] at h
  split at h
  · obtain ⟨x, y, hxy⟩ := he.bounds
    obtain ⟨south, hsouth⟩ := (ha code).south
    obtain ⟨north, hnorth⟩ := (ha code).north
    dsimp only at h
    split at h
    · exact absurd h (by simp)
    · obtain rfl := Option.some.inj h
      refine ⟨isRational_ofBounds ?_ _, ofBounds_crs ..⟩
      rw [hxy, hsouth, hnorth]
      simp only [planeBounds, Exact.min_finite, Exact.max_finite]
      exact Bounds.isRational_mk ..
  · obtain rfl := Option.some.inj h
    exact ⟨he, rfl⟩

end Transformation

theorem exists_range (c : Crs) {a : Crs.Axis Exact} (ha : a ∈ c.axes) :
    ∃ turn : ℚ, a.range = .finite turn := by
  obtain ⟨code, order⟩ := c
  have hboth : a = Crs.eastAxis code ∨ a = Crs.northAxis code := by
    cases order with
    | eastingFirst => simpa [Crs.axes] using ha
    | northingFirst => simpa [Crs.axes, or_comm] using ha
  obtain rfl | rfl := hboth
  · cases code <;> exact ⟨_, rfl⟩
  · cases code <;> exact ⟨_, rfl⟩

theorem exists_unwrap (a : Interval ℚ) (turn : ℚ) (limit : Option Exact) :
    ∃ b : Interval ℚ, a.exact.unwrap (.finite turn) limit = b.exact := by
  have hup : (⟨.finite a.min, .finite a.max + .finite turn⟩ : Interval Exact) =
      Interval.exact ⟨a.min, a.max + turn⟩ := rfl
  have hdown : (⟨.finite a.min - .finite turn, .finite a.max⟩ : Interval Exact) =
      Interval.exact ⟨a.min - turn, a.max⟩ := by
    rw [Exact.finite_sub]
    rfl
  unfold Interval.unwrap
  split
  · exact ⟨a, rfl⟩
  · split
    · split
      · exact ⟨_, hdown⟩
      · exact ⟨_, hup⟩
    · exact ⟨_, hup⟩

theorem isRational_unwrapEast (he : e.IsRational) (reference : Option (Envelope Exact)) :
    (e.unwrapEast reference).IsRational := by
  unfold unwrapEast
  split
  · exact he
  · rename_i c hc
    split
    · obtain ⟨x, y, hxy⟩ := he
      dsimp only
      rw [hxy]
      simp only [List.zipIdx_cons, List.zipIdx_nil, List.map_cons, List.map_nil]
      obtain ⟨code, order⟩ := c
      obtain ⟨turn, hturn⟩ : ∃ turn : ℚ, (Crs.eastAxis code : Crs.Axis Exact).range =
          .finite turn := exists_range ⟨code, .eastingFirst⟩ (List.mem_cons_self ..)
      cases order with
      | eastingFirst =>
        obtain ⟨x', hx'⟩ := exists_unwrap x turn (reference.map fun r => r.easting.max)
        refine ⟨x', y, ?_⟩
        rw [← hx', ← hturn]
        rfl
      | northingFirst =>
        obtain ⟨y', hy'⟩ := exists_unwrap y turn (reference.map fun r => r.easting.max)
        refine ⟨x, y', ?_⟩
        rw [← hy', ← hturn]
        rfl
    · exact he

end Envelope

theorem isRational_of_isFinite {e : Envelope Exact} (hd : e.dimension = 2)
    (hf : e.isFinite = true) : e.IsRational := by
  obtain ⟨axes, crs⟩ := e
  match axes, hd with
  | [a, b], _ =>
    simp only [Envelope.isFinite, List.all_cons, List.all_nil, Bool.and_true, Bool.and_eq_true]
      at hf
    obtain ⟨⟨h₁, h₂⟩, h₃, h₄⟩ := hf
    obtain ⟨l, hl⟩ := Exact.isFinite_iff.mp h₁
    obtain ⟨u, hu⟩ := Exact.isFinite_iff.mp h₂
    obtain ⟨l', hl'⟩ := Exact.isFinite_iff.mp h₃
    obtain ⟨u', hu'⟩ := Exact.isFinite_iff.mp h₄
    refine ⟨⟨l, u⟩, ⟨l', u'⟩, ?_⟩
    rw [Interval.exact, Interval.exact, ← hl, ← hu, ← hl', ← hu']

namespace CoverageDescriptor

variable {d : CoverageDescriptor Exact} {e e' : Envelope Exact}

theorem isRational_gridFor {t : Affine ℚ} (ht : d.gridGeometry.transform = t.exact)
    (hd : d.nativeEnvelope.IsRational) (he : e.IsRational) {grid : Option (RequestGrid Exact)}
    {g : GridGeometry Exact} (h : d.gridFor e grid = .ok g) :
    ∃ u : Affine ℚ, g.transform = u.exact ∧ (u = t ∨ u.shearX = 0 ∧ u.shearY = 0) := by
  have hclipped : ((e.meet? d.nativeEnvelope).getD e).IsRational := by
    cases hm : e.meet? d.nativeEnvelope with
    | none => exact he
    | some common => exact (Envelope.isRational_meet? he hd hm).1
  obtain ⟨x, y, hxy⟩ := hclipped.bounds
  rw [gridFor] at h
  split at h
  · rename_i hg
    obtain rfl := Except.ok.inj h
    obtain ⟨u, hu, hshape, -⟩ := GridGeometry.planned_exact ht hxy hg
    exact ⟨u, hu, hshape⟩
  · exact absurd h (by simp)

variable [Atlas Exact]

theorem isRational_resolveEnvelope (ha : Atlas.IsRational) (h : d.resolveEnvelope e = .ok e') :
    e'.IsRational := by
  rw [resolveEnvelope] at h
  split at h
  · exact absurd h (by simp)
  · rename_i hd
    split at h
    · exact absurd h (by simp)
    · rename_i hf
      have he : e.IsRational := isRational_of_isFinite (not_not.mp hd) (by simpa using hf)
      obtain ⟨x, y, hxy⟩ := he
      have hrequested : ∀ source : Crs,
          ({ e with crs := some source } : Envelope Exact).IsRational :=
        fun _ => ⟨x, y, hxy⟩
      dsimp only at h
      split at h
      · exact absurd h (by simp)
      · rename_i t ht
        have hunwrapped : t.IsRational := by
          refine Envelope.isRational_transform ha ?_ ht
          split
          · exact Envelope.isRational_unwrapEast (hrequested _) _
          · exact hrequested _
        split at h
        · split at h
          · obtain rfl := Except.ok.inj h
            exact Envelope.isRational_unwrapEast hunwrapped _
          · exact absurd h (by simp)
        · split at h
          · obtain rfl := Except.ok.inj h
            exact hunwrapped
          · exact absurd h (by simp)

theorem isRational_envelopeFor (ha : Atlas.IsRational) (hd : d.nativeEnvelope.IsRational)
    {box : Option (Envelope Exact)} (h : d.envelopeFor box = .ok e') : e'.IsRational := by
  cases box with
  | none =>
    obtain rfl := Except.ok.inj h
    exact hd
  | some requested =>
    rw [envelopeFor] at h
    split at h
    · rename_i hr
      obtain rfl := Except.ok.inj h
      exact isRational_resolveEnvelope ha hr
    · exact absurd h (by simp)

end CoverageDescriptor

end GeoRaster
