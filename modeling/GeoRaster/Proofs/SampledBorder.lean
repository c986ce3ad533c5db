import GeoRaster.Proofs.AxisOrder
import GeoRaster.Proofs.ShownLatitudes
import Mathlib.Order.Bounds.Basic

namespace GeoRaster

theorem mapM_eq_error_iff {α β ε : Type} {f : α → Except ε β} {as : List α} {e : ε} :
    as.mapM f = .error e ↔ ∃ before a after, as = before ++ a :: after ∧
      (∀ b ∈ before, ∃ c, f b = .ok c) ∧ f a = .error e := by
  induction as with
  | nil => simp [pure, Except.pure]
  | cons a as ih =>
    rw [List.mapM_cons, bind_eq_error]
    constructor
    · rintro (ha | ⟨b, hb, h⟩)
      · exact ⟨[], a, as, rfl, by simp, ha⟩
      · obtain h | ⟨cs, -, h⟩ := bind_eq_error.mp h
        · obtain ⟨before, a', after, rfl, hbefore, ha'⟩ := ih.mp h
          exact ⟨a :: before, a', after, rfl, List.forall_mem_cons.mpr ⟨⟨b, hb⟩, hbefore⟩, ha'⟩
        · exact absurd h (by simp [pure, Except.pure])
    · rintro ⟨_ | ⟨b, before⟩, a', after, has, hbefore, ha'⟩
      · obtain ⟨rfl, rfl⟩ := List.cons.inj has
        exact .inl ha'
      · obtain ⟨rfl, rfl⟩ := List.cons.inj has
        obtain ⟨⟨c, hc⟩, hbefore⟩ := List.forall_mem_cons.mp hbefore
        exact .inr ⟨c, hc, bind_eq_error.mpr (.inl (ih.mpr ⟨before, a', after, rfl, hbefore, ha'⟩))⟩

section Hulls

def Point.exact (p : Point ℚ) : Point Exact :=
  ⟨.finite p.x, .finite p.y⟩

theorem Point.exact_inj {p q : Point ℚ} (h : p.exact = q.exact) : p = q := by
  simp only [exact, mk.injEq, Exact.finite.injEq] at h
  obtain ⟨x, y⟩ := p
  obtain ⟨rfl, rfl⟩ := h
  rfl

theorem Point.exists_map_exact {qs : List (Point Exact)} (h : ∀ q ∈ qs, q.IsRational) :
    ∃ rs : List (Point ℚ), qs = rs.map exact := by
  induction qs with
  | nil => exact ⟨[], rfl⟩
  | cons q qs ih =>
    obtain ⟨⟨a, b, rfl⟩, hqs⟩ := List.forall_mem_cons.mp h
    obtain ⟨rs, rfl⟩ := ih hqs
    exact ⟨⟨a, b⟩ :: rs, rfl⟩

namespace Interval

def IsHullOf (a : Interval ℚ) (s : Set ℚ) : Prop :=
  IsLeast s a.min ∧ IsGreatest s a.max

theorem IsHullOf.has {a : Interval ℚ} {s : Set ℚ} (h : a.IsHullOf s) {q : ℚ} (hq : q ∈ s) :
    a.Has q :=
  ⟨h.1.2 hq, h.2.2 hq⟩

theorem isHullOf_singleton (q : ℚ) : IsHullOf ⟨q, q⟩ {q} :=
  ⟨isLeast_singleton, isGreatest_singleton⟩

theorem IsHullOf.insert {a : Interval ℚ} {s : Set ℚ} (h : a.IsHullOf s) (q : ℚ) :
    IsHullOf ⟨Min.min a.min q, Max.max a.max q⟩ (insert q s) := by
  rw [min_comm, max_comm]
  exact ⟨h.1.insert q, h.2.insert q⟩

end Interval

namespace Bounds

open Envelope (planeBounds)

variable {u v : Interval ℚ} {s t : Set ℚ}

theorem insert_exact (u v : Interval ℚ) (q : Point ℚ) : (planeBounds u v).insert q.exact =
    planeBounds ⟨min u.min q.x, max u.max q.x⟩ ⟨min v.min q.y, max v.max q.y⟩ := by
  simp [insert, planeBounds, Point.exact]

theorem exists_foldl_insert (hu : u.IsHullOf s) (hv : v.IsHullOf t) (qs : List (Point ℚ)) :
    ∃ u' v' : Interval ℚ,
      (qs.map Point.exact).foldl insert (planeBounds u v) = planeBounds u' v' ∧
        u'.IsHullOf (s ∪ Point.x '' {q | q ∈ qs}) ∧ v'.IsHullOf (t ∪ Point.y '' {q | q ∈ qs}) := by
  induction qs generalizing u v s t with
  | nil => exact ⟨u, v, rfl, by simpa using hu, by simpa using hv⟩
  | cons q qs ih =>
    obtain ⟨u', v', hfold, hu', hv'⟩ := ih (hu.insert q.x) (hv.insert q.y)
    rw [List.setOfPred_mem_cons, Set.image_insert_eq, Set.image_insert_eq, Set.union_insert, Set.union_insert,
      ← Set.insert_union, ← Set.insert_union]
    exact ⟨u', v', by rw [List.map_cons, List.foldl_cons, insert_exact, hfold], hu', hv'⟩

theorem exists_hull {qs : List (Point ℚ)} (hne : qs ≠ []) :
    ∃ u v : Interval ℚ, hull (qs.map Point.exact) = planeBounds u v ∧
      u.IsHullOf (Point.x '' {q | q ∈ qs}) ∧ v.IsHullOf (Point.y '' {q | q ∈ qs}) := by
  cases qs with
  | nil => exact absurd rfl hne
  | cons q qs =>
    obtain ⟨u, v, hfold, hu, hv⟩ := exists_foldl_insert (Interval.isHullOf_singleton q.x)
      (Interval.isHullOf_singleton q.y) qs
    have hfirst : empty.insert q.exact = planeBounds ⟨q.x, q.x⟩ ⟨q.y, q.y⟩ := rfl
    rw [List.setOfPred_mem_cons, Set.image_insert_eq, Set.image_insert_eq, ← Set.singleton_union,
      ← Set.singleton_union]
    exact ⟨u, v, by rw [hull, List.map_cons, List.foldl_cons, hfirst, hfold], hu, hv⟩

end Bounds

end Hulls

namespace Transformation

variable {α : Type} {t : Transformation α} {p q : Point α} {f : ProjectionFault α}

/-- A place and its counterpart, by way of longitude and latitude. -/
def Sends (t : Transformation α) (p q : Point α) : Prop :=
  ∃ g, t.source.inverse p = some g ∧ t.target.forward g = some q

/-- A place lies outside the domain of one of the projections. The fault gives it in the coordinates
of that domain: as it stands, or by longitude and latitude. -/
inductive Misses (t : Transformation α) (p : Point α) : ProjectionFault α → Prop
  | source (h : t.source.inverse p = none) : Misses t p (.outside t.sourceCode p)
  | target {g : Point α} (hg : t.source.inverse p = some g) (h : t.target.forward g = none) :
    Misses t p (.outside t.targetCode g)

def FirstMisses (t : Transformation α) (ps : List (Point α)) (f : ProjectionFault α) : Prop :=
  ∃ before p after, ps = before ++ p :: after ∧ (∀ q ∈ before, ∃ r, t.Sends q r) ∧ t.Misses p f

def images (t : Transformation Exact) (ps : List (Point ℚ)) : Set (Point ℚ) :=
  {q | ∃ p ∈ ps, t.Sends p.exact q.exact}

theorem apply_eq_ok_iff (ht : t.isIdentity = false) : t.apply p = .ok q ↔ t.Sends p q := by
  rw [apply, ht, if_neg Bool.false_ne_true, Sends]
  cases hg : t.source.inverse p with
  | none => simp
  | some g => cases hq : t.target.forward g <;> simp [hq]

theorem apply_eq_error_iff (ht : t.isIdentity = false) : t.apply p = .error f ↔ t.Misses p f := by
  rw [apply, ht, if_neg Bool.false_ne_true]
  cases hg : t.source.inverse p with
  | none =>
    constructor
    · rintro h
      obtain rfl := Except.error.inj h
      exact .source hg
    · rintro (_ | ⟨hg', -⟩)
      · rfl
      · exact absurd (hg.symm.trans hg') (by simp)
  | some g =>
    cases hq : t.target.forward g with
    | none =>
      simp only [hq]
      constructor
      · rintro h
        obtain rfl := Except.error.inj h
        exact .target hg hq
      · rintro (hg' | ⟨hg', -⟩)
        · exact absurd (hg.symm.trans hg') (by simp)
        · obtain rfl := Option.some.inj (hg.symm.trans hg')
          rfl
    | some r =>
      simp only [hq]
      refine ⟨fun h => absurd h (by simp), ?_⟩
      rintro (hg' | ⟨hg', hq'⟩)
      · exact absurd (hg.symm.trans hg') (by simp)
      · obtain rfl := Option.some.inj (hg.symm.trans hg')
        exact absurd (hq.symm.trans hq') (by simp)

theorem Sends.unique {r : Point α} (h : t.Sends p q) (h' : t.Sends p r) : q = r := by
  obtain ⟨g, hg, hq⟩ := h
  obtain ⟨g', hg', hr⟩ := h'
  obtain rfl := Option.some.inj (hg.symm.trans hg')
  exact Option.some.inj (hq.symm.trans hr)

theorem sends_or_misses (t : Transformation α) (p : Point α) :
    (∃ q, t.Sends p q) ∨ ∃ f, t.Misses p f := by
  cases hg : t.source.inverse p with
  | none => exact .inr ⟨_, .source hg⟩
  | some g =>
    cases hq : t.target.forward g with
    | none => exact .inr ⟨_, .target hg hq⟩
    | some q => exact .inl ⟨q, g, hg, hq⟩

theorem Sends.not_misses (h : t.Sends p q) : ¬ t.Misses p f := by
  obtain ⟨g, hg, hq⟩ := h
  rintro (hg' | ⟨hg', hq'⟩)
  · exact absurd (hg.symm.trans hg') (by simp)
  · obtain rfl := Option.some.inj (hg.symm.trans hg')
    exact absurd (hq.symm.trans hq') (by simp)

theorem exists_firstMisses_iff {ps : List (Point α)} :
    (∃ f, t.FirstMisses ps f) ↔ ∃ p ∈ ps, ∃ f, t.Misses p f := by
  constructor
  · rintro ⟨f, before, p, after, rfl, -, hp⟩
    exact ⟨p, by simp, f, hp⟩
  · rintro ⟨p, hp, f, hf⟩
    induction ps with
    | nil => exact absurd hp List.not_mem_nil
    | cons p' ps ih =>
      obtain ⟨q, hq⟩ | ⟨f', hf'⟩ := t.sends_or_misses p'
      · have hmem : p ∈ ps := by
          obtain rfl | hmem := List.mem_cons.mp hp
          · exact absurd hf hq.not_misses
          · exact hmem
        obtain ⟨f', before, p'', after, rfl, hbefore, hmisses⟩ := ih hmem
        exact ⟨f', p' :: before, p'', after, rfl, List.forall_mem_cons.mpr ⟨⟨q, hq⟩, hbefore⟩,
          hmisses⟩
      · exact ⟨f', [], p', ps, rfl, by simp, hf'⟩

theorem mapM_apply_eq_error_iff (ht : t.isIdentity = false) {ps : List (Point α)} :
    ps.mapM t.apply = .error f ↔ t.FirstMisses ps f := by
  simp only [mapM_eq_error_iff, FirstMisses, apply_eq_ok_iff ht, apply_eq_error_iff ht]

theorem isIdentity_of_bent [Atlas α] {source target : Crs.Code} (hne : source ≠ target)
    (hbent : ¬ (source.isCylindrical = true ∧ target.isCylindrical = true)) :
    (between source target : Transformation α).isIdentity = false := by
  have hflat : ∀ c : Crs.Code, c.isGeographic = true → c.isCylindrical = true := by
    intro c
    cases c <;> decide
  rw [isIdentity, Bool.or_eq_false_iff, decide_eq_false_iff_not, Bool.and_eq_false_iff]
  refine ⟨hne, ?_⟩
  by_contra h
  simp only [not_or, Bool.not_eq_false] at h
  exact hbent ⟨hflat _ h.1, hflat _ h.2⟩

end Transformation

def Crs.Code.poleLatitude? : Crs.Code → Option ℚ
  | .arctic => some 90
  | .antarctic => some (-90)
  | _ => none

/-- The two polar systems, and no others, have their pole in the middle. -/
def Atlas.KeepsPoles [Atlas Exact] : Prop :=
  ∀ c, (Atlas.projection c : Projection Exact).pole =
    c.poleLatitude?.map fun latitude => ⟨.finite latitude, ⟨.finite 0, .finite 0⟩⟩

/-- The pole that a box around the middle of a polar system holds, seen in a geographic one. -/
def Crs.Code.poleWithin? (source target : Crs.Code) (x y : Interval ℚ) : Option ℚ :=
  if target.isGeographic = true ∧ x.Has 0 ∧ y.Has 0 then source.poleLatitude? else none

namespace Envelope

variable {x y u v : Interval ℚ}

/-- The places that a box is drawn around: on the southern, northern, western and eastern edge in
turn, 21 of each edge from end to end. -/
def borderPlaces (x y : Interval ℚ) : List (Point ℚ) :=
  (List.range 21).flatMap fun k : ℕ =>
    let u := x.min + k / 20 * (x.max - x.min)
    let v := y.min + k / 20 * (y.max - y.min)
    [⟨u, y.min⟩, ⟨u, y.max⟩, ⟨x.min, v⟩, ⟨x.max, v⟩]

def cornerPlaces (x y : Interval ℚ) : List (Point ℚ) :=
  [⟨x.min, y.min⟩, ⟨x.max, y.min⟩, ⟨x.min, y.max⟩, ⟨x.max, y.max⟩]

theorem border_planeBounds (x y : Interval ℚ) :
    (planeBounds x y).border borderSamples = (borderPlaces x y).map Point.exact := by
  have hstep : ∀ k : ℕ, (.finite k / .finite 20 : Exact) = .finite (k / 20) := fun k =>
    Exact.finite_div _ (by norm_num)
  rw [Bounds.border, borderPlaces, List.map_flatMap]
  refine List.flatMap_congr fun k _ => ?_
  simp [Bounds.borderPoints, planeBounds, borderSamples, Point.exact, hstep]

theorem cornerPlaces_subset (x y : Interval ℚ) : cornerPlaces x y ⊆ borderPlaces x y := by
  intro p hp
  have hfirst : (0 : ℕ) ∈ List.range 21 := by decide
  have hlast : (20 : ℕ) ∈ List.range 21 := by decide
  simp only [cornerPlaces, List.mem_cons, List.not_mem_nil, or_false] at hp
  rw [borderPlaces, List.mem_flatMap]
  obtain rfl | rfl | rfl | rfl := hp
  · exact ⟨0, hfirst, by simp⟩
  · exact ⟨20, hlast, by simp⟩
  · exact ⟨0, hfirst, by simp⟩
  · exact ⟨20, hlast, by simp⟩

/-- The box is the least one around some places. One that has a pole in it goes all the way round
and is the least in latitude that reaches the pole as well. -/
def IsDrawnAround (pole : Option ℚ) (images : Set (Point ℚ)) (u v : Interval ℚ) : Prop :=
  match pole with
  | none => u.IsHullOf (Point.x '' images) ∧ v.IsHullOf (Point.y '' images)
  | some latitude => u = ⟨-180, 180⟩ ∧ v.IsHullOf (insert latitude (Point.y '' images))

theorem IsDrawnAround.has {pole : Option ℚ} {images : Set (Point ℚ)}
    (h : IsDrawnAround pole images u v) {q : Point ℚ} (hq : q ∈ images)
    (hturn : pole = none ∨ (⟨-180, 180⟩ : Interval ℚ).Has q.x) : u.Has q.x ∧ v.Has q.y := by
  have hx : q.x ∈ Point.x '' images := ⟨q, hq, rfl⟩
  have hy : q.y ∈ Point.y '' images := ⟨q, hq, rfl⟩
  cases pole with
  | none => exact ⟨h.1.has hx, h.2.has hy⟩
  | some latitude =>
    obtain ⟨rfl, hv⟩ := h
    exact ⟨hturn.resolve_left (by simp), hv.has (.inr hy)⟩

theorem aroundPole_planeBounds (u v : Interval ℚ) (latitude : ℚ) (place : Point Exact) :
    (planeBounds u v).aroundPole ⟨.finite latitude, place⟩ =
      planeBounds ⟨-180, 180⟩ ⟨min v.min latitude, max v.max latitude⟩ := by
  simp [Bounds.aroundPole, planeBounds, Exact.halfTurn_eq]

section Images

variable {t : Transformation Exact} (hs : t.source.IsRational) (ht : t.target.IsRational)
  (hi : t.isIdentity = false)
include hs ht hi

theorem exists_images {ps : List (Point ℚ)} {qs : List (Point Exact)}
    (h : (ps.map Point.exact).mapM t.apply = .ok qs) :
    ∃ rs : List (Point ℚ), qs = rs.map Point.exact ∧ {r | r ∈ rs} = t.images ps ∧
      ∀ p ∈ ps, ∃ r : Point ℚ, t.Sends p.exact r.exact := by
  have hsends : List.Forall₂ (fun p q => t.Sends (Point.exact p) q) ps qs := by
    have h := mapM_eq_ok_iff.mp h
    rw [List.forall₂_map_left_iff] at h
    exact h.imp fun p q hq => (Transformation.apply_eq_ok_iff hi).mp hq
  obtain ⟨rs, rfl⟩ : ∃ rs : List (Point ℚ), qs = rs.map Point.exact := by
    refine Point.exists_map_exact fun q hq => ?_
    obtain ⟨p, -, g, hg, hq⟩ := exists_of_forall₂_left hsends.flip hq
    exact ht.forward (hs.inverse ⟨_, _, rfl⟩ hg) hq
  rw [List.forall₂_map_right_iff] at hsends
  refine ⟨rs, rfl, ?_, fun p hp => ?_⟩
  · ext r
    constructor
    · intro hr
      obtain ⟨p, hp, hpr⟩ := exists_of_forall₂_left hsends.flip hr
      exact ⟨p, hp, hpr⟩
    · rintro ⟨p, hp, hpr⟩
      obtain ⟨r', hr', hpr'⟩ := exists_of_forall₂_left hsends hp
      obtain rfl : r = r' := Point.exact_inj (hpr.unique hpr')
      exact hr'
  · obtain ⟨r, -, hpr⟩ := exists_of_forall₂_left hsends hp
    exact ⟨r, hpr⟩

/-- The border of a box becomes the box that is drawn around it. -/
theorem of_hullOfBorder {latitude? : Option ℚ}
    (hp : t.source.pole = latitude?.map fun l => ⟨.finite l, ⟨.finite 0, .finite 0⟩⟩)
    {b : Bounds Exact} (h : hullOfBorder t (planeBounds x y) = .ok b) :
    ∃ u v : Interval ℚ, b = planeBounds u v ∧
      IsDrawnAround
        (if t.targetCode.isGeographic = true ∧ x.Has 0 ∧ y.Has 0 then latitude? else none)
        (t.images (borderPlaces x y)) u v ∧
      ∀ p ∈ borderPlaces x y, ∃ q : Point ℚ, t.Sends p.exact q.exact := by
  obtain ⟨images, himages, h⟩ := bind_eq_ok.mp h
  rw [border_planeBounds] at himages
  obtain ⟨qs, rfl, hset, hall⟩ := exists_images hs ht hi himages
  have hne : qs ≠ [] := by
    rintro rfl
    have hcorner := cornerPlaces_subset x y (List.mem_cons_self ..)
    obtain ⟨q, hq⟩ := hall _ hcorner
    have hmem : q ∈ t.images (borderPlaces x y) := ⟨_, hcorner, hq⟩
    rw [← hset] at hmem
    exact absurd hmem List.not_mem_nil
  obtain ⟨u, v, hhull, hu, hv⟩ := Bounds.exists_hull hne
  have hholds : (planeBounds x y).holds ⟨.finite 0, .finite 0⟩ = true ↔ x.Has 0 ∧ y.Has 0 := by
    simp [Bounds.holds, planeBounds, Interval.Has, and_assoc]
  rw [hset] at hu hv
  have h := Except.ok.inj h
  rw [hhull, hp] at h
  cases latitude? with
  | none =>
    obtain rfl := h
    exact ⟨u, v, rfl, by simpa [IsDrawnAround] using ⟨hu, hv⟩, hall⟩
  | some latitude =>
    simp only [Option.map_some, Bool.and_eq_true, hholds] at h
    by_cases hpole : t.targetCode.isGeographic = true ∧ x.Has 0 ∧ y.Has 0
    · rw [if_pos hpole, aroundPole_planeBounds] at h
      rw [if_pos hpole]
      exact ⟨_, _, h.symm, ⟨rfl, hv.insert latitude⟩, hall⟩
    · rw [if_neg hpole] at h
      rw [if_neg hpole]
      exact ⟨u, v, h.symm, ⟨hu, hv⟩, hall⟩

omit hs ht in
theorem hullOfBorder_eq_error_iff {f : ProjectionFault Exact} :
    hullOfBorder t (planeBounds x y) = .error f ↔
      t.FirstMisses ((borderPlaces x y).map Point.exact) f := by
  rw [hullOfBorder, border_planeBounds, bind_eq_error,
    Transformation.mapM_apply_eq_error_iff hi]
  exact or_iff_left fun ⟨_, _, h⟩ => absurd h (by simp [pure, Except.pure])

end Images

theorem ofBounds_planeBounds (u v : Interval ℚ) (c : Crs) :
    ofBounds (planeBounds u v) (some c) =
      match c.order with
      | .eastingFirst => plane u v (some c)
      | .northingFirst => plane v u (some c) := by
  obtain ⟨code, order⟩ := c
  cases order <;> rfl

theorem holdsPoint_ofBounds (u v : Interval ℚ) (c : Crs) (q : Point ℚ) :
    (ofBounds (planeBounds u v) (some c)).holdsPoint q.exact = true ↔ u.Has q.x ∧ v.Has q.y := by
  rw [holdsPoint, bounds_ofBounds]
  simp [Bounds.holds, planeBounds, Point.exact, Interval.Has, and_assoc]

section Bent

variable [Atlas Exact] {e : Envelope Exact} {source target : Crs}

theorem transform_eq_hullOfBorder (hd : e.dimension = 2) (hc : e.crs = some source)
    (hne : source.code ≠ target.code)
    (hbent : ¬ (source.code.isCylindrical = true ∧ target.code.isCylindrical = true)) :
    e.transform target = (do
      let b ← hullOfBorder (.between source.code target.code) e.bounds
      return .ofBounds b (some target)) := by
  have hi := Transformation.isIdentity_of_bent (α := Exact) hne hbent
  have hcylindrical : ((Transformation.between source.code target.code :
      Transformation Exact).sourceCode.isCylindrical &&
      (Transformation.between source.code target.code :
        Transformation Exact).targetCode.isCylindrical) = false := by
    simpa [Transformation.between] using hbent
  rw [transform, if_neg (not_not.mpr hd), hc]
  simp only [transformBounds, hi, hcylindrical, Bool.false_eq_true, if_false]

theorem of_transform (ha : Atlas.IsRational) (hpoles : Atlas.KeepsPoles)
    (hd : e.dimension = 2) (hc : e.crs = some source) (hb : e.bounds = planeBounds x y)
    (hne : source.code ≠ target.code)
    (hbent : ¬ (source.code.isCylindrical = true ∧ target.code.isCylindrical = true))
    {e' : Envelope Exact} (h : e.transform target = .ok e') :
    let t : Transformation Exact := .between source.code target.code
    let places := borderPlaces x y
    let pole := source.code.poleWithin? target.code x y
    (∃ u v, e' = (match target.order with
        | .eastingFirst => plane u v (some target)
        | .northingFirst => plane v u (some target)) ∧
      IsDrawnAround pole (t.images places) u v) ∧
    ∀ p ∈ places, ∃ q : Point ℚ, t.Sends p.exact q.exact ∧
      (pole = none ∨ (⟨-180, 180⟩ : Interval ℚ).Has q.x → e'.holdsPoint q.exact = true) := by
  intro t places pole
  rw [transform_eq_hullOfBorder hd hc hne hbent, hb] at h
  obtain ⟨b, hhull, h⟩ := bind_eq_ok.mp h
  obtain rfl := Except.ok.inj h
  obtain ⟨u, v, rfl, hdrawn, hall⟩ := of_hullOfBorder (ha source.code) (ha target.code)
    (Transformation.isIdentity_of_bent hne hbent) (hpoles source.code) hhull
  refine ⟨⟨u, v, ofBounds_planeBounds u v target, hdrawn⟩, fun p hp => ?_⟩
  obtain ⟨q, hq⟩ := hall p hp
  refine ⟨q, hq, fun hturn => ?_⟩
  rw [holdsPoint_ofBounds]
  exact hdrawn.has ⟨p, hp, hq⟩ hturn

/-- Where meridians bend, a box is transformed by 84 places on its border, its corners among them.
It fails as the first of them does that a projection does not map, and only so. Otherwise it is the
least box around their counterparts, in the axis order of the new system; but one that holds the
pole in the middle of a polar system goes all the way round, and reaches the pole, when it becomes
geographic. -/
theorem transform_isDrawnAround (ha : Atlas.IsRational) (hpoles : Atlas.KeepsPoles)
    (hd : e.dimension = 2) (hc : e.crs = some source) (hb : e.bounds = planeBounds x y)
    (hne : source.code ≠ target.code)
    (hbent : ¬ (source.code.isCylindrical = true ∧ target.code.isCylindrical = true)) :
    let t : Transformation Exact := .between source.code target.code
    let places := borderPlaces x y
    let pole := source.code.poleWithin? target.code x y
    cornerPlaces x y ⊆ places ∧
      ((∃ f, e.transform target = .error f) ↔ ∃ p ∈ places, ∃ f, t.Misses p.exact f) ∧
      (∀ f, e.transform target = .error f ↔ t.FirstMisses (places.map Point.exact) f) ∧
      ∀ e', e.transform target = .ok e' →
        (∃ u v, e' = (match target.order with
            | .eastingFirst => plane u v (some target)
            | .northingFirst => plane v u (some target)) ∧
          IsDrawnAround pole (t.images places) u v) ∧
        ∀ p ∈ places, ∃ q : Point ℚ, t.Sends p.exact q.exact ∧
          (pole = none ∨ (⟨-180, 180⟩ : Interval ℚ).Has q.x → e'.holdsPoint q.exact = true) := by
  intro t places pole
  have hi : t.isIdentity = false := Transformation.isIdentity_of_bent hne hbent
  have herror : ∀ f, e.transform target = .error f ↔ t.FirstMisses (places.map Point.exact) f := by
    intro f
    rw [transform_eq_hullOfBorder hd hc hne hbent, hb, bind_eq_error, hullOfBorder_eq_error_iff hi]
    exact or_iff_left fun ⟨_, _, h⟩ => absurd h (by simp [pure, Except.pure])
  refine ⟨cornerPlaces_subset x y, ?_, herror, fun e' h => ?_⟩
  · simp only [herror, Transformation.exists_firstMisses_iff, List.mem_map,
      exists_exists_and_eq_and]
  · exact of_transform ha hpoles hd hc hb hne hbent h

end Bent

end Envelope

namespace PolarPlane

scoped instance atlas : Atlas Exact where
  projection c := { Geographic.projection with
    pole := c.poleLatitude?.map fun latitude => ⟨.finite latitude, ⟨.finite 0, .finite 0⟩⟩ }

theorem atlas_isRational : Atlas.IsRational := fun c =>
  { Geographic.projection_isRational with
    pole := fun o ho => by
      obtain ⟨latitude, -, rfl⟩ := Option.map_eq_some_iff.mp ho
      exact ⟨latitude, rfl⟩ }

end PolarPlane

namespace Envelope

open scoped PolarPlane

theorem transform_isDrawnAround_pole :
    (plane ⟨-10, 20⟩ ⟨-5, 5⟩ (some (.ofCode .arctic))).transform (.inRegistryOrder .wgs84) =
        .ok (plane ⟨-5, 90⟩ ⟨-180, 180⟩ (some (.inRegistryOrder .wgs84))) ∧
      IsDrawnAround (some 90) ((Transformation.between .arctic .wgs84).images
        (borderPlaces ⟨-10, 20⟩ ⟨-5, 5⟩)) ⟨-180, 180⟩ ⟨-5, 90⟩ ∧
      (Transformation.between .arctic .wgs84).FirstMisses
        ((borderPlaces ⟨-10, 20⟩ ⟨85, 95⟩).map Point.exact)
        (.outside .arctic ⟨.finite (-10), .finite 95⟩) := by
  have hne : (Crs.ofCode .arctic).code ≠ (Crs.inRegistryOrder .wgs84).code := by decide
  have hbent : ¬ ((Crs.ofCode .arctic).code.isCylindrical = true ∧
      (Crs.inRegistryOrder .wgs84).code.isCylindrical = true) := by decide
  have hrun : (plane ⟨-10, 20⟩ ⟨-5, 5⟩ (some (.ofCode .arctic))).transform
      (.inRegistryOrder .wgs84) =
        .ok (plane ⟨-5, 90⟩ ⟨-180, 180⟩ (some (.inRegistryOrder .wgs84))) := by
    decide +kernel
  have hfault : (plane ⟨-10, 20⟩ ⟨85, 95⟩ (some (.ofCode .arctic))).transform
      (.inRegistryOrder .wgs84) = .error (.outside .arctic ⟨.finite (-10), .finite 95⟩) := by
    decide +kernel
  obtain ⟨-, -, -, hok⟩ := transform_isDrawnAround PolarPlane.atlas_isRational (fun _ => rfl)
    rfl rfl (bounds_plane_of_order rfl) hne hbent (x := ⟨-10, 20⟩) (y := ⟨-5, 5⟩)
  obtain ⟨-, -, herror, -⟩ := transform_isDrawnAround PolarPlane.atlas_isRational (fun _ => rfl)
    rfl rfl (bounds_plane_of_order rfl) hne hbent (x := ⟨-10, 20⟩) (y := ⟨85, 95⟩)
  obtain ⟨⟨u, v, hbox, hdrawn⟩, -⟩ := hok _ hrun
  have hpole : Crs.Code.poleWithin? (.arctic) .wgs84 ⟨-10, 20⟩ ⟨-5, 5⟩ = some 90 := by
    decide +kernel
  obtain ⟨rfl, rfl⟩ := plane_inj.mp hbox
  exact ⟨hrun, hpole ▸ hdrawn, (herror _).mp hfault⟩

end Envelope

section Supported

theorem Geographic.has_normalizeLongitude {lon : Exact} {a : ℚ}
    (h : normalizeLongitude lon = .finite a) : (⟨-180, 180⟩ : Interval ℚ).Has a := by
  cases lon with
  | nan =>
    have hnan : normalizeLongitude Exact.nan = .nan := by decide +kernel
    exact absurd (hnan.symm.trans h) (by simp)
  | infinity =>
    have hnan : normalizeLongitude Exact.infinity = .nan := by decide +kernel
    exact absurd (hnan.symm.trans h) (by simp)
  | negInfinity =>
    have hnan : normalizeLongitude Exact.negInfinity = .nan := by decide +kernel
    exact absurd (hnan.symm.trans h) (by simp)
  | finite q =>
    have hlow := Int.floor_le ((q + 180) / 360)
    have hhigh := Int.lt_floor_add_one ((q + 180) / 360)
    have hwhole : (0 : ℚ) < 360 := by norm_num
    rw [le_div_iff₀ hwhole] at hlow
    rw [div_lt_iff₀ hwhole] at hhigh
    simp only [normalizeLongitude, Exact.halfTurn_eq, Exact.turn_eq, Exact.neg_finite,
      Exact.finite_le, Exact.finite_add, Exact.remainder_finite _ hwhole, Exact.finite_sub] at h
    split_ifs at h with hin hedge <;> obtain rfl := Exact.finite.inj h
    · exact hin
    · constructor <;> norm_num
    · constructor <;> dsimp only <;> linarith

variable [Elementary Exact]

theorem standardProjection_keepsPoles : Atlas.KeepsPoles := by
  intro c
  cases c with
  | wgs84 | nad83 | webMercator => rfl
  | arctic =>
    show (Polar.arctic : Polar Exact).projection.pole = _
    rw [Polar.projection, if_pos Polar.isNorth_arctic, Polar.poleLatitude,
      if_pos Polar.isNorth_arctic, Exact.quarter_eq, Exact.zero_eq]
    rfl
  | antarctic =>
    have hsouth := ne_true_of_eq_false Polar.isNorth_antarctic
    show (Polar.antarctic : Polar Exact).projection.pole = _
    rw [Polar.projection, if_neg hsouth, Polar.poleLatitude, if_neg hsouth, Exact.quarter_eq,
      Exact.zero_eq]
    rfl

theorem Polar.has_inverse {p : Polar Exact} {central : ℚ} (hp : p.central = .finite central)
    (hcentral : (⟨-180, 180⟩ : Interval ℚ).Has central) {place g : Point Exact}
    (h : p.inverse place = some g) {lon : ℚ} (hlon : g.x = .finite lon) :
    (⟨-180, 180⟩ : Interval ℚ).Has lon := by
  simp only [inverse, Option.ite_none_right_eq_some] at h
  obtain ⟨-, h⟩ := h
  split_ifs at h <;> obtain rfl := Option.some.inj h
  · obtain rfl := Exact.finite.inj (hp.symm.trans hlon)
    exact hcentral
  · exact Geographic.has_normalizeLongitude hlon

/-- A place on a polar map keeps to one turn when it becomes geographic. -/
theorem Transformation.Sends.has_turn {source target : Crs.Code} {p : Point Exact} {q : Point ℚ}
    (h : (between source target).Sends p q.exact) (hs : source.poleLatitude?.isSome = true)
    (ht : target.isGeographic = true) : (⟨-180, 180⟩ : Interval ℚ).Has q.x := by
  obtain ⟨g, hg, hq⟩ := h
  have hplace : Geographic.place? g = some q.exact := by
    cases target <;> first | exact hq | exact absurd ht (by decide)
  rw [Geographic.place?, Option.ite_none_right_eq_some, Option.some.injEq] at hplace
  obtain ⟨-, rfl⟩ := hplace
  cases source with
  | wgs84 | nad83 | webMercator => exact absurd hs (by decide)
  | arctic =>
    have hcentral : (Polar.arctic : Polar Exact).central = .finite (-45) := by
      show (-45.0 : Exact) = _
      rw [Exact.ofScientific_eq, Exact.neg_finite]
      norm_num
    have hinverse : (Polar.arctic : Polar Exact).inverse p = some q.exact := by
      rw [← hg]
      show _ = (Polar.arctic : Polar Exact).projection.inverse p
      rw [Polar.projection, if_pos Polar.isNorth_arctic]
    exact Polar.has_inverse hcentral (by constructor <;> norm_num) hinverse rfl
  | antarctic =>
    have hinverse : (Polar.antarctic : Polar Exact).inverse p = some q.exact := by
      rw [← hg]
      show _ = (Polar.antarctic : Polar Exact).projection.inverse p
      rw [Polar.projection, if_neg (ne_true_of_eq_false Polar.isNorth_antarctic)]
    exact Polar.has_inverse Exact.zero_eq (by constructor <;> norm_num) hinverse rfl

/-- With the supported projections the new box holds the counterparts of all the places that it is
drawn around, also where it goes all the way round. -/
theorem Envelope.transform_holdsImages (ha : Atlas.IsRational) {e e' : Envelope Exact}
    {source target : Crs} {x y : Interval ℚ} (hd : e.dimension = 2) (hc : e.crs = some source)
    (hb : e.bounds = planeBounds x y) (hne : source.code ≠ target.code)
    (hbent : ¬ (source.code.isCylindrical = true ∧ target.code.isCylindrical = true))
    (h : e.transform target = .ok e') :
    ∀ p ∈ borderPlaces x y, ∃ q : Point ℚ,
      (Transformation.between source.code target.code).Sends p.exact q.exact ∧
        e'.holdsPoint q.exact = true := by
  intro p hp
  obtain ⟨-, himages⟩ := of_transform ha standardProjection_keepsPoles hd hc hb hne hbent h
  obtain ⟨q, hq, hholds⟩ := himages p hp
  refine ⟨q, hq, hholds ?_⟩
  rw [Crs.Code.poleWithin?]
  split_ifs with hpole
  · cases hlatitude : source.code.poleLatitude? with
    | none => exact .inl rfl
    | some latitude => exact .inr (hq.has_turn (by rw [hlatitude]; rfl) hpole.1)
  · exact .inl rfl

end Supported

end GeoRaster
