import GeoRaster.Proofs.AxisOrder
import GeoRaster.Proofs.Rational

namespace GeoRaster

namespace Interval

/-- What becomes of a longitude pair: an inverted one has one of its ends moved by a turn. -/
def Unwraps (a b : Interval Exact) : Prop :=
  if a.min ≤ a.max then b = a
  else b = ⟨a.min - .finite 360, a.max⟩ ∨ b = ⟨a.min, a.max + .finite 360⟩

theorem unwraps_self {a : Interval Exact} (h : a.min ≤ a.max) : a.Unwraps a := by
  rw [Unwraps, if_pos h]

theorem unwraps_unwrap (a : Interval Exact) (limit : Option Exact) :
    a.Unwraps (a.unwrap (.finite 360) limit) := by
  rw [Unwraps, unwrap.eq_def]
  split_ifs with h
  · rfl
  · cases limit with
    | none => exact .inr rfl
    | some m =>
      dsimp only
      split
      · exact .inl rfl
      · exact .inr rfl

/-- Whichever end is moved, a pair is in order afterwards if it spans no more than a turn. -/
theorem Unwraps.le_iff {a : Interval ℚ} {b : Interval Exact} (h : a.exact.Unwraps b)
    (hlt : ¬ a.exact.min ≤ a.exact.max) :
    b.min ≤ b.max ↔ a.exact.min - a.exact.max ≤ .finite 360 := by
  rw [Unwraps, if_neg hlt] at h
  obtain rfl | rfl := h
  · simp only [exact, Exact.finite_sub, Exact.finite_le]
    constructor <;> intro h <;> linarith
  · simp only [exact, Exact.finite_sub, Exact.finite_add, Exact.finite_le]
    constructor <;> intro h <;> linarith

end Interval

theorem Crs.range_eastAxis {code : Crs.Code} (hg : code.isGeographic = true) :
    (Crs.eastAxis code : Crs.Axis Exact).range = .finite 360 := by
  cases code with
  | wgs84 => decide +kernel
  | nad83 => decide +kernel
  | _ => exact absurd hg (by decide)

namespace Envelope

variable {α : Type} [Scalar α] {e : Envelope α} {c target : Crs}

theorem eq_ofBounds (hd : e.dimension = 2) (hc : e.crs = some c) :
    e = ofBounds e.bounds (some c) := by
  obtain ⟨axes, crs⟩ := e
  obtain rfl : crs = some c := hc
  obtain ⟨code, order⟩ := c
  match axes, hd with
  | [a, b], _ => cases order <;> rfl

theorem transform_same [Atlas α] (hd : e.dimension = 2) (hc : e.crs = some c)
    (hs : c.code = target.code ∨ c.isGeographic = true ∧ target.isGeographic = true) :
    e.transform target = .ok (ofBounds e.bounds (some target)) := by
  have hi : (Transformation.between c.code target.code : Transformation α).isIdentity = true := by
    rw [Transformation.isIdentity, Bool.or_eq_true, decide_eq_true_eq, Bool.and_eq_true]
    exact hs
  rw [transform, if_neg (not_not.mpr hd), hc]
  simp only [transformBounds, hi, if_true]
  rfl

end Envelope

namespace CoverageDescriptor

section Reading

variable {α : Type} [Scalar α] [Atlas α] {d : CoverageDescriptor α} {e : Envelope α}

def read (d : CoverageDescriptor α) (e : Envelope α) : Envelope α :=
  { e with crs := some (e.crs.getD d.nativeCrs) }

/-- The box is read in the native system, or in one that is not told apart from it. -/
def ReadsNative (d : CoverageDescriptor α) (e : Envelope α) : Prop :=
  (e.crs.getD d.nativeCrs).code = d.nativeCrs.code ∨
    (e.crs.getD d.nativeCrs).isGeographic = true ∧ d.nativeCrs.isGeographic = true

instance (d : CoverageDescriptor α) (e : Envelope α) : Decidable (d.ReadsNative e) :=
  inferInstanceAs (Decidable (_ ∨ _))

def unwrapped (d : CoverageDescriptor α) (e : Envelope α) : Interval α :=
  let c := e.crs.getD d.nativeCrs
  if c.isGeographic then
    (d.read e).easting.unwrap (Crs.eastAxis c.code).range
      ((d.referenceIn c).map fun r => r.easting.max)
  else (d.read e).easting

theorem unwrapEast_read (hd : e.dimension = 2) :
    (if (e.crs.getD d.nativeCrs).isGeographic then
        (d.read e).unwrapEast (d.referenceIn (e.crs.getD d.nativeCrs))
      else d.read e) =
      .ofBounds ⟨(d.unwrapped e).min, (d.read e).northing.min, (d.unwrapped e).max,
        (d.read e).northing.max⟩ (some (e.crs.getD d.nativeCrs)) := by
  have hbox : d.read e = .ofBounds (d.read e).bounds (some (e.crs.getD d.nativeCrs)) :=
    Envelope.eq_ofBounds hd rfl
  rw [unwrapped]
  by_cases hg : (e.crs.getD d.nativeCrs).isGeographic = true
  · simp only [hg, if_true]
    conv_lhs => rw [hbox]
    exact Envelope.unwrapEast_ofBounds hg ..
  · simp only [hg, Bool.false_eq_true, if_false]
    exact hbox

/-- Without a projection only the easting pair can change, and order is what is left to check. -/
theorem resolveEnvelope_eq (hn : d.ReadsNative e) (hd : e.dimension = 2)
    (hf : e.isFinite = true) :
    d.resolveEnvelope e =
      let resolved : Envelope α :=
        ⟨[d.unwrapped e, (d.read e).northing], some d.nativeCrs.eastingFirst⟩
      if resolved.isValid then .ok resolved else .error (.inverted resolved.bounds) := by
  have hread : ({ e with crs := some (e.crs.getD d.nativeCrs) } : Envelope α) = d.read e := rfl
  have hsame : (e.crs.getD d.nativeCrs).code = d.nativeCrs.eastingFirst.code ∨
      (e.crs.getD d.nativeCrs).isGeographic = true ∧
        d.nativeCrs.eastingFirst.isGeographic = true := hn
  have htransform : ∀ x y : Interval α,
      (Envelope.ofBounds ⟨x.min, y.min, x.max, y.max⟩
        (some (e.crs.getD d.nativeCrs))).transform d.nativeCrs.eastingFirst =
        .ok ⟨[x, y], some d.nativeCrs.eastingFirst⟩ := by
    intro x y
    rw [Envelope.transform_same (Envelope.dimension_ofBounds ..) (Envelope.ofBounds_crs ..) hsame,
      Envelope.bounds_ofBounds]
    rfl
  -- what is read in a projected system has the native code, so no longitudes come up later either
  have hlate : (!(e.crs.getD d.nativeCrs).isGeographic && d.nativeCrs.eastingFirst.isGeographic) =
      false := by
    obtain hcode | ⟨hg, -⟩ := hn
    · simp [Crs.isGeographic, Crs.eastingFirst, Crs.ofCode, hcode]
    · simp [hg]
  rw [resolveEnvelope, if_neg (not_not.mpr hd), if_neg (by simp [hf])]
  simp only [hread, unwrapEast_read hd, htransform, hlate, Bool.false_eq_true, if_false]

theorem unwrapped_of_le (h : (d.read e).easting.min ≤ (d.read e).easting.max) :
    d.unwrapped e = (d.read e).easting := by
  rw [unwrapped]
  split
  · rw [Interval.unwrap.eq_def, if_pos h]
  · rfl

end Reading

section Rational

variable {d : CoverageDescriptor Exact} {e : Envelope Exact}

/-- A box that can be used: plane and finite, with its bounds in order but for a longitude pair that
spans no more than a turn. -/
structure Resolvable (d : CoverageDescriptor Exact) (e : Envelope Exact) : Prop where
  plane : e.dimension = 2
  finite : e.isFinite = true
  northing_le : (d.read e).northing.min ≤ (d.read e).northing.max
  easting_le : (d.read e).easting.min ≤ (d.read e).easting.max ∨
    (d.read e).isGeographic = true ∧
      (d.read e).easting.min - (d.read e).easting.max ≤ .finite 360

theorem exists_read (hd : e.dimension = 2) (hf : e.isFinite = true) :
    ∃ x y : Interval ℚ, (d.read e).easting = x.exact ∧ (d.read e).northing = y.exact := by
  have hr : (d.read e).IsRational := isRational_of_isFinite hd hf
  obtain ⟨x, y, hxy⟩ := hr.bounds
  refine ⟨x, y, ?_, ?_⟩
  · exact congrArg (fun b => Interval.mk b.minX b.maxX) hxy
  · exact congrArg (fun b => Interval.mk b.minY b.maxY) hxy

variable [Atlas Exact] {x : Interval ℚ}

theorem exists_unwrapped (hx : (d.read e).easting = x.exact) :
    ∃ b : Interval ℚ, d.unwrapped e = b.exact := by
  rw [unwrapped, hx]
  by_cases hg : (e.crs.getD d.nativeCrs).isGeographic = true
  · simp only [hg, if_true, Crs.range_eastAxis hg]
    exact Envelope.exists_unwrap x 360 _
  · simp only [hg, Bool.false_eq_true, if_false]
    exact ⟨x, rfl⟩

theorem unwraps_unwrapped (hg : (d.read e).isGeographic = true) :
    (d.read e).easting.Unwraps (d.unwrapped e) := by
  have hg : (e.crs.getD d.nativeCrs).isGeographic = true := hg
  simp only [unwrapped, hg, if_true, Crs.range_eastAxis hg]
  exact Interval.unwraps_unwrap ..

theorem unwrapped_eq (hg : ¬ (d.read e).isGeographic = true) :
    d.unwrapped e = (d.read e).easting :=
  if_neg hg

theorem unwrapped_le_iff (hx : (d.read e).easting = x.exact) :
    (d.unwrapped e).min ≤ (d.unwrapped e).max ↔
      (d.read e).easting.min ≤ (d.read e).easting.max ∨ (d.read e).isGeographic = true ∧
        (d.read e).easting.min - (d.read e).easting.max ≤ .finite 360 := by
  by_cases hle : (d.read e).easting.min ≤ (d.read e).easting.max
  · rw [unwrapped_of_le hle]
    simp [hle]
  · by_cases hg : (d.read e).isGeographic = true
    · have hu := unwraps_unwrapped hg
      rw [hx] at hu hle ⊢
      simp [hu.le_iff hle, hle, hg]
    · rw [unwrapped_eq hg]
      simp [hle, hg]

theorem resolveEnvelope_self {x y : Interval ℚ} (hx : x.exact.min ≤ x.exact.max)
    (hy : y.exact.min ≤ y.exact.max) :
    d.resolveEnvelope ⟨[x.exact, y.exact], some d.nativeCrs.eastingFirst⟩ =
      .ok ⟨[x.exact, y.exact], some d.nativeCrs.eastingFirst⟩ := by
  have hn : d.ReadsNative ⟨[x.exact, y.exact], some d.nativeCrs.eastingFirst⟩ := .inl rfl
  rw [resolveEnvelope_eq hn rfl rfl, unwrapped_of_le hx]
  exact if_pos (by simpa [Envelope.isValid] using ⟨hx, hy⟩)

theorem plane_of_resolveEnvelope {e' : Envelope Exact} (h : d.resolveEnvelope e = .ok e') :
    e.dimension = 2 ∧ e.isFinite = true := by
  rw [resolveEnvelope] at h
  split at h
  · exact absurd h (by simp)
  · rename_i hd
    split at h
    · exact absurd h (by simp)
    · rename_i hf
      exact ⟨not_not.mp hd, by simpa using hf⟩

theorem resolveEnvelope_iff (hn : d.ReadsNative e) {e' : Envelope Exact} :
    d.resolveEnvelope e = .ok e' ↔ d.Resolvable e ∧
      e' = ⟨[d.unwrapped e, (d.read e).northing], some d.nativeCrs.eastingFirst⟩ := by
  have hvalid : ∀ crs, (⟨[d.unwrapped e, (d.read e).northing], crs⟩ : Envelope Exact).isValid =
      true ↔ (d.unwrapped e).min ≤ (d.unwrapped e).max ∧
        (d.read e).northing.min ≤ (d.read e).northing.max := by
    intro crs
    simp [Envelope.isValid]
  constructor
  · intro h
    obtain ⟨hd, hf⟩ := plane_of_resolveEnvelope h
    obtain ⟨x, y, hx, -⟩ := exists_read (d := d) hd hf
    rw [resolveEnvelope_eq hn hd hf] at h
    dsimp only at h
    split at h
    · rename_i hv
      obtain ⟨heasting, hnorthing⟩ := (hvalid _).mp hv
      exact ⟨⟨hd, hf, hnorthing, (unwrapped_le_iff hx).mp heasting⟩, (Except.ok.inj h).symm⟩
    · exact absurd h (by simp)
  · rintro ⟨⟨hd, hf, hnorthing, heasting⟩, rfl⟩
    obtain ⟨x, y, hx, -⟩ := exists_read (d := d) hd hf
    rw [resolveEnvelope_eq hn hd hf]
    exact if_pos ((hvalid _).mpr ⟨(unwrapped_le_iff hx).mpr heasting, hnorthing⟩)

/-- A box that is read without a projection is resolved if and only if it can be used. It keeps its
bounds, easting first, but for the one end of an inverted longitude pair that is moved by a turn;
then it is in order and is resolved to itself. Any other box is reported as a fault of the bounding
box. -/
theorem resolveEnvelope_native (hn : d.ReadsNative e) :
    ((∃ e', d.resolveEnvelope e = .ok e') ↔ d.Resolvable e) ∧
      (∀ e', d.resolveEnvelope e = .ok e' →
        (∃ x, (d.read e).easting.Unwraps x ∧
          e' = ⟨[x, (d.read e).northing], some d.nativeCrs.eastingFirst⟩) ∧
        e'.isValid = true ∧ d.resolveEnvelope e' = .ok e') ∧
      ∀ f, d.resolveEnvelope e = .error f →
        ∃ x, d.envelopeFor (some e) = .error x ∧ x.code = .invalidParameterValue ∧
          x.locator = some "BoundingBox" := by
  refine ⟨⟨fun ⟨e', h⟩ => ((resolveEnvelope_iff hn).mp h).1,
    fun h => ⟨_, (resolveEnvelope_iff hn).mpr ⟨h, rfl⟩⟩⟩, ?_, ?_⟩
  · intro e' h
    obtain ⟨⟨hd, hf, hnorthing, heasting⟩, he'⟩ := (resolveEnvelope_iff hn).mp h
    obtain ⟨x, y, hx, hy⟩ := exists_read (d := d) hd hf
    obtain ⟨b, hb⟩ := exists_unwrapped hx
    have hle := (unwrapped_le_iff hx).mpr heasting
    refine ⟨⟨d.unwrapped e, ?_, he'⟩, (resolveEnvelope_ok h).2, ?_⟩
    · by_cases hg : (d.read e).isGeographic = true
      · exact unwraps_unwrapped hg
      · rw [unwrapped_eq hg] at hle ⊢
        exact Interval.unwraps_self hle
    · rw [hb] at hle
      rw [hy] at hnorthing
      rw [he', hb, hy]
      exact resolveEnvelope_self hle hnorthing
  · intro f h
    exact ⟨.invalidParameter (.envelope f), by rw [envelopeFor, h], rfl, rfl⟩

end Rational

section Small

open scoped Geographic

def acrossAntimeridian : Envelope Exact :=
  ⟨[⟨.finite (-5), .finite 5⟩, ⟨.finite 175, .finite (-175)⟩], some (.inRegistryOrder .nad83)⟩

theorem resolveEnvelope_native_small :
    (small ["a"]).ReadsNative acrossAntimeridian ∧ (small ["a"]).Resolvable acrossAntimeridian ∧
      (small ["a"]).resolveEnvelope acrossAntimeridian =
        .ok ⟨[⟨.finite (-185), .finite (-175)⟩, ⟨.finite (-5), .finite 5⟩],
          some (.ofCode .wgs84)⟩ := by
  have hn : (small ["a"]).ReadsNative acrossAntimeridian := by decide
  have hrun : (small ["a"]).resolveEnvelope acrossAntimeridian =
      .ok ⟨[⟨.finite (-185), .finite (-175)⟩, ⟨.finite (-5), .finite 5⟩],
        some (.ofCode .wgs84)⟩ := by
    decide +kernel
  exact ⟨hn, (resolveEnvelope_native hn).1.mp ⟨_, hrun⟩, hrun⟩

end Small

end CoverageDescriptor

end GeoRaster
