import GeoRaster.Query
import Mathlib.Data.List.Basic
import Mathlib.Data.List.Forall2

namespace GeoRaster

theorem bind_eq_ok {ε α β : Type} {x : Except ε α} {f : α → Except ε β} {b : β} :
    (x >>= f) = .ok b ↔ ∃ a, x = .ok a ∧ f a = .ok b := by
  cases x with
  | error e => simp [bind, Except.bind]
  | ok a => simp [bind, Except.bind]

theorem bind_eq_error {ε α β : Type} {x : Except ε α} {f : α → Except ε β} {e : ε} :
    (x >>= f) = .error e ↔ x = .error e ∨ ∃ a, x = .ok a ∧ f a = .error e := by
  cases x with
  | error e' => simp [bind, Except.bind]
  | ok a => simp [bind, Except.bind]

def errorOf? {ε α : Type} : Except ε α → Option ε
  | .error e => some e
  | .ok _ => none

theorem errorOf?_eq_some {ε α : Type} {x : Except ε α} {e : ε} :
    errorOf? x = some e ↔ x = .error e := by
  cases x <;> simp [errorOf?]

theorem exists_of_toOption_map {ε α β : Type} {x : Except ε α} {f : α → β} {b : β}
    (h : x.toOption.map f = some b) : ∃ a, x = .ok a ∧ f a = b := by
  cases x with
  | error e => exact absurd h (by simp [Except.toOption])
  | ok a => exact ⟨a, rfl, Option.some.inj h⟩

section Lists

variable {α β ε : Type}

theorem mapM_eq_ok_iff {f : α → Except ε β} {as : List α} {bs : List β} :
    as.mapM f = .ok bs ↔ List.Forall₂ (fun a b => f a = .ok b) as bs := by
  induction as generalizing bs with
  | nil => simp [pure, Except.pure, eq_comm]
  | cons a as ih =>
    rw [List.mapM_cons, bind_eq_ok, List.forall₂_cons_left_iff]
    constructor
    · rintro ⟨b, hb, h⟩
      obtain ⟨cs, hcs, h⟩ := bind_eq_ok.mp h
      exact ⟨b, cs, hb, ih.mp hcs, (Except.ok.inj h).symm⟩
    · rintro ⟨b, cs, hb, hcs, rfl⟩
      exact ⟨b, hb, bind_eq_ok.mpr ⟨cs, ih.mpr hcs, rfl⟩⟩

theorem mapM_eq_ok {f : α → Except ε β} {g : α → β} {as : List α}
    (h : ∀ a ∈ as, f a = .ok (g a)) : as.mapM f = .ok (as.map g) := by
  rw [mapM_eq_ok_iff, List.forall₂_map_right_iff, List.forall₂_same]
  exact h

theorem mapM_congr {f g : α → Except ε β} {as : List α} (h : ∀ a ∈ as, f a = g a) :
    as.mapM f = as.mapM g := by
  induction as with
  | nil => rfl
  | cons a as ih =>
    rw [List.forall_mem_cons] at h
    rw [List.mapM_cons, List.mapM_cons, h.1, ih h.2]

variable {R : α → β → Prop} {as : List α} {bs : List β}

theorem exists_forall₂ (h : ∀ a ∈ as, ∃ b, R a b) : ∃ bs, List.Forall₂ R as bs := by
  induction as with
  | nil => exact ⟨[], .nil⟩
  | cons a as ih =>
    obtain ⟨b, hb⟩ := h a (List.mem_cons_self ..)
    obtain ⟨bs, hbs⟩ := ih fun a' ha => h a' (List.mem_cons_of_mem _ ha)
    exact ⟨b :: bs, .cons hb hbs⟩

theorem forall₂_and_right {P : β → Prop} :
    List.Forall₂ (fun a b => R a b ∧ P b) as bs ↔ List.Forall₂ R as bs ∧ ∀ b ∈ bs, P b := by
  constructor
  · intro h
    induction h with
    | nil => exact ⟨.nil, fun b hb => absurd hb List.not_mem_nil⟩
    | cons hab _ ih => exact ⟨.cons hab.1 ih.1, List.forall_mem_cons.mpr ⟨hab.2, ih.2⟩⟩
  · rintro ⟨h, hP⟩
    induction h with
    | nil => exact .nil
    | cons hab _ ih =>
      rw [List.forall_mem_cons] at hP
      exact .cons ⟨hab, hP.1⟩ (ih hP.2)

theorem exists_of_forall₂_left (h : List.Forall₂ R as bs) {a : α} (ha : a ∈ as) :
    ∃ b ∈ bs, R a b := by
  induction h with
  | nil => exact absurd ha (by simp)
  | @cons a' b as bs hab _ ih =>
    obtain rfl | ha := List.mem_cons.mp ha
    · exact ⟨b, List.mem_cons_self .., hab⟩
    · obtain ⟨b', hb', h'⟩ := ih ha
      exact ⟨b', List.mem_cons_of_mem _ hb', h'⟩

theorem mapM_ok {f : α → Except ε β} (h : as.mapM f = .ok bs) {b : β} (hb : b ∈ bs) :
    ∃ a ∈ as, f a = .ok b :=
  exists_of_forall₂_left (mapM_eq_ok_iff.mp h).flip hb

theorem mapM_ne_nil {f : α → Except ε β} (h : as ≠ []) : as.mapM f ≠ .ok [] := by
  intro hnil
  exact h (List.forall₂_nil_right_iff.mp (mapM_eq_ok_iff.mp hnil))

end Lists

namespace BandSelection

variable {names : List String}

theorem named?_lt {key : String} {i : ℕ} (h : named? names key = some i) : i < names.length := by
  rw [named?, List.findIdx?_eq_some_iff_getElem] at h
  exact h.1

theorem lookup_lt {key : String} {i : ℕ} (h : lookup names key = .ok i) : i < names.length := by
  rw [lookup] at h
  split at h
  · rename_i j hj
    obtain rfl : j = i := by simpa using h
    exact named?_lt hj
  · split at h
    · exact absurd h (by simp)
    · rename_i n hn
      split at h
      · exact absurd h (by simp)
      · obtain rfl : n - 1 = i := by simpa using h
        omega

theorem stepped_le {low high step i : ℕ} (hle : low ≤ high) (h : i ∈ stepped low high step) :
    i ≤ high := by
  simp only [stepped, List.mem_map, List.mem_range] at h
  obtain ⟨k, hk, rfl⟩ := h
  have := Nat.mul_le_mul_left step (Nat.lt_succ_iff.mp hk)
  have := Nat.mul_div_le (high - low) step
  omega

theorem resolve_lt {selection : Option AxisSelection} {is : List ℕ}
    (h : resolve names selection = .ok is) {i : ℕ} (hi : i ∈ is) : i < names.length := by
  match selection with
  | none =>
    obtain rfl : List.range names.length = is := by simpa [resolve] using h
    exact List.mem_range.mp hi
  | some (.values keys) =>
    rw [resolve] at h
    split at h
    · exact absurd h (by simp)
    · obtain ⟨key, -, hk⟩ := mapM_ok h hi
      exact lookup_lt hk
  | some (.interval min max step) =>
    rw [resolve] at h
    obtain ⟨low, hlow, h⟩ := bind_eq_ok.mp h
    obtain ⟨high, hhigh, h⟩ := bind_eq_ok.mp h
    split at h
    · exact absurd h (by simp)
    · rename_i hlt
      obtain ⟨step, -, h⟩ := bind_eq_ok.mp h
      obtain rfl : stepped low high step = is := by simpa [pure, Except.pure] using h
      exact Nat.lt_of_le_of_lt (stepped_le (Nat.not_lt.mp hlt) hi) (lookup_lt hhigh)

end BandSelection

namespace GridRange

theorem checkedProduct_eq_some {a b n : ℕ} (h : checkedProduct a b = some n) :
    n = a * b ∧ a * b ≤ maxCount := by
  rw [checkedProduct] at h
  split at h
  · exact ⟨by simpa using h.symm, ‹_›⟩
  · exact absurd h (by simp)

theorem cellCount_eq_some {r : GridRange} (h : r.IsPlanar) {n : ℕ} (hn : r.cellCount = some n) :
    r.span 0 = some r.width ∧ r.span 1 = some r.height ∧ n = r.width * r.height ∧ n ≤ maxCount := by
  rw [cellCount, dimension, h.1] at hn
  obtain ⟨m, hm, hrest⟩ := Option.bind_eq_some_iff.mp hn
  obtain ⟨w, hw, hm⟩ := Option.bind_eq_some_iff.mp hm
  obtain ⟨k, hk, hlast⟩ := Option.bind_eq_some_iff.mp hrest
  obtain ⟨l, hl, hk⟩ := Option.bind_eq_some_iff.mp hk
  obtain rfl : k = n := by simpa [List.foldlM, pure] using hlast
  obtain ⟨rfl, -⟩ := checkedProduct_eq_some hm
  obtain ⟨rfl, hle⟩ := checkedProduct_eq_some hk
  rw [width, height, hw, hl]
  rw [Nat.one_mul] at hle ⊢
  exact ⟨rfl, rfl, rfl, hle⟩

end GridRange

namespace Envelope

variable {α : Type} {e e' : Envelope α}

@[simp]
theorem ofBounds_crs (b : Bounds α) (crs : Option Crs) : (ofBounds b crs).crs = crs := by
  rw [ofBounds]
  split <;> rfl

variable [Scalar α]

theorem transform_crs [Atlas α] {target : Crs} (h : e.transform target = .ok e') :
    e'.crs = some target := by
  rw [transform] at h
  split at h
  · exact absurd h (by simp)
  · split at h
    · exact absurd h (by simp)
    · obtain ⟨b, -, h⟩ := bind_eq_ok.mp h
      obtain rfl := Except.ok.inj h
      exact ofBounds_crs ..

@[simp]
theorem unwrapEast_crs (e : Envelope α) (reference : Option (Envelope α)) :
    (e.unwrapEast reference).crs = e.crs := by
  rw [unwrapEast]
  split
  · rfl
  · dsimp only
    split <;> rfl

end Envelope

namespace CoverageDescriptor

variable {α : Type} {d : CoverageDescriptor α}

theorem cellCount_of_checkSize {limit : ℕ} {grid : GridGeometry α} {bands : ℕ}
    (h : checkSize limit grid bands = .ok ()) : ∃ n, grid.range.cellCount = some n := by
  rw [checkSize] at h
  split at h
  · exact absurd h (by simp)
  · rename_i hn
    cases hc : grid.range.cellCount with
    | none => simp [outputValues, hc] at hn
    | some n => exact ⟨n, rfl⟩

theorem band_lt_of_bandsFor {subset : Option AxisSubset} {bands : List ℕ}
    (h : d.bandsFor subset = .ok bands) {i : ℕ} (hi : i ∈ bands) : i < d.bands.length := by
  rw [bandsFor] at h
  split at h
  · rename_i selected hs
    obtain rfl : selected = bands := by simpa using h
    have := BandSelection.resolve_lt hs hi
    rwa [List.length_map] at this
  · exact absurd h (by simp)

variable [Scalar α] [Atlas α] {registry : List Encoder} {settings : Settings}
  {request : CoverageRequest α} {q : Query α}

/-- What a query has of the request it is made from. -/
structure Accepts (d : CoverageDescriptor α) (request : CoverageRequest α) (q : Query α) :
    Prop where
  id_eq : q.coverageId = d.id
  native_eq : q.nativeCrs = d.nativeCrs.eastingFirst
  envelope_eq : d.envelopeFor request.domain.envelope = .ok q.envelope
  grid_eq : d.gridFor q.envelope request.domain.grid = .ok q.targetGrid
  target_eq : d.outputCrsFor request.output.crs = .ok q.targetCrs
  band_lt : ∀ i ∈ q.bands, i < d.bands.length
  width_eq : q.targetGrid.range.span 0 = some q.targetGrid.width
  height_eq : q.targetGrid.range.span 1 = some q.targetGrid.height
  count_le : q.targetGrid.width * q.targetGrid.height ≤ maxCount

theorem Accepts.code_eq (ha : d.Accepts request q) : q.nativeCrs.code = d.nativeCrs.code := by
  rw [ha.native_eq]
  rfl

theorem resolveEnvelope_ok {e e' : Envelope α} (h : d.resolveEnvelope e = .ok e') :
    e'.crs = some d.nativeCrs.eastingFirst ∧ e'.isValid = true := by
  rw [resolveEnvelope] at h
  split at h
  · exact absurd h (by simp)
  · split at h
    · exact absurd h (by simp)
    · dsimp only at h
      split at h
      · exact absurd h (by simp)
      · rename_i t ht
        have hcrs := Envelope.transform_crs ht
        obtain ⟨resolved, hresolved, h⟩ : ∃ resolved : Envelope α,
            resolved.crs = some d.nativeCrs.eastingFirst ∧
              (if resolved.isValid then .ok resolved
                else .error (EnvelopeFault.inverted resolved.bounds)) =
                Except.ok e' := by
          refine ⟨_, ?_, h⟩
          split
          · rw [Envelope.unwrapEast_crs, hcrs]
          · exact hcrs
        split at h
        · rename_i hv
          obtain rfl := Except.ok.inj h
          exact ⟨hresolved, hv⟩
        · exact absurd h (by simp)

theorem envelopeFor_ok {e : Option (Envelope α)} {e' : Envelope α}
    (hn : d.nativeEnvelope.crs = some d.nativeCrs.eastingFirst)
    (hv : d.nativeEnvelope.isValid = true) (h : d.envelopeFor e = .ok e') :
    e'.crs = some d.nativeCrs.eastingFirst ∧ e'.isValid = true := by
  cases e with
  | none =>
    obtain rfl := Except.ok.inj h
    exact ⟨hn, hv⟩
  | some e =>
    rw [envelopeFor] at h
    split at h
    · rename_i t ht
      obtain rfl := Except.ok.inj h
      exact resolveEnvelope_ok ht
    · exact absurd h (by simp)

theorem accepts_of_validate (h : d.validate registry settings request = .ok q) :
    d.Accepts request q := by
  obtain ⟨envelope, henvelope, h⟩ := bind_eq_ok.mp h
  obtain ⟨_, -, h⟩ := bind_eq_ok.mp h
  obtain ⟨subset, -, h⟩ := bind_eq_ok.mp h
  obtain ⟨interpolation, -, h⟩ := bind_eq_ok.mp h
  obtain ⟨format, -, h⟩ := bind_eq_ok.mp h
  obtain ⟨targetCrs, htarget, h⟩ := bind_eq_ok.mp h
  obtain ⟨bands, hbands, h⟩ := bind_eq_ok.mp h
  obtain ⟨grid, hgrid, h⟩ := bind_eq_ok.mp h
  obtain ⟨_, hsize, h⟩ := bind_eq_ok.mp h
  obtain rfl := Except.ok.inj h
  obtain ⟨cells, hcells⟩ := cellCount_of_checkSize hsize
  obtain ⟨hwidth, hheight, hcount, hle⟩ := GridRange.cellCount_eq_some grid.planar hcells
  refine ⟨rfl, rfl, henvelope, hgrid, htarget, ?_, hwidth, hheight, hcount ▸ hle⟩
  intro i hi
  have := band_lt_of_bandsFor hbands hi
  exact this

section Faults

variable {e : Exception α}

omit [Atlas α] in
theorem checkGrid_error {grid : Option (RequestGrid α)} (h : checkGrid grid = .error e) :
    ∃ f, e = .ofPlanningFault f := by
  cases grid with
  | none => exact absurd h (by simp [checkGrid])
  | some g =>
    rw [checkGrid] at h
    split at h
    · exact absurd h (by simp)
    · exact ⟨_, (Except.error.inj h).symm⟩

omit [Atlas α] in
theorem gridFor_error {box : Envelope α} {grid : Option (RequestGrid α)}
    (h : d.gridFor box grid = .error e) : ∃ f, e = .ofPlanningFault f := by
  rw [gridFor] at h
  split at h
  · exact absurd h (by simp)
  · exact ⟨_, (Except.error.inj h).symm⟩

omit [Scalar α] [Atlas α] in
theorem bandSubset_error {axes : List AxisSubset} (h : bandSubset axes = .error e) :
    ∃ f, e = .invalidParameter (.range f) := by
  rw [bandSubset.eq_def] at h
  split at h
  · exact absurd h (by simp)
  · split at h
    · exact absurd h (by simp)
    · exact ⟨_, (Except.error.inj h).symm⟩
  · exact ⟨_, (Except.error.inj h).symm⟩

omit [Scalar α] [Atlas α] in
theorem bandsFor_error {subset : Option AxisSubset} (h : d.bandsFor subset = .error e) :
    ∃ f, e = .invalidParameter (.range f) := by
  rw [bandsFor] at h
  split at h
  · exact absurd h (by simp)
  · exact ⟨_, (Except.error.inj h).symm⟩

omit [Scalar α] [Atlas α] in
theorem interpolationFor_error {fallback : Interpolation} {requested : Option String}
    (h : d.interpolationFor fallback requested = .error e) :
    ∃ f, e = .invalidParameter (.range f) := by
  rw [interpolationFor] at h
  split at h
  · exact absurd h (by simp)
  · split at h
    · exact absurd h (by simp)
    · exact ⟨_, (Except.error.inj h).symm⟩

omit [Scalar α] [Atlas α] in
theorem formatFor_error {requested : String} (h : d.formatFor registry requested = .error e) :
    ∃ f, e = .invalidParameter (.format f) := by
  rw [formatFor] at h
  split at h
  · exact absurd h (by simp)
  · exact ⟨_, (Except.error.inj h).symm⟩

omit [Scalar α] [Atlas α] in
theorem outputCrsFor_error {requested : Option String} (h : d.outputCrsFor requested = .error e) :
    ∃ f : ParameterFault α, e = .invalidParameter f ∧ f.locator = "CRS" := by
  rw [outputCrsFor] at h
  split at h
  · exact absurd h (by simp)
  · split at h
    · exact ⟨_, (Except.error.inj h).symm, rfl⟩
    · split at h
      · exact absurd h (by simp)
      · exact ⟨_, (Except.error.inj h).symm, rfl⟩

theorem envelopeFor_error {box : Option (Envelope α)} (h : d.envelopeFor box = .error e) :
    ∃ f, e = .invalidParameter (.envelope f) := by
  cases box with
  | none => exact absurd h (by simp [envelopeFor])
  | some requested =>
    rw [envelopeFor] at h
    split at h
    · exact absurd h (by simp)
    · exact ⟨_, (Except.error.inj h).symm⟩

end Faults

end CoverageDescriptor

end GeoRaster
