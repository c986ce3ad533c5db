import GeoRaster.Proofs.NativeCells

namespace GeoRaster

namespace BandSelection

/-- What a selection of bands has to be: some values, all of them bands, or two bands in order with a
distance that can be read. -/
def Resolvable (names : List String) : Option AxisSelection → Prop
  | none => True
  | some (.values keys) => keys ≠ [] ∧ ∀ key ∈ keys, ∃ i, lookup names key = .ok i
  | some (.interval min max step) => ∃ low high n,
    lookup names min = .ok low ∧ lookup names max = .ok high ∧ low ≤ high ∧ readStep step = .ok n

end BandSelection

namespace ResolvedFormat

variable {registry : List Encoder} {requested : String}

def Answers (registry : List Encoder) (requested declared : String) : Prop :=
  Text.sameIgnoringCase declared requested = true ∨
    ∃ e, Encoder.find? registry declared = some e ∧ e.produces requested = true

theorem byEncoder?_isSome {candidates : List String} :
    (byEncoder? registry requested candidates).isSome = true ↔ ∃ declared ∈ candidates,
      ∃ e, Encoder.find? registry declared = some e ∧ e.produces requested = true := by
  induction candidates with
  | nil => simp [byEncoder?]
  | cons declared rest ih =>
    rw [byEncoder?, List.exists_mem_cons_iff]
    cases Encoder.find? registry declared with
    | none => simp [ih]
    | some e =>
      by_cases he : e.produces requested = true
      · simp [he]
      · simp [he, ih]

theorem exists_among_iff {candidates : List String} :
    (∃ f, among registry candidates requested = .ok f) ↔
      (Text.trim requested).isEmpty = false ∧
        ∃ declared ∈ candidates, Answers registry (Text.trim requested) declared := by
  rw [among]
  generalize Text.trim requested = name
  cases hname : name.isEmpty with
  | true => simp
  | false =>
    simp only [Bool.false_eq_true, if_false, true_and, Answers]
    cases hfind : candidates.find? (Text.sameIgnoringCase · name) with
    | some declared =>
      have hsame := List.find?_some hfind
      exact iff_of_true ⟨_, rfl⟩ ⟨declared, List.mem_of_find?_eq_some hfind, .inl hsame⟩
    | none =>
      have hnone : ∀ declared ∈ candidates, ¬ Text.sameIgnoringCase declared name = true :=
        List.find?_eq_none.mp hfind
      have hsome : (byEncoder? registry name candidates).isSome = true ↔ _ := byEncoder?_isSome
      cases hb : byEncoder? registry name candidates with
      | some f =>
        obtain ⟨declared, hmem, he⟩ := hsome.mp (by rw [hb]; rfl)
        exact iff_of_true ⟨f, rfl⟩ ⟨declared, hmem, .inr he⟩
      | none =>
        refine iff_of_false (by simp) ?_
        rintro ⟨declared, hmem, hsame | he⟩
        · exact hnone declared hmem hsame
        · have := hsome.mpr ⟨declared, hmem, he⟩
          rw [hb] at this
          exact absurd this (by simp)

end ResolvedFormat

section Faults

variable {ε ε' α β : Type} {x : Except ε α} {f : α → Except ε β} {rest : Option ε}

theorem errorOf?_eq_none : errorOf? x = none ↔ ∃ a, x = .ok a := by
  cases x <;> simp [errorOf?]

/-- The first fault of two steps, if what the second one finds does not depend on the first. -/
theorem errorOf?_bind (h : ∀ a, x = .ok a → errorOf? (f a) = rest) :
    errorOf? (x >>= f) = (errorOf? x).or rest := by
  cases x with
  | error e => rfl
  | ok a => exact h a rfl

end Faults

namespace RequestGrid

variable {α : Type} [Scalar α]

theorem errorOf?_check (g : RequestGrid α) : errorOf? g.check =
    (errorOf? (checkRange g.range)).or
      ((errorOf? (checkOffsets g.offsets)).or (errorOf? (checkOrigin g.origin))) :=
  errorOf?_bind fun _ _ => errorOf?_bind fun _ _ => rfl

omit [Scalar α] in
theorem errorOf?_checkRange {range : Option GridRange} :
    errorOf? (checkRange range : Except (PlanningFault α) Unit) = none ↔
      ∀ r ∈ range, r.IsPlanar := by
  cases range with
  | none => simp [checkRange, errorOf?]
  | some r =>
    have hplanar : r.dimension = 2 ∧ r.isValid = true ↔ r.IsPlanar := by
      simp only [GridRange.dimension, GridRange.IsPlanar, GridRange.isValid, Bool.and_eq_true,
        decide_eq_true_eq]
      constructor
      · rintro ⟨hdim, hlength, hall⟩
        exact ⟨hdim, hlength ▸ hdim, hlength, hall⟩
      · rintro ⟨hlow, -, hlength, hall⟩
        exact ⟨hlow, hlength, hall⟩
    simp only [Option.mem_some_iff, forall_eq', checkRange, hplanar]
    split <;> simp_all [errorOf?]

theorem errorOf?_checkOffsets {offsets : Option (α × α)} :
    errorOf? (checkOffsets offsets) = none ↔
      ∀ o ∈ offsets, Scalar.isFinite o.1 = true ∧ (o.1 == 0.0) = false ∧
        Scalar.isFinite o.2 = true ∧ (o.2 == 0.0) = false := by
  cases offsets with
  | none => simp [checkOffsets, errorOf?]
  | some o =>
    simp only [Option.mem_some_iff, forall_eq', checkOffsets]
    split <;> simp_all [errorOf?]

section Faults

variable {f : PlanningFault α}

end Faults

end RequestGrid

namespace CoverageDescriptor

variable {α : Type} {d : CoverageDescriptor α}

end CoverageDescriptor

namespace GridGeometry

variable {α : Type} [Scalar α]

theorem cellsFor_pos (span offset : α) : 0 < cellsFor span offset := by
  rw [cellsFor]
  omega

end GridGeometry

namespace CoverageRequest

variable {α : Type} (r : CoverageRequest α)

def gridRange? : Option GridRange :=
  r.domain.grid >>= RequestGrid.range

def gridOffsets? : Option (α × α) :=
  r.domain.grid >>= RequestGrid.offsets

def gridOrigin? : Option (α × α) :=
  r.domain.grid >>= RequestGrid.origin

end CoverageRequest

inductive Check where
  | envelope
  | gridRange
  | gridOffsets
  | gridOrigin
  | axes
  | interpolation
  | format
  | crs
  | bands
  | size
  deriving DecidableEq

namespace Check

def inOrder : List Check :=
  [envelope, gridRange, gridOffsets, gridOrigin, axes, interpolation, format, crs, bands, size]

def before (c : Check) : List Check :=
  inOrder.takeWhile (· ≠ c)

def locator : Check → String
  | envelope => "BoundingBox"
  | gridRange => "GridRange"
  | gridOffsets | size => "GridOffsets"
  | gridOrigin => "GridOrigin"
  | axes | interpolation | bands => "RangeSubset"
  | format => "format"
  | crs => "CRS"

section Meaning

variable {α : Type} [Scalar α] [Atlas α] (d : CoverageDescriptor α) (registry : List Encoder)
  (settings : Settings) (request : CoverageRequest α)

/-- What each check asks of a request. The last one is about the grid that is planned if all others
are passed. -/
def Passes : Check → Prop
  | envelope => ∀ e ∈ request.domain.envelope, ∃ box, d.resolveEnvelope e = .ok box
  | gridRange => ∀ r ∈ request.gridRange?, r.IsPlanar
  | gridOffsets => ∀ o ∈ request.gridOffsets?, Scalar.isFinite o.1 = true ∧ (o.1 == 0.0) = false ∧
      Scalar.isFinite o.2 = true ∧ (o.2 == 0.0) = false
  | gridOrigin => ∀ o ∈ request.gridOrigin?, Scalar.isFinite o.1 = true ∧ Scalar.isFinite o.2 = true
  | axes => request.range = [] ∨ ∃ a, request.range = [a] ∧
      Text.sameIgnoringCase a.axis CoverageDescriptor.bandAxis = true
  | interpolation => ∀ name ∈ givenText request.interpolation, ∃ m ∈ d.interpolationMethods,
      Interpolation.key m = Interpolation.key name
  | format => (Text.trim request.output.format).isEmpty = false ∧ ∃ declared ∈ d.formatCandidates,
      ResolvedFormat.Answers registry (Text.trim request.output.format) declared
  | crs => ∀ name ∈ givenText request.output.crs, ∃ c, Crs.ofIdentifier? name = some c ∧
      ∃ s ∈ d.supportedCrs, ∃ c', Crs.ofIdentifier? s = some c' ∧ c'.code = c.code
  | bands => BandSelection.Resolvable (d.bands.map BandDefinition.name)
      (request.range.head?.map AxisSubset.selection)
  | size => ∀ box, d.envelopeFor request.domain.envelope = .ok box →
      ∀ bands, d.bandsFor request.range.head? = .ok bands →
      ∀ grid, d.gridFor box request.domain.grid = .ok grid →
      ¬ GridGeometry.TooLarge settings.maxOutputValues (grid.cells 0) (grid.cells 1) bands.length

end Meaning

section Single

variable {α : Type} [Scalar α] [Atlas α] {d : CoverageDescriptor α} {registry : List Encoder}
  {settings : Settings} {request : CoverageRequest α}

end Single

section Order

variable {α : Type} [Scalar α] [Atlas α] {d : CoverageDescriptor α} {registry : List Encoder}
  {settings : Settings} {request request' : CoverageRequest α}

end Order

section First

variable {α : Type} [Scalar α] [Atlas α] {d : CoverageDescriptor α} {registry : List Encoder}
  {settings : Settings} {request request' : CoverageRequest α} {c : Check}

section Small

open scoped Geographic

end Small

end First

end Check

end GeoRaster
