import GeoRaster.Coverage.Document
import GeoRaster.Coverage.Example
import GeoRaster.Proofs.Planning
import GeoRaster.Proofs.Records
import GeoRaster.Scalar.Exact

namespace GeoRaster

namespace Crs

/-- A system as the library makes them: from its code, or from a name. -/
def IsNamed (c : Crs) : Prop :=
  (∃ code, c = ofCode code) ∨ (∃ code, c = inRegistryOrder code) ∨ ∃ s, ofIdentifier? s = some c

theorem NumberedForm.system_cases (f : NumberedForm) (code : Code) :
    f.system code = ofCode code ∨ f.system code = inRegistryOrder code := by
  rw [NumberedForm.system]
  split
  · exact .inr rfl
  · exact .inl rfl

theorem ofIdentifier?_cases {s : String} {c : Crs} (h : ofIdentifier? s = some c) :
    ∃ code, c = ofCode code ∨ c = inRegistryOrder code := by
  rw [ofIdentifier?, ofLowerName?] at h
  split at h
  · exact ⟨.wgs84, .inl (Option.some.inj h).symm⟩
  · simp only [Option.bind_eq_bind, Option.bind_eq_some_iff] at h
    obtain ⟨⟨form, number⟩, -, n, -, code, -, hc⟩ := h
    exact ⟨code, (Option.some.inj hc) ▸ form.system_cases code⟩

theorem IsNamed.cases {c : Crs} (h : c.IsNamed) :
    ∃ code, c = ofCode code ∨ c = inRegistryOrder code := by
  obtain ⟨code, hc⟩ | ⟨code, hc⟩ | ⟨s, hs⟩ := h
  · exact ⟨code, .inl hc⟩
  · exact ⟨code, .inr hc⟩
  · exact ofIdentifier?_cases hs

theorem ofIdentifier?_identifier {c : Crs} (h : c.IsNamed) :
    ofIdentifier? c.identifier = some c := by
  obtain ⟨code, rfl | rfl⟩ := h.cases <;> cases code <;> decide +kernel

theorem ofDocument?_toDocument {α : Type} {c : Crs} (h : c.IsNamed) :
    ofDocument? (toDocument c : Json α) = some c := by
  rw [ofDocument?, toDocument, Json.string?, Option.bind_eq_bind, Option.bind_some,
    ofIdentifier?_identifier h]

end Crs

section WithoutNumbers

open Json Json.Fields

variable {α : Type}

theorem GridRange.ofDocument?_toDocument (r : GridRange) :
    ofDocument? (toDocument r : Json α) = some r := by
  have hindices : ∀ is : List Int64, list? int64? (indices is : Json α) = some is :=
    fun is => list?_map fun i _ => int64?_integer i
  rw [ofDocument?, toDocument, fields?_object (by simp)]
  simp [List.lookup_cons, required, hindices]

theorem AxisSelection.ofDocument?_toDocument (s : AxisSelection) :
    ofDocument? (toDocument s : Json α) = some s := by
  cases s with
  | values names => simp [ofDocument?, toDocument, strings?_ofStrings]
  | interval min max step =>
    simp only [ofDocument?, toDocument, if_true]
    rw [intervalOfDocument?, fields?_object (by simp)]
    simp [List.lookup_cons, required, free, defaulted, string?, nullable_ofOption_string]

theorem AxisSubset.ofDocument?_toDocument (s : AxisSubset) :
    ofDocument? (toDocument s : Json α) = some s := by
  rw [ofDocument?, toDocument, fields?_object (by simp)]
  simp [List.lookup_cons, required, string?, AxisSelection.ofDocument?_toDocument]

theorem AxisSubset.listOfDocument?_listToDocument (axes : List AxisSubset) :
    listOfDocument? (listToDocument axes : Json α) = some axes := by
  have haxes : list? (α := α) ofDocument? (.array (axes.map toDocument)) = some axes :=
    list?_map fun s _ => ofDocument?_toDocument s
  rw [listOfDocument?, listToDocument, fields?_object (by simp)]
  simp [List.lookup_cons, defaulted, haxes]

theorem OutputSpec.ofDocument?_toDocument (o : OutputSpec) :
    ofDocument? (toDocument o : Json α) = some o := by
  rw [ofDocument?, toDocument, fields?_object (by simp)]
  simp [List.lookup_cons, required, free, defaulted, string?, nullable_ofOption_string]

theorem AxisSelection.readsNullAsAbsent :
    ReadsNullAsAbsent (fun d : Json α => AxisSelection.ofDocument? (.object [("interval", d)]))
      ["min", "max", "step"] "step" :=
  Json.readsNullAsAbsent (i := 2) (fun _ => rfl) (by simp) rfl fun _ f f' h => by
    simp [h.required, h.free]

theorem OutputSpec.readsNullAsAbsent :
    ReadsNullAsAbsent (ofDocument? (α := α)) ["format", "crs"] "crs" :=
  Json.readsNullAsAbsent (i := 1) (fun _ => rfl) (by simp) rfl fun _ f f' h => by
    simp [h.required, h.free]

end WithoutNumbers

variable {α : Type} [Scalar α]

def Interval.IsWritable (a : Interval α) : Prop :=
  Scalar.isFinite a.min = true ∧ Scalar.isFinite a.max = true

def Envelope.IsWritable (e : Envelope α) : Prop :=
  (∀ a ∈ e.axes, a.IsWritable) ∧ ∀ c ∈ e.crs, c.IsNamed

structure Affine.IsWritable (t : Affine α) : Prop where
  scaleX : Scalar.isFinite t.scaleX = true
  shearX : Scalar.isFinite t.shearX = true
  translateX : Scalar.isFinite t.translateX = true
  shearY : Scalar.isFinite t.shearY = true
  scaleY : Scalar.isFinite t.scaleY = true
  translateY : Scalar.isFinite t.translateY = true

def GridGeometry.IsWritable (g : GridGeometry α) : Prop :=
  g.transform.IsWritable ∧ ∀ c ∈ g.crs, c.IsNamed

def RequestGrid.IsWritable (g : RequestGrid α) : Prop :=
  (∀ p ∈ g.origin, Scalar.isFinite p.1 = true ∧ Scalar.isFinite p.2 = true) ∧
    ∀ p ∈ g.offsets, Scalar.isFinite p.1 = true ∧ Scalar.isFinite p.2 = true

def CoverageRequest.IsWritable (r : CoverageRequest α) : Prop :=
  (∀ e ∈ r.domain.envelope, e.IsWritable) ∧ ∀ g ∈ r.domain.grid, g.IsWritable

structure CoverageDescriptor.IsWritable (c : CoverageDescriptor α) : Prop where
  nativeEnvelope : c.nativeEnvelope.IsWritable
  nativeCrs : c.nativeCrs.IsNamed
  gridGeometry : c.gridGeometry.IsWritable
  noData : ∀ b ∈ c.bands, ∀ x ∈ b.noData, Scalar.isFinite x = true

section Written

open Json Json.Fields

theorem Interval.ofDocument?_toDocument {a : Interval α} (h : a.IsWritable) :
    ofDocument? a.toDocument = some a := by
  rw [ofDocument?, toDocument, fields?_object (by simp)]
  simp [List.lookup_cons, required, real?_ofScalar h.1, real?_ofScalar h.2]

theorem Envelope.ofDocument?_toDocument {e : Envelope α} (h : e.IsWritable) :
    ofDocument? e.toDocument = some e := by
  have haxes := list?_map fun a ha => Interval.ofDocument?_toDocument (h.1 a ha)
  have hcrs : nullable (α := α) Crs.ofDocument? (ofOption Crs.toDocument e.crs) = some e.crs :=
    nullable_ofOption rfl fun c hc => Crs.ofDocument?_toDocument (h.2 c hc)
  obtain ⟨axes, _ | c⟩ := e
  · rw [ofDocument?, toDocument, fields?_object (by simp)]
    simp [List.lookup_cons, required, defaulted, haxes]
  · rw [ofOption] at hcrs
    rw [ofDocument?, toDocument, fields?_object (by simp)]
    simp [List.lookup_cons, required, defaulted, haxes, hcrs]

theorem Affine.ofDocument?_toDocument {t : Affine α} (h : t.IsWritable) :
    ofDocument? t.toDocument = some t := by
  rw [ofDocument?, toDocument, fieldNames, fields?_object (by simp)]
  simp [List.lookup_cons, required, real?_ofScalar, h.scaleX, h.shearX, h.translateX,
    h.shearY, h.scaleY, h.translateY]

theorem GridGeometry.ofDocument?_toDocument {g : GridGeometry α} (h : g.IsWritable) :
    ofDocument? g.toDocument = some g := by
  have hcrs : nullable (α := α) Crs.ofDocument? (ofOption Crs.toDocument g.crs) = some g.crs :=
    nullable_ofOption rfl fun c hc => Crs.ofDocument?_toDocument (h.2 c hc)
  rw [ofDocument?, toDocument, fields?_object (by simp)]
  simp [List.lookup_cons, required, defaulted, GridRange.ofDocument?_toDocument,
    Affine.ofDocument?_toDocument h.1, hcrs, ofRange, g.planar, Except.toOption]

theorem RequestGrid.ofDocument?_toDocument {g : RequestGrid α} (h : g.IsWritable) :
    ofDocument? g.toDocument = some g := by
  have hpair : ∀ p : α × α, Scalar.isFinite p.1 = true ∧ Scalar.isFinite p.2 = true →
      pair? real? (pair p) = some p := fun p hp => by
    simp [pair?, pair, real?_ofScalar hp.1, real?_ofScalar hp.2]
  have hrange : nullable (α := α) GridRange.ofDocument? (ofOption GridRange.toDocument g.range) =
      some g.range := nullable_ofOption rfl fun r _ => GridRange.ofDocument?_toDocument r
  have horigin : nullable (pair? real?) (ofOption pair g.origin) = some g.origin :=
    nullable_ofOption rfl fun p hp => hpair p (h.1 p hp)
  have hoffsets : nullable (pair? real?) (ofOption pair g.offsets) = some g.offsets :=
    nullable_ofOption rfl fun p hp => hpair p (h.2 p hp)
  rw [ofDocument?, toDocument, fields?_object (by simp)]
  simp [List.lookup_cons, free, defaulted, hrange, horigin, hoffsets]

theorem DomainSubset.ofDocument?_toDocument {s : DomainSubset α}
    (henvelope : ∀ e ∈ s.envelope, e.IsWritable) (hgrid : ∀ g ∈ s.grid, g.IsWritable) :
    ofDocument? s.toDocument = some s := by
  have henvelope : nullable Envelope.ofDocument? (ofOption Envelope.toDocument s.envelope) =
      some s.envelope :=
    nullable_ofOption rfl fun e he => Envelope.ofDocument?_toDocument (henvelope e he)
  have hgrid : nullable RequestGrid.ofDocument? (ofOption RequestGrid.toDocument s.grid) =
      some s.grid :=
    nullable_ofOption rfl fun g hg => RequestGrid.ofDocument?_toDocument (hgrid g hg)
  rw [ofDocument?, toDocument, fields?_object (by simp)]
  simp [List.lookup_cons, free, defaulted, henvelope, hgrid]

theorem CoverageRequest.ofDocument?_toDocument {r : CoverageRequest α} (h : r.IsWritable) :
    ofDocument? r.toDocument = some r := by
  rw [ofDocument?, toDocument, fields?_object (by simp)]
  simp [List.lookup_cons, required, free, defaulted, string?, nullable_ofOption_string,
    DomainSubset.ofDocument?_toDocument h.1 h.2, AxisSubset.listOfDocument?_listToDocument,
    OutputSpec.ofDocument?_toDocument]

theorem BandDefinition.ofDocument?_toDocument {b : BandDefinition α}
    (h : ∀ x ∈ b.noData, Scalar.isFinite x = true) : ofDocument? b.toDocument = some b := by
  have hnoData := list?_map fun x hx => real?_ofScalar (h x hx)
  rw [ofDocument?, toDocument, fields?_object (by simp)]
  simp [List.lookup_cons, required, defaulted, string?, hnoData]

theorem CoverageDescriptor.ofDocument?_toDocument {c : CoverageDescriptor α} (h : c.IsWritable) :
    ofDocument? c.toDocument = some c := by
  obtain ⟨f, hf, hget⟩ : ∃ f, fields? fieldNames c.toDocument = some f ∧ ∀ i, f.get? i =
      ([some (.string c.id), some (.string c.title), some c.nativeEnvelope.toDocument,
        some c.nativeCrs.toDocument, some c.gridGeometry.toDocument,
        some (.array (c.bands.map BandDefinition.toDocument)), some (.ofStrings c.requestCrs),
        some (.ofStrings c.responseCrs), some (.ofStrings c.supportedFormats),
        some (.ofOption .string c.nativeFormat), some (.ofStrings c.interpolationMethods),
        some (.ofOption .string c.defaultInterpolation)][i]?).join := by
    rw [toDocument, fieldNames, fields?_object (by simp)]
    simp only [List.lookup_cons, List.map_cons, List.map_nil, BEq.rfl, String.reduceBEq]
    exact ⟨_, rfl, fun _ => rfl⟩
  have hid : f.required 0 string? = some c.id := required_of (hget 0) rfl
  have htitle : f.required 1 string? = some c.title := required_of (hget 1) rfl
  have henvelope : f.required 2 Envelope.ofDocument? = some c.nativeEnvelope :=
    required_of (hget 2) (Envelope.ofDocument?_toDocument h.nativeEnvelope)
  have hcrs : f.required 3 Crs.ofDocument? = some c.nativeCrs :=
    required_of (hget 3) (Crs.ofDocument?_toDocument h.nativeCrs)
  have hgrid : f.required 4 GridGeometry.ofDocument? = some c.gridGeometry :=
    required_of (hget 4) (GridGeometry.ofDocument?_toDocument h.gridGeometry)
  have hbands : f.required 5 (list? BandDefinition.ofDocument?) = some c.bands :=
    required_of (hget 5)
      (list?_map fun b hb => BandDefinition.ofDocument?_toDocument (h.noData b hb))
  have hrequest : f.required 6 strings? = some c.requestCrs :=
    required_of (hget 6) (strings?_ofStrings _)
  have hresponse : f.required 7 strings? = some c.responseCrs :=
    required_of (hget 7) (strings?_ofStrings _)
  have hformats : f.required 8 strings? = some c.supportedFormats :=
    required_of (hget 8) (strings?_ofStrings _)
  have hnative : f.optional 9 string? = some c.nativeFormat :=
    optional_of (hget 9) (nullable_ofOption_string _)
  have hmethods : f.required 10 strings? = some c.interpolationMethods :=
    required_of (hget 10) (strings?_ofStrings _)
  have hdefault : f.optional 11 string? = some c.defaultInterpolation :=
    optional_of (hget 11) (nullable_ofOption_string _)
  rw [ofDocument?, hf, Option.bind_eq_bind, Option.bind_some, hid, htitle, henvelope, hcrs, hgrid,
    hbands, hrequest, hresponse, hformats, hnative, hmethods, hdefault]
  rfl

end Written

section Optional

open Json

/-- Where a record may leave a field out or write `null`, its reader makes no difference. The last
field of a description may be left out of an object only. -/
structure ReadsNullsAsAbsent (α : Type) [Scalar α] : Prop where
  envelope : ReadsNullAsAbsent (Envelope.ofDocument? (α := α)) ["axes", "crs"] "crs"
  gridGeometry :
    ReadsNullAsAbsent (GridGeometry.ofDocument? (α := α)) ["range", "transform", "crs"] "crs"
  requestGrid : ∀ name ∈ ["range", "origin", "offsets"],
    ReadsNullAsAbsent (RequestGrid.ofDocument? (α := α)) ["range", "origin", "offsets"] name
  domain : ∀ name ∈ ["envelope", "grid"],
    ReadsNullAsAbsent (DomainSubset.ofDocument? (α := α)) ["envelope", "grid"] name
  interval : ReadsNullAsAbsent
    (fun d : Json α => AxisSelection.ofDocument? (.object [("interval", d)]))
    ["min", "max", "step"] "step"
  output : ReadsNullAsAbsent (OutputSpec.ofDocument? (α := α)) ["format", "crs"] "crs"
  request : ReadsNullAsAbsent (CoverageRequest.ofDocument? (α := α))
    ["coverage_id", "domain_subset", "range_subset", "interpolation", "output"] "interpolation"
  nativeFormat : ReadsNullAsAbsent (CoverageDescriptor.ofDocument? (α := α))
    CoverageDescriptor.fieldNames "native_format"
  defaultInterpolation :
    ReadsNullMemberAsAbsent (CoverageDescriptor.ofDocument? (α := α)) "default_interpolation"

theorem Envelope.readsNullAsAbsent :
    ReadsNullAsAbsent (ofDocument? (α := α)) ["axes", "crs"] "crs" :=
  Json.readsNullAsAbsent (i := 1) (fun _ => rfl) (by simp) rfl fun _ f f' h => by
    simp [h.required, h.defaulted_nullable]

theorem GridGeometry.readsNullAsAbsent :
    ReadsNullAsAbsent (ofDocument? (α := α)) ["range", "transform", "crs"] "crs" :=
  Json.readsNullAsAbsent (i := 2) (fun _ => rfl) (by simp) rfl fun _ f f' h => by
    simp [h.required, h.defaulted_nullable]

theorem RequestGrid.readsNullAsAbsent : ∀ name ∈ ["range", "origin", "offsets"],
    ReadsNullAsAbsent (ofDocument? (α := α)) ["range", "origin", "offsets"] name := by
  intro name hname
  obtain ⟨i, hi⟩ := List.mem_iff_getElem?.mp hname
  exact Json.readsNullAsAbsent (fun _ => rfl) (by simp) hi fun _ f f' h => by simp [h.free]

theorem DomainSubset.readsNullAsAbsent : ∀ name ∈ ["envelope", "grid"],
    ReadsNullAsAbsent (ofDocument? (α := α)) ["envelope", "grid"] name := by
  intro name hname
  obtain ⟨i, hi⟩ := List.mem_iff_getElem?.mp hname
  exact Json.readsNullAsAbsent (fun _ => rfl) (by simp) hi fun _ f f' h => by simp [h.free]

theorem CoverageRequest.readsNullAsAbsent :
    ReadsNullAsAbsent (ofDocument? (α := α))
      ["coverage_id", "domain_subset", "range_subset", "interpolation", "output"]
      "interpolation" :=
  Json.readsNullAsAbsent (i := 3) (fun _ => rfl) (by simp) rfl fun _ f f' h => by
    simp [h.required, h.defaulted, h.free]

theorem CoverageDescriptor.readsNullAsAbsent :
    ReadsNullAsAbsent (ofDocument? (α := α)) fieldNames "native_format" := by
  have hnodup : fieldNames.Nodup := by simp [fieldNames]
  constructor
  · exact Json.readsNullMemberAsAbsent (i := 9) (fun _ => rfl) hnodup rfl fun f f' h => by
      simp (disch := decide) only [h.required, h.optional]
  · refine Json.readsNullItemAsAbsent (i := 9) (fun _ => rfl) hnodup rfl fun f f' h => ?_
    have hmethods : f.required 10 (strings? (α := α)) = none := h.required_rest (by decide)
    simp (disch := decide) only [h.required, hmethods, Option.bind_eq_bind, Option.bind_none,
      Option.bind_fun_none]

theorem CoverageDescriptor.readsNullMemberAsAbsent :
    ReadsNullMemberAsAbsent (ofDocument? (α := α)) "default_interpolation" :=
  Json.readsNullMemberAsAbsent (i := 11) (fun _ => rfl) (by simp [fieldNames]) rfl fun f f' h => by
    simp (disch := decide) only [h.required, h.optional]

end Optional

theorem GridRange.isPlanar_iff {r : GridRange} : r.IsPlanar ↔
    ∃ l₀ l₁ h₀ h₁, r = ⟨[l₀, l₁], [h₀, h₁]⟩ ∧ l₀ ≤ h₀ ∧ l₁ ≤ h₁ := by
  constructor
  · obtain ⟨low, high⟩ := r
    rintro ⟨hlow, hhigh, hvalid⟩
    obtain ⟨l₀, l₁, rfl⟩ := List.length_eq_two.mp hlow
    obtain ⟨h₀, h₁, rfl⟩ := List.length_eq_two.mp hhigh
    simp [isValid] at hvalid
    exact ⟨l₀, l₁, h₀, h₁, rfl, hvalid⟩
  · rintro ⟨l₀, l₁, h₀, h₁, rfl, h⟩
    exact ⟨rfl, rfl, by simpa [isValid] using h⟩

namespace GridGeometry

/-- The parts of a grid, whether or not they make one. -/
def partsOfDocument? (d : Json α) : Option (GridRange × Affine α × Option Crs) := do
  let f ← Json.fields? ["range", "transform", "crs"] d
  return (← f.required 0 GridRange.ofDocument?, ← f.required 1 Affine.ofDocument?,
    ← f.defaulted 2 none (Json.nullable Crs.ofDocument?))

theorem ofDocument?_eq_bind (d : Json α) :
    ofDocument? d = partsOfDocument? d >>= fun (range, transform, crs) =>
      (ofRange range transform crs).toOption := by
  simp [ofDocument?, partsOfDocument?, Option.bind_assoc]

theorem ofDocument?_eq_some {d : Json α} {g : GridGeometry α} :
    ofDocument? d = some g ↔ partsOfDocument? d = some (g.range, g.transform, g.crs) := by
  rw [ofDocument?_eq_bind]
  constructor
  · intro h
    obtain ⟨⟨range, transform, crs⟩, hparts, h⟩ := Option.bind_eq_some_iff.mp h
    cases hg : ofRange range transform crs with
    | error e => simp [hg, Except.toOption] at h
    | ok g' =>
      obtain rfl : g' = g := by simpa [hg, Except.toOption] using h
      obtain ⟨rfl, rfl, rfl⟩ := ofRange_ok hg
      exact hparts
  · intro h
    rw [h]
    simp [ofRange, g.planar, Except.toOption]

theorem exists_ofDocument?_iff {d : Json α} : (∃ g, ofDocument? d = some g) ↔
    ∃ l₀ l₁ h₀ h₁ t crs, partsOfDocument? d = some (⟨[l₀, l₁], [h₀, h₁]⟩, t, crs) ∧ l₀ ≤ h₀ ∧
      l₁ ≤ h₁ := by
  constructor
  · rintro ⟨g, h⟩
    obtain ⟨l₀, l₁, h₀, h₁, hrange, hle⟩ := GridRange.isPlanar_iff.mp g.planar
    exact ⟨l₀, l₁, h₀, h₁, g.transform, g.crs, hrange ▸ ofDocument?_eq_some.mp h, hle⟩
  · rintro ⟨l₀, l₁, h₀, h₁, t, crs, hparts, hle⟩
    exact ⟨⟨_, t, crs, GridRange.isPlanar_iff.mpr ⟨l₀, l₁, h₀, h₁, rfl, hle⟩⟩,
      ofDocument?_eq_some.mpr hparts⟩

end GridGeometry

/-- Requests and descriptions are read back as they were written, `null` and absence mean the same
for them, and only what makes a grid is read as one. -/
theorem documents_read_back (α : Type) [Scalar α] :
    (∀ r : CoverageRequest α, r.IsWritable → CoverageRequest.ofDocument? r.toDocument = some r) ∧
    (∀ c : CoverageDescriptor α, c.IsWritable →
      CoverageDescriptor.ofDocument? c.toDocument = some c) ∧
    ReadsNullsAsAbsent α ∧
    (∀ (d : Json α) (g : GridGeometry α), GridGeometry.ofDocument? d = some g ↔
      GridGeometry.partsOfDocument? d = some (g.range, g.transform, g.crs)) ∧
    ∀ d : Json α, (∃ g, GridGeometry.ofDocument? d = some g) ↔
      ∃ l₀ l₁ h₀ h₁ t crs, GridGeometry.partsOfDocument? d =
        some (⟨[l₀, l₁], [h₀, h₁]⟩, t, crs) ∧ l₀ ≤ h₀ ∧ l₁ ≤ h₁ := by
  refine ⟨fun r => CoverageRequest.ofDocument?_toDocument,
    fun c => CoverageDescriptor.ofDocument?_toDocument, ?_,
    fun d g => GridGeometry.ofDocument?_eq_some, fun d => GridGeometry.exists_ofDocument?_iff⟩
  exact {
    envelope := Envelope.readsNullAsAbsent
    gridGeometry := GridGeometry.readsNullAsAbsent
    requestGrid := RequestGrid.readsNullAsAbsent
    domain := DomainSubset.readsNullAsAbsent
    interval := AxisSelection.readsNullAsAbsent
    output := OutputSpec.readsNullAsAbsent
    request := CoverageRequest.readsNullAsAbsent
    nativeFormat := CoverageDescriptor.readsNullAsAbsent
    defaultInterpolation := CoverageDescriptor.readsNullMemberAsAbsent }

def CoverageRequest.full : CoverageRequest Exact where
  coverageId := "c"
  domain := {
    envelope := some ⟨[⟨.finite 1, .finite 2⟩, ⟨.finite 3, .finite 4⟩],
      some (Crs.inRegistryOrder .wgs84)⟩
    grid := some ⟨some ⟨[0, 0], [3, 3]⟩, some (.finite 0, .finite 4),
      some (.finite 1, .finite (-1))⟩ }
  range := [⟨"Band", .values ["b"]⟩, ⟨"Band", .interval "1" "3" (some "2")⟩]
  interpolation := some "bilinear"
  output := ⟨"GeoTIFF", some "EPSG:3857"⟩

theorem documents_read_back_small :
    CoverageRequest.full.IsWritable ∧
      CoverageRequest.ofDocument? CoverageRequest.full.toDocument = some CoverageRequest.full ∧
    (CoverageDescriptor.small (α := Exact) ["b"]).IsWritable ∧
      CoverageDescriptor.ofDocument? (CoverageDescriptor.small (α := Exact) ["b"]).toDocument =
        some (CoverageDescriptor.small ["b"]) := by
  have hread := documents_read_back Exact
  have hrequest : CoverageRequest.full.IsWritable := by
    simp [CoverageRequest.IsWritable, CoverageRequest.full, Envelope.IsWritable,
      Interval.IsWritable, RequestGrid.IsWritable, Crs.IsNamed, Scalar.isFinite]
  have hdescriptor : (CoverageDescriptor.small (α := Exact) ["b"]).IsWritable := {
    nativeEnvelope := by
      constructor
      · unfold Interval.IsWritable
        decide +kernel
      · exact fun c hc => .inl ⟨.wgs84, (Option.some.inj hc).symm⟩
    nativeCrs := .inl ⟨.wgs84, rfl⟩
    gridGeometry := ⟨by constructor <;> decide +kernel,
      fun c hc => .inl ⟨.wgs84, (Option.some.inj hc).symm⟩⟩
    noData := by decide }
  exact ⟨hrequest, hread.1 _ hrequest, hdescriptor, hread.2.1 _ hdescriptor⟩

def CoverageDescriptor.itemsWithoutLast : List (Json Exact) :=
  let axis : Json Exact := .object [("min", .integer 0), ("max", .integer 4)]
  let crs : Json Exact := .string "EPSG:3857"
  let range : Json Exact := .object [("low", .array [.integer 0, .integer 0]),
    ("high", .array [.integer 3, .integer 3])]
  let transform : Json Exact := .object [("scale_x", .integer 1), ("shear_x", .integer 0),
    ("translate_x", .integer 0), ("shear_y", .integer 0), ("scale_y", .integer (-1)),
    ("translate_y", .integer 4)]
  [.string "c", .string "C", .object [("axes", .array [axis, axis]), ("crs", crs)], crs,
    .object [("range", range), ("transform", transform), ("crs", crs)],
    .array [.object [("name", .string "b")]], .array [crs], .array [crs],
    .ofStrings ["GeoTIFF"], .null, .ofStrings ["nearest neighbor"]]

/-- An array has to reach the last field of a description, even if only with `null`. -/
theorem not_readsNullItemAsAbsent : ¬ Json.ReadsNullItemAsAbsent
    (CoverageDescriptor.ofDocument? (α := Exact)) CoverageDescriptor.fieldNames
      "default_interpolation" := by
  intro h
  have hshort :
      CoverageDescriptor.ofDocument? (.array CoverageDescriptor.itemsWithoutLast) = none := rfl
  have hfull : (CoverageDescriptor.ofDocument?
      (.array (CoverageDescriptor.itemsWithoutLast ++ [.null]))).isSome = true := by decide +kernel
  rw [h _ _ ⟨CoverageDescriptor.itemsWithoutLast, rfl, rfl, rfl⟩, hshort] at hfull
  exact absurd hfull (by decide)

end GeoRaster
