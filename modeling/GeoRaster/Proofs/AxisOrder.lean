import GeoRaster.Envelope.BoundingBox
import GeoRaster.Proofs.Answer
import Mathlib.Data.List.TakeWhile

namespace GeoRaster

theorem mem_dropWhile {p : Char → Bool} {c : Char} (hc : p c = false) {cs : List Char}
    (h : c ∈ cs) : c ∈ cs.dropWhile p := by
  rw [← List.takeWhile_append_dropWhile (p := p) (l := cs), List.mem_append] at h
  refine h.resolve_left fun hmem => ?_
  exact absurd (List.mem_takeWhile_imp hmem) (by simp [hc])

namespace Text

theorem segments_of_notMem {separator : Char} {cs : List Char} (h : separator ∉ cs) :
    segments separator cs = [cs] := by
  induction cs with
  | nil => rfl
  | cons c cs ih =>
    obtain ⟨hc, hcs⟩ := not_or.mp (mt List.mem_cons.mpr h)
    rw [segments, if_neg (Ne.symm hc), ih hcs]

theorem segments_append {separator : Char} {cs rest : List Char} (h : separator ∉ cs) :
    segments separator (cs ++ separator :: rest) = cs :: segments separator rest := by
  induction cs with
  | nil => rw [List.nil_append, segments, if_pos rfl]
  | cons c cs ih =>
    obtain ⟨hc, hcs⟩ := not_or.mp (mt List.mem_cons.mpr h)
    rw [List.cons_append, segments, if_neg (Ne.symm hc), ih hcs]

theorem segments_intercalate {separator : Char} {parts : List (List Char)} (hne : parts ≠ [])
    (h : ∀ cs ∈ parts, separator ∉ cs) :
    segments separator ([separator].intercalate parts) = parts := by
  induction parts with
  | nil => exact absurd rfl hne
  | cons cs parts ih =>
    obtain ⟨hcs, hparts⟩ := List.forall_mem_cons.mp h
    cases parts with
    | nil =>
      rw [List.intercalate_singleton]
      exact segments_of_notMem hcs
    | cons cs' parts =>
      rw [List.intercalate_cons_cons, List.append_assoc, List.singleton_append,
        segments_append hcs, ih (by simp) hparts]

theorem mem_trimList {c : Char} (hc : isBlank c = false) {cs : List Char} (h : c ∈ cs) :
    c ∈ trimList cs := by
  have hfront := mem_dropWhile hc h
  have hback := mem_dropWhile hc (List.mem_reverse.mpr hfront)
  exact List.mem_reverse.mpr hback

end Text

namespace Decimal

theorem mem_takeSign {cs : List Char} (h : ',' ∈ cs) : ',' ∈ (takeSign cs).2 := by
  unfold takeSign
  split
  · exact (List.mem_cons.mp h).resolve_left (by decide)
  · exact (List.mem_cons.mp h).resolve_left (by decide)
  · exact h

theorem isWord_eq_false {word : String} (hw : ',' ∉ word.toList) {cs : List Char} (h : ',' ∈ cs) :
    isWord word cs = false := by
  rw [isWord, beq_eq_false_iff_ne]
  intro heq
  apply hw
  rw [← heq]
  exact List.mem_map.mpr ⟨',', h, rfl⟩

theorem readExponent?_eq_none {cs : List Char} (h : ',' ∈ cs) : readExponent? cs = none := by
  cases cs with
  | nil => exact absurd h (by simp)
  | cons c cs =>
    rw [readExponent?]
    split
    -- behind the mark of an exponent the comma stays among what should be digits
    · rename_i hc
      have hcs : ',' ∈ cs := (List.mem_cons.mp h).resolve_left (by rintro rfl; simp at hc)
      have hdigits : (takeSign cs).2.all Char.isDigit = false :=
        List.all_eq_false.mpr ⟨',', mem_takeSign hcs, by decide⟩
      simp [hdigits]
    · rfl

theorem readUnsigned?_eq_none {negative : Bool} {cs : List Char} (h : ',' ∈ cs) :
    readUnsigned? negative cs = none := by
  have hrest := mem_dropWhile (p := Char.isDigit) (by decide) h
  rw [readUnsigned?, spanDigits]
  cases hpoint : cs.dropWhile Char.isDigit with
  | nil => exact absurd hrest (by simp [hpoint])
  | cons c r =>
    rw [hpoint] at hrest
    by_cases hc : c = '.'
    · subst hc
      have hr : ',' ∈ r := (List.mem_cons.mp hrest).resolve_left (by decide)
      simp [spanDigits, readExponent?_eq_none (mem_dropWhile (p := Char.isDigit) (by decide) hr)]
    · simp [hc, readExponent?_eq_none hrest]

theorem Written.read?_eq_none {cs : List Char} (h : ',' ∈ cs) : Written.read? cs = none := by
  have hrest := mem_takeSign h
  simp only [Written.read?]
  rw [isWord_eq_false (by decide) hrest, isWord_eq_false (by decide) hrest,
    isWord_eq_false (by decide) hrest, readUnsigned?_eq_none hrest]
  rfl

end Decimal

theorem Scalar.comma_notMem {α : Type} [Scalar α] {text : List Char} {x : α}
    (h : Scalar.read? (Text.trimList text) = some x) : ',' ∉ text := by
  intro hmem
  rw [Scalar.read?, Decimal.Written.read?_eq_none (Text.mem_trimList (by decide) hmem)] at h
  exact absurd h (by simp)

namespace Crs

theorem ofIdentifier?_short {code : Code} (hg : code.isGeographic = true) :
    ofIdentifier? (Text.trim ("EPSG:" ++ toString code.epsg)) = some (ofCode code) := by
  cases code with
  | wgs84 => decide +kernel
  | nad83 => decide +kernel
  | _ => exact absurd hg (by decide)

theorem ofIdentifier?_registry {code : Code} (hg : code.isGeographic = true) :
    ofIdentifier? (Text.trim ("urn:ogc:def:crs:EPSG::" ++ toString code.epsg)) =
      some (inRegistryOrder code) := by
  cases code with
  | wgs84 => decide +kernel
  | nad83 => decide +kernel
  | _ => exact absurd hg (by decide)

theorem comma_notMem {code : Code} (hg : code.isGeographic = true) :
    ',' ∉ ("EPSG:" ++ toString code.epsg).toList ∧
      ',' ∉ ("urn:ogc:def:crs:EPSG::" ++ toString code.epsg).toList := by
  cases code with
  | wgs84 => decide +kernel
  | nad83 => decide +kernel
  | _ => exact absurd hg (by decide)

end Crs

namespace Envelope

variable {α : Type} {b : Bounds α} {c c' : Crs}

@[simp]
theorem dimension_ofBounds (b : Bounds α) (crs : Option Crs) : (ofBounds b crs).dimension = 2 := by
  rw [ofBounds]
  split <;> rfl

variable [Scalar α]

@[simp]
theorem bounds_ofBounds (b : Bounds α) (c : Crs) : (ofBounds b (some c)).bounds = b := by
  obtain ⟨code, order⟩ := c
  cases order <;> rfl

theorem eastingFirst_ofBounds (hc : c.code = c'.code) :
    (ofBounds b (some c)).eastingFirst = (ofBounds b (some c')).eastingFirst := by
  obtain ⟨code, order⟩ := c
  obtain ⟨code', order'⟩ := c'
  obtain rfl : code = code' := hc
  cases order <;> cases order' <;> rfl

theorem isFinite_ofBounds (b : Bounds α) (c : Crs) :
    (ofBounds b (some c)).isFinite = (ofBounds b none).isFinite := by
  obtain ⟨code, order⟩ := c
  cases order with
  | eastingFirst => rfl
  | northingFirst =>
    simp [ofBounds, ofCorners, isFinite, Bool.and_comm]

theorem transform_ofBounds [Atlas α] (hc : c.code = c'.code) (target : Crs) :
    (ofBounds b (some c)).transform target = (ofBounds b (some c')).transform target := by
  simp only [transform, dimension_ofBounds, ofBounds_crs, bounds_ofBounds, hc]

theorem unwrapEast_ofBounds {code : Crs.Code} (hg : code.isGeographic = true) (order : AxisOrder)
    (b : Bounds α) (reference : Option (Envelope α)) :
    (ofBounds b (some ⟨code, order⟩)).unwrapEast reference =
      let x := (⟨b.minX, b.maxX⟩ : Interval α).unwrap (Crs.eastAxis code).range
        (reference.map fun r => r.easting.max)
      ofBounds ⟨x.min, b.minY, x.max, b.maxY⟩ (some ⟨code, order⟩) := by
  cases order with
  | eastingFirst =>
    simp [unwrapEast, Crs.isGeographic, hg, ofBounds, ofCorners, Crs.axes, Crs.eastAxis,
      Crs.northAxis]
  | northingFirst =>
    simp [unwrapEast, Crs.isGeographic, hg, ofBounds, ofCorners, Crs.axes, Crs.eastAxis,
      Crs.northAxis]

theorem exists_unwrapEast_ofBounds (code : Crs.Code) (b : Bounds α)
    (reference : Option (Envelope α)) :
    ∃ b' : Bounds α, ∀ order : AxisOrder,
      (ofBounds b (some ⟨code, order⟩)).unwrapEast reference =
        ofBounds b' (some ⟨code, order⟩) := by
  by_cases hg : code.isGeographic = true
  · exact ⟨_, fun order => unwrapEast_ofBounds hg order b reference⟩
  · refine ⟨b, fun order => ?_⟩
    simp [unwrapEast, Crs.isGeographic, hg]

theorem ofBoundingBox_intercalate {a b c d name : String} {w x y z : α} {crs : Crs}
    (ha : Scalar.read? (Text.trimList a.toList) = some w)
    (hb : Scalar.read? (Text.trimList b.toList) = some x)
    (hc : Scalar.read? (Text.trimList c.toList) = some y)
    (hd : Scalar.read? (Text.trimList d.toList) = some z)
    (hname : ',' ∉ name.toList) (hcrs : Crs.ofIdentifier? (Text.trim name) = some crs)
    (default : Option Crs) :
    ofBoundingBox (",".intercalate [a, b, c, d, name]) default =
      .ok (ofCorners (w, x) (y, z) (some crs)) := by
  have hparts : Text.segments ',' (",".intercalate [a, b, c, d, name]).toList =
      [a.toList, b.toList, c.toList, d.toList, name.toList] := by
    have hcomma : ",".toList = [','] := rfl
    rw [String.toList_intercalate, hcomma, Text.segments_intercalate (by simp)]
    · rfl
    · simp only [List.map_cons, List.map_nil, List.forall_mem_cons]
      exact ⟨Scalar.comma_notMem ha, Scalar.comma_notMem hb, Scalar.comma_notMem hc,
        Scalar.comma_notMem hd, hname, by simp⟩
  rw [Text.trim] at hcrs
  rw [ofBoundingBox, hparts]
  simp [readBound, readBoxCrs, ha, hb, hc, hd, hcrs, bind, Except.bind, pure, Except.pure]

end Envelope

def CoverageRequest.withEnvelope {α : Type} (request : CoverageRequest α) (e : Envelope α) :
    CoverageRequest α :=
  { request with domain := { request.domain with envelope := some e } }

namespace CoverageDescriptor

variable {α : Type} [Scalar α] [Atlas α]

section Resolved

variable {d : CoverageDescriptor α} {b : Bounds α} {c c' : Crs}

theorem referenceIn_congr (hc : c.code = c'.code) : d.referenceIn c = d.referenceIn c' := by
  simp only [referenceIn, Envelope.transform]
  by_cases hd : d.nativeEnvelope.dimension ≠ 2
  · simp [hd]
  · simp only [if_neg hd]
    cases d.nativeEnvelope.crs with
    | none => rfl
    | some source =>
      simp only [hc]
      cases Envelope.transformBounds (.between source.code c'.code) d.nativeEnvelope.bounds with
      | error f => rfl
      | ok b => exact congrArg some (Envelope.eastingFirst_ofBounds hc)

/-- A box is resolved the same in both axis orders. -/
theorem resolveEnvelope_ofBounds (hc : c.code = c'.code) :
    d.resolveEnvelope (.ofBounds b (some c)) = d.resolveEnvelope (.ofBounds b (some c')) := by
  obtain ⟨code, order⟩ := c
  obtain ⟨code', order'⟩ := c'
  obtain rfl : code = code' := hc
  have hcode : (⟨code, order'⟩ : Crs).code = (⟨code, order⟩ : Crs).code := rfl
  -- what the antimeridian is crossed against does not depend on the order
  have hreference : d.referenceIn ⟨code, order'⟩ = d.referenceIn ⟨code, order⟩ :=
    referenceIn_congr hcode
  obtain ⟨b', hb'⟩ := Envelope.exists_unwrapEast_ofBounds code b (d.referenceIn ⟨code, order⟩)
  have htransform : ∀ (b : Bounds α) (target : Crs),
      (Envelope.ofBounds b (some ⟨code, order'⟩)).transform target =
        (Envelope.ofBounds b (some ⟨code, order⟩)).transform target :=
    fun _ _ => Envelope.transform_ofBounds hcode _
  have hself : ∀ order : AxisOrder,
      ({ Envelope.ofBounds b (some ⟨code, order⟩) with crs := some ⟨code, order⟩ } : Envelope α) =
        Envelope.ofBounds b (some ⟨code, order⟩) := by
    intro order
    cases order <;> rfl
  simp only [resolveEnvelope, Envelope.dimension_ofBounds, Envelope.isFinite_ofBounds,
    Envelope.ofBounds_crs, Option.getD_some, hself, Crs.isGeographic]
  by_cases hg : code.isGeographic = true
  · simp only [hg, if_true, hreference, hb', htransform]
  · simp only [hg, Bool.false_eq_true, if_false, htransform]

theorem validate_ofBounds (hc : c.code = c'.code) (registry : List Encoder) (settings : Settings)
    (request : CoverageRequest α) :
    d.validate registry settings (request.withEnvelope (.ofBounds b (some c))) =
      d.validate registry settings (request.withEnvelope (.ofBounds b (some c'))) := by
  simp only [validate, envelopeFor, CoverageRequest.withEnvelope, resolveEnvelope_ofBounds hc]

end Resolved

/-- Longitudes and latitudes in either order, each under the name of its order, are one box, whether
or not the longitudes are inverted: they are resolved alike, and give one query or one error. -/
theorem validate_either_order {n : ℕ} (hn : n = 4326 ∨ n = 4269) {a b c d : String} {w x y z : α}
    (ha : Scalar.read? (Text.trimList a.toList) = some w)
    (hb : Scalar.read? (Text.trimList b.toList) = some x)
    (hc : Scalar.read? (Text.trimList c.toList) = some y)
    (hd : Scalar.read? (Text.trimList d.toList) = some z) (default default' : Option Crs) :
    ∃ e e' : Envelope α,
      Envelope.ofBoundingBox (",".intercalate [a, b, c, d, "EPSG:" ++ toString n]) default =
        .ok e ∧
      Envelope.ofBoundingBox
        (",".intercalate [b, a, d, c, "urn:ogc:def:crs:EPSG::" ++ toString n]) default' = .ok e' ∧
      e.bounds = ⟨w, x, y, z⟩ ∧ e.eastingFirst = e'.eastingFirst ∧
      ∀ coverage : CoverageDescriptor α,
        coverage.resolveEnvelope e = coverage.resolveEnvelope e' ∧
          ∀ registry settings (request : CoverageRequest α),
            coverage.validate registry settings (request.withEnvelope e) =
              coverage.validate registry settings (request.withEnvelope e') := by
  obtain ⟨code, hg, rfl⟩ : ∃ code : Crs.Code, code.isGeographic = true ∧ n = code.epsg := by
    obtain rfl | rfl := hn
    · exact ⟨.wgs84, rfl, rfl⟩
    · exact ⟨.nad83, rfl, rfl⟩
  obtain ⟨hshort, hregistry⟩ := Crs.comma_notMem hg
  have hcode : (Crs.ofCode code).code = (Crs.inRegistryOrder code).code := rfl
  have hswap : (Envelope.ofCorners (x, w) (z, y) (some (.inRegistryOrder code)) : Envelope α) =
      .ofBounds ⟨w, x, y, z⟩ (some (.inRegistryOrder code)) := by
    simp [Envelope.ofBounds, Crs.inRegistryOrder, Crs.Code.registryOrder, hg]
  refine ⟨.ofBounds ⟨w, x, y, z⟩ (some (.ofCode code)),
    .ofBounds ⟨w, x, y, z⟩ (some (.inRegistryOrder code)),
    Envelope.ofBoundingBox_intercalate ha hb hc hd hshort (Crs.ofIdentifier?_short hg) _, ?_,
    Envelope.bounds_ofBounds .., Envelope.eastingFirst_ofBounds hcode, fun coverage => ?_⟩
  · rw [← hswap]
    exact Envelope.ofBoundingBox_intercalate hb ha hd hc hregistry (Crs.ofIdentifier?_registry hg) _
  · exact ⟨resolveEnvelope_ofBounds hcode, fun registry settings request =>
      validate_ofBounds hcode registry settings request⟩

section Small

open scoped Geographic

/-- A box across the antimeridian. -/
theorem validate_either_order_inverted :
    Scalar.read? (Text.trimList "175".toList) = some (Exact.finite 175) ∧
      Scalar.read? (Text.trimList "-5".toList) = some (Exact.finite (-5)) ∧
      Scalar.read? (Text.trimList "-175".toList) = some (Exact.finite (-175)) ∧
      Scalar.read? (Text.trimList "5".toList) = some (Exact.finite 5) ∧
      ∃ e e' : Envelope Exact,
        Envelope.ofBoundingBox "175,-5,-175,5,EPSG:4326" none = .ok e ∧
        Envelope.ofBoundingBox "-5,175,5,-175,urn:ogc:def:crs:EPSG::4326" none = .ok e' ∧
        (small ["a"]).resolveEnvelope e = (small ["a"]).resolveEnvelope e' ∧
        ∃ box, (small ["a"]).resolveEnvelope e = .ok box := by
  have hwest : Scalar.read? (Text.trimList "175".toList) = some (Exact.finite 175) := by
    decide +kernel
  have hsouth : Scalar.read? (Text.trimList "-5".toList) = some (Exact.finite (-5)) := by
    decide +kernel
  have heast : Scalar.read? (Text.trimList "-175".toList) = some (Exact.finite (-175)) := by
    decide +kernel
  have hnorth : Scalar.read? (Text.trimList "5".toList) = some (Exact.finite 5) := by
    decide +kernel
  obtain ⟨e, e', he, he', -, -, hsame⟩ :=
    validate_either_order (.inl rfl) hwest hsouth heast hnorth none none
  have he : Envelope.ofBoundingBox "175,-5,-175,5,EPSG:4326" none = .ok e := he
  have hresolved : (Envelope.ofBoundingBox "175,-5,-175,5,EPSG:4326" none).toOption.any
      (fun e : Envelope Exact => ((small ["a"]).resolveEnvelope e).isOk) = true := by
    decide +kernel
  rw [he] at hresolved
  refine ⟨hwest, hsouth, heast, hnorth, e, e', he, he', (hsame _).1, ?_⟩
  cases hbox : (small ["a"] : CoverageDescriptor Exact).resolveEnvelope e with
  | ok box => exact ⟨box, rfl⟩
  | error f => exact absurd hresolved (by simp [Except.toOption, hbox, Except.isOk, Except.toBool])

end Small

end CoverageDescriptor

end GeoRaster
