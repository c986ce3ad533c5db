import GeoRaster.Proofs.DocumentText
import GeoRaster.Proofs.FileRoundTrip
import GeoRaster.Proofs.Records
import GeoRaster.Sidecar

namespace GeoRaster

theorem mapM_eq_some_iff {ι κ : Type} {f : ι → Option κ} {as : List ι} {bs : List κ} :
    as.mapM f = some bs ↔ List.Forall₂ (fun a b => f a = some b) as bs := by
  induction as generalizing bs with
  | nil => simp [eq_comm]
  | cons a as ih =>
    simp only [List.mapM_cons, Option.bind_eq_bind, Option.bind_eq_some_iff, Option.pure_def,
      Option.some.injEq, List.forall₂_cons_left_iff, ih]
    constructor
    · rintro ⟨b, hb, cs, hcs, rfl⟩
      exact ⟨b, cs, hb, hcs, rfl⟩
    · rintro ⟨b, cs, hb, hcs, rfl⟩
      exact ⟨b, hb, cs, hcs, rfl⟩

section Descriptions

open Json

section Readers

variable {β : Type} [Scalar β] [Narrowing β Float32]

def Band.ofDescription? (j : Json β) : Option (String × Option Float32) := do
  let f ← fields? ["name", "no_data"] j
  let name ← f.required 0 string?
  let mark ← f.optional 1 real?
  some (name, mark.map narrow)

def RawFileEntry.withLayout? (e : RawFileEntry β Float32) (j : Json β) :
    Option (RawFileEntry β Float32) := do
  let f ← fields? ["width", "height", "bands"] j
  let width ← f.required 0 count?
  let height ← f.required 1 count?
  let bands ← f.required 2 (list? Band.ofDescription?)
  some { e with
    width := width
    height := height
    bandNames := bands.map Prod.fst
    noData := bands.map Prod.snd }

theorem withLayout?_eq (e : RawFileEntry β Float32) {j width height bands : Json β} {w h : ℕ}
    (hj : fields? ["width", "height", "bands"] j =
      some ⟨[some width, some height, some bands], false⟩)
    (hw : count? width = some w) (hh : count? height = some h) :
    e.withLayout? j = (list? Band.ofDescription? bands).map fun layout =>
      { e with
        width := w
        height := h
        bandNames := layout.map Prod.fst
        noData := layout.map Prod.snd } := by
  rw [RawFileEntry.withLayout?, hj]
  simp only [Fields.required, Fields.get?_zero, Fields.get?_succ, Option.bind_eq_bind,
    Option.bind_some, hw, hh]
  exact Option.map_eq_bind.symm

omit [Narrowing β Float32] in
theorem count?_ofInt {n : ℕ} (h : n < 2 ^ 64) : count? (ofInt n : Json β) = some n := by
  have hint : -2 ^ 63 ≤ (n : ℤ) ∧ (n : ℤ) < 2 ^ 64 := by omega
  have hcount : (0 : ℤ) ≤ n ∧ (n : ℤ) ≤ UInt64.size - 1 := by
    rw [UInt64.size]
    omega
  rw [ofInt, if_pos hint, count?, integer?, if_pos hcount]
  rfl

end Readers

variable (α β : Type) [Scalar α] [ShortestText α] [Scalar β] [Narrowing β Float32]

/-- A mark for missing samples as it comes back out of a description: it is written in one arithmetic
and read in another. -/
def rereadMark (mark : Option Float32) : Option (Option Float32) :=
  (nullable real? ((ofOption ofSample mark : Json α).reread : Json β)).map (Option.map narrow)

/-- The bands are the same but for the mark, which has taken the way through its text. -/
structure Band.RereadAs (b b' : Band Float32) : Prop where
  name_eq : b'.name = b.name
  data_eq : b'.data = b.data
  mark_eq : rereadMark α β b.noData = some b'.noData

variable {α β}

theorem rereadMark_of_not_finite {v : Float32}
    (h : Scalar.isFinite (Scalar.ofWritten (ShortestText.written v) : α) = false) :
    rereadMark α β (some v) = some none := by
  rw [rereadMark, ofOption, ofSample, ofScalar, h, if_neg Bool.false_ne_true, reread]
  rfl

/-- Of a finite mark, the decimal in the document is read. -/
theorem rereadMark_of_finite {v : Float32} {d : Decimal}
    (h : Scalar.isFinite (Scalar.ofWritten (ShortestText.written v) : α) = true)
    (hd : ShortestText.written (Scalar.ofWritten (ShortestText.written v) : α) = .finite d)
    (hread : Scalar.isFinite (Scalar.ofDecimal d.laidOut : β) = true) :
    rereadMark α β (some v) = some (some (narrow (Scalar.ofDecimal d.laidOut : β))) := by
  rw [rereadMark, ofOption, ofSample, ofScalar, if_pos h, reread, rereadNumber, hd]
  dsimp only
  rw [ofDecimal, if_pos hread]
  rfl

theorem Band.ofDescription?_reread (b : Band Float32) :
    ofDescription? ((b.toDocument : Json α).reread : Json β) =
      (rereadMark α β b.noData).map fun mark => (b.name, mark) := by
  rw [toDocument, reread, rereadMembers_eq, ofDescription?, fields?_object (by simp)]
  simp [List.lookup_cons, Fields.required, Fields.optional, reread, string?, rereadMark]
  cases nullable real? ((ofOption ofSample b.noData : Json α).reread : Json β) <;> rfl

omit [Narrowing β Float32] in
theorem fields?_sidecar (r : CoverageResult α Float32) (id : String) :
    fields? ["width", "height", "bands"] ((r.sidecar id).reread : Json β) =
      some ⟨[some (ofInt r.raster.width), some (ofInt r.raster.height),
        some (.array ((r.raster.bands.map Band.toDocument).map (reread : Json α → Json β)))],
        false⟩ := by
  rw [CoverageResult.sidecar]
  simp only [reread, rereadMembers_eq, rereadItems_eq, List.map_cons, List.map_nil]
  rw [fields?_object (by simp)]
  simp [List.lookup_cons]

theorem withLayout?_reread (e : RawFileEntry β Float32) {r : CoverageResult α Float32}
    (id : String) (hw : r.raster.width < 2 ^ 64) (hh : r.raster.height < 2 ^ 64) :
    e.withLayout? ((r.sidecar id).reread : Json β) =
      (r.raster.bands.mapM fun b => (rereadMark α β b.noData).map fun mark => (b.name, mark)).map
        fun layout => { e with
          width := r.raster.width
          height := r.raster.height
          bandNames := layout.map Prod.fst
          noData := layout.map Prod.snd } := by
  have hbands : list? Band.ofDescription? (.array ((r.raster.bands.map Band.toDocument).map
      (reread : Json α → Json β))) = r.raster.bands.mapM fun b =>
        (rereadMark α β b.noData).map fun mark => (b.name, mark) := by
    rw [list?, List.map_map, List.mapM_map]
    exact congrArg (fun f => r.raster.bands.mapM f) (funext Band.ofDescription?_reread)
  rw [withLayout?_eq e (fields?_sidecar r id) (count?_ofInt hw) (count?_ofInt hh), hbands]

section Bands

variable {e : RawFileEntry β Float32} {bands : List (Band Float32)}
  {layout : List (String × Option Float32)}

omit [Scalar β] [Narrowing β Float32] in
theorem bandRows_eq (hnames : e.bandNames = layout.map Prod.fst)
    (hmarks : e.noData = layout.map Prod.snd)
    (hsize : ∀ b ∈ bands, b.data.size = e.width * e.height) :
    e.bandRows bands ⟨0, e.height⟩ =
      List.zipWith (fun b l => ⟨l.1, b.data, l.2⟩) bands layout := by
  apply List.ext_getElem
  · simp [RawFileEntry.bandRows, hnames, Nat.min_comm]
  · intro i hi hi'
    have hband : i < bands.length := (lt_min_iff.mp (List.length_zipWith ▸ hi')).1
    have hlayout : i < layout.length := (lt_min_iff.mp (List.length_zipWith ▸ hi')).2
    have hwhole : bands[i].data.extract 0 (e.height * e.width) = bands[i].data := by
      rw [Nat.mul_comm]
      exact Array.extract_eq_self_of_le (hsize _ (List.getElem_mem hband)).le
    simp [RawFileEntry.bandRows, hnames, hmarks, List.getElem?_eq_getElem hlayout, hwhole]

theorem forall₂_rereadAs_iff {bands' : List (Band Float32)} :
    List.Forall₂ (Band.RereadAs α β) bands bands' ↔
      ∃ layout, (bands.mapM fun b => (rereadMark α β b.noData).map fun mark => (b.name, mark)) =
        some layout ∧ List.zipWith (fun b l => ⟨l.1, b.data, l.2⟩) bands layout = bands' := by
  constructor
  · intro h
    refine ⟨bands'.map fun b => (b.name, b.noData), mapM_eq_some_iff.mpr ?_, ?_⟩
    · rw [List.forall₂_map_right_iff]
      exact h.imp fun b b' hb => by rw [hb.mark_eq, hb.name_eq]; rfl
    · induction h with
      | nil => rfl
      | @cons b b' _ _ hb _ ih =>
        rw [List.map_cons, List.zipWith_cons_cons, ih, ← hb.data_eq]
  · rintro ⟨layout, hlayout, rfl⟩
    have h := mapM_eq_some_iff.mp hlayout
    clear hlayout
    induction h with
    | nil => exact .nil
    | @cons b l _ _ hb _ ih =>
      obtain ⟨mark, hmark, rfl⟩ := Option.map_eq_some_iff.mp hb
      exact .cons ⟨rfl, rfl, hmark⟩ ih

theorem forall₂_rereadAs_self : List.Forall₂ (Band.RereadAs α β) bands bands ↔
    ∀ b ∈ bands, rereadMark α β b.noData = some b.noData := by
  rw [List.forall₂_same]
  exact forall₂_congr fun b _ => ⟨fun h => h.mark_eq, fun h => ⟨rfl, rfl, h⟩⟩

end Bands

end Descriptions

end GeoRaster
