import GeoRaster.Proofs.Answer
import GeoRaster.Proofs.OutputPaths
import GeoRaster.Proofs.Settled
import GeoRaster.Proofs.SidecarLayout

namespace GeoRaster

section Disks

variable {δ : Type} (place : List Char → δ)

/-- Which file a path means: the directory that its beginning leads to and its last name. -/
def Path.file? (path : String) : Option (δ × List Char) :=
  let (before, name) := splitLast path.toList
  if isOwnName name then some (place before, name) else none

variable {place} in
theorem Path.file?_eq_some {path : String} {f : δ × List Char} : file? place path = some f ↔
    ∃ before name, EndsIn path.toList before name ∧ f = (place before, name) := by
  rw [file?]
  constructor
  · intro h
    obtain ⟨hown, hf⟩ := Option.ite_none_right_eq_some.mp h
    exact ⟨_, _, endsIn_iff.mpr ⟨rfl, hown⟩, (Option.some.inj hf).symm⟩
  · rintro ⟨before, name, hpath, rfl⟩
    obtain ⟨hsplit, hown⟩ := endsIn_iff.mp hpath
    simp [hsplit, hown]

abbrev Disk (δ : Type) : Type :=
  δ × List Char → Option ByteArray

namespace Disk

def write [DecidableEq δ] (disk : Disk δ) (file : String × ByteArray) : Disk δ :=
  match Path.file? place file.1 with
  | some f => Function.update disk f (some file.2)
  | none => disk

def read? (disk : Disk δ) (path : String) : Option ByteArray :=
  Path.file? place path >>= disk

end Disk

/-- What a run writes, and where. -/
structure Delivery (α : Type) where
  target : String
  coverageId : String
  result : CoverageResult α Float32

/-- Where the files of an answer stand: a directory, and the stem of their names. -/
abbrev Seat (δ : Type) : Type :=
  δ × List Char

def Seat.file (s : Seat δ) (extension : String) : δ × List Char :=
  (s.1, s.2 ++ '.' :: extension.toList)

theorem Seat.file_inj {s s' : Seat δ} {extension : String} :
    s.file extension = s'.file extension ↔ s = s' := by
  simp [Seat.file, Prod.ext_iff]

theorem Seat.data_ne_description (s s' : Seat δ) : s.file "f32" ≠ s'.file "json" := by
  intro h
  have hlast := congrArg List.getLast? (Prod.mk.inj h).2
  simp at hlast

namespace Path

variable {place} {path path' extension : String} {before before' name name' : List Char}

theorem EndsIn.file?_eq (h : EndsIn path.toList before name) :
    file? place path = some (place before, name) :=
  file?_eq_some.mpr ⟨_, _, h, rfl⟩

theorem file?_withExtension (hne : extension ≠ "") (hwhole : '/' ∉ extension.toList) :
    file? place (withExtension path extension) =
      (file? place path).map fun f => Seat.file (f.1, stem f.2) extension := by
  cases hf : file? place path with
  | none =>
    have hown : isOwnName (splitLast path.toList).2 = false := by
      simpa [file?] using hf
    have hsame : withExtension path extension = path := by
      simp [withExtension, hown]
    rw [hsame, hf]
    rfl
  | some f =>
    obtain ⟨before, name, hpath, rfl⟩ := file?_eq_some.mp hf
    exact (hpath.withExtension hne hwhole).file?_eq

theorem file?_withExtension_eq_iff (h : EndsIn path.toList before name)
    (h' : EndsIn path'.toList before' name') (hne : extension ≠ "")
    (hwhole : '/' ∉ extension.toList) :
    file? place (withExtension path extension) = file? place (withExtension path' extension) ↔
      place before = place before' ∧ stem name = stem name' := by
  rw [file?_withExtension hne hwhole, file?_withExtension hne hwhole, h.file?_eq, h'.file?_eq,
    Option.map_some, Option.map_some, Option.some_inj, Seat.file_inj, Prod.mk_inj]

end Path

namespace Delivery

variable {α : Type}

def seat? (o : Delivery α) : Option (Seat δ) :=
  (Path.file? place o.target).map fun (d, name) => (d, Path.stem name)

variable {place}

theorem seat?_eq {o : Delivery α} {before name : List Char}
    (ho : Path.EndsIn o.target.toList before name) :
    o.seat? place = some (place before, Path.stem name) := by
  rw [seat?, ho.file?_eq]
  rfl

theorem file?_withExtension (o : Delivery α) {extension : String} (hne : extension ≠ "")
    (hwhole : '/' ∉ extension.toList) :
    Path.file? place (Path.withExtension o.target extension) =
      (o.seat? place).map fun s => s.file extension := by
  rw [Path.file?_withExtension hne hwhole, seat?, Option.map_map]
  rfl

theorem file?_dataPath (o : Delivery α) :
    Path.file? place (dataPath o.target) = (o.seat? place).map fun s => s.file "f32" :=
  o.file?_withExtension (by decide) (by decide)

theorem file?_sidecarPath (o : Delivery α) :
    Path.file? place (sidecarPath o.target) = (o.seat? place).map fun s => s.file "json" :=
  o.file?_withExtension (by decide) (by decide)

def data (o : Delivery α) : ByteArray :=
  encodeBands o.result.raster.bands

def description [Scalar α] [ShortestText α] (o : Delivery α) : ByteArray :=
  ((o.result.sidecar o.coverageId).indented 0).toUTF8

end Delivery

variable {α : Type} [Scalar α] [ShortestText α] [DecidableEq δ]

namespace Disk

def deliver (disk : Disk δ) (o : Delivery α) : Disk δ :=
  (o.result.files o.coverageId o.target).foldl (write place) disk

variable {place} {disk : Disk δ} {o : Delivery α} {s : Seat δ}

theorem deliver_eq (ho : o.seat? place = some s) :
    disk.deliver place o = Function.update
      (Function.update disk (s.file "f32") (some o.data)) (s.file "json")
      (some o.description) := by
  simp only [deliver, CoverageResult.files, List.foldl_cons, List.foldl_nil, write, o.file?_dataPath,
    o.file?_sidecarPath, ho, Option.map_some]
  rfl

theorem deliver_of_none (ho : o.seat? place = none) : disk.deliver place o = disk := by
  simp only [deliver, CoverageResult.files, List.foldl_cons, List.foldl_nil, write, o.file?_dataPath,
    o.file?_sidecarPath, ho, Option.map_none]

theorem deliver_data (disk : Disk δ) (o : Delivery α) (s : Seat δ) :
    disk.deliver place o (s.file "f32") =
      if o.seat? place = some s then some o.data else disk (s.file "f32") := by
  cases ho : o.seat? place with
  | none => rw [deliver_of_none ho, if_neg (by simp)]
  | some s' =>
    rw [deliver_eq ho, Function.update_of_ne (Seat.data_ne_description s s')]
    by_cases hs : s' = s
    · rw [if_pos (congrArg some hs), hs, Function.update_self]
    · rw [if_neg (fun h => hs (Option.some.inj h)),
        Function.update_of_ne fun h => hs (Seat.file_inj.mp h).symm]

theorem deliver_description (disk : Disk δ) (o : Delivery α) (s : Seat δ) :
    disk.deliver place o (s.file "json") =
      if o.seat? place = some s then some o.description else disk (s.file "json") := by
  cases ho : o.seat? place with
  | none => rw [deliver_of_none ho, if_neg (by simp)]
  | some s' =>
    rw [deliver_eq ho]
    by_cases hs : s' = s
    · rw [if_pos (congrArg some hs), hs, Function.update_self]
    · rw [if_neg (fun h => hs (Option.some.inj h)),
        Function.update_of_ne fun h => hs (Seat.file_inj.mp h).symm,
        Function.update_of_ne (Seat.data_ne_description s' s).symm]

omit [DecidableEq δ] in
/-- What the steps of a run write is what is there in the end, unless a later run writes it anew. -/
theorem foldl_last {ι : Type} {step : Disk δ → ι → Disk δ} {writes : ι → Bool}
    {content : ι → ByteArray} {f : δ × List Char}
    (hstep : ∀ disk i, step disk i f = if writes i then some (content i) else disk f)
    (is : List ι) (disk : Disk δ) :
    is.foldl step disk f = ((is.filter writes).getLast?.map content).or (disk f) := by
  induction is generalizing disk with
  | nil => rfl
  | cons i is ih =>
    rw [List.foldl_cons, ih, hstep]
    by_cases hi : writes i = true
    · rw [if_pos hi, List.filter_cons_of_pos hi, List.getLast?_cons]
      cases (is.filter writes).getLast? <;> rfl
    · rw [if_neg hi, List.filter_cons_of_neg hi]

theorem deliverAll_of_ne {f : δ × List Char} {os : List (Delivery α)}
    (hf : ∀ o ∈ os, ∀ s, o.seat? place = some s → f ≠ s.file "f32" ∧ f ≠ s.file "json")
    (disk : Disk δ) : os.foldl (deliver place) disk f = disk f := by
  induction os generalizing disk with
  | nil => rfl
  | cons o os ih =>
    obtain ⟨ho, hos⟩ := List.forall_mem_cons.mp hf
    rw [List.foldl_cons, ih hos]
    cases hseat : o.seat? place with
    | none => rw [deliver_of_none hseat]
    | some s =>
      obtain ⟨hdata, hdescription⟩ := ho s hseat
      rw [deliver_eq hseat, Function.update_of_ne hdescription, Function.update_of_ne hdata]

/-- Beside a target stands what the last run over its seat has delivered, after the first. -/
theorem read?_deliverAll {before name : List Char} (ho : Path.EndsIn o.target.toList before name)
    (later : List (Delivery α)) :
    let after := (o :: later).foldl (deliver place) disk
    let last := (later.filter fun o' =>
      o'.seat? place = some (place before, Path.stem name)).getLastD o
    after.read? place (dataPath o.target) = some last.data ∧
      after.read? place (sidecarPath o.target) = some last.description := by
  intro after last
  have hseat : o.seat? place = some (place before, Path.stem name) := Delivery.seat?_eq ho
  have hlast (content : Delivery α → ByteArray) {f : δ × List Char}
      (hstep : ∀ (disk : Disk δ) o', disk.deliver place o' f =
        if o'.seat? place = some (place before, Path.stem name) then some (content o')
        else disk f) : after f = some (content last) := by
    have hfirst : disk.deliver place o f = some (content o) := by rw [hstep, if_pos hseat]
    calc after f
      _ = ((later.filter fun o' =>
            o'.seat? place = some (place before, Path.stem name)).getLast?.map content).or
          (disk.deliver place o f) := foldl_last (by simpa using hstep) later _
      _ = some (content last) := by
        rw [hfirst, show last = _ from List.getLastD_eq_getLast? ..]
        cases (later.filter _).getLast? <;> rfl
  simp only [read?, o.file?_dataPath, o.file?_sidecarPath, hseat, Option.map_some,
    Option.bind_eq_bind, Option.bind_some]
  exact ⟨hlast Delivery.data fun disk o' => deliver_data disk o' _,
    hlast Delivery.description fun disk o' => deliver_description disk o' _⟩

end Disk

end Disks

theorem fromUTF8?_toUTF8 (s : String) : String.fromUTF8? s.toUTF8 = some s :=
  dif_pos s.isValidUTF8

/-- The answer is a raster, and a machine can hold its sizes and its file. -/
structure Delivery.IsSound {α : Type} (o : Delivery α) : Prop where
  wellFormed : o.result.raster.WellFormed
  width_lt : o.result.raster.width < 2 ^ 64
  height_lt : o.result.raster.height < 2 ^ 64
  size_le : o.data.size ≤ 2 ^ 63

theorem Delivery.isSound_of_call {α : Type} [Scalar α] [Narrowing α Float32] [Atlas α]
    {s : Service α Float32} {request : CoverageRequest α} {cancelled : Bool} {o : Delivery α}
    (h : (s.call request cancelled).outcome = .ok o.result)
    (hcells : o.result.raster.width * o.result.raster.height < 2 ^ 64)
    (hsize : o.data.size ≤ 2 ^ 63) : o.IsSound := by
  obtain ⟨_, _, raw, -, -, -, hrun, -⟩ := Service.of_call_ok h
  obtain ⟨width, height, bands, e, crs, hmade⟩ := Raster.isMade_run hrun
  obtain ⟨⟨hw, hh⟩, hcount, heq⟩ := Raster.make_eq_ok.mp hmade
  have hwidth : o.result.raster.width = width := congrArg Raster.width heq
  have hheight : o.result.raster.height = height := congrArg Raster.height heq
  rw [hwidth, hheight] at hcells
  have hword : width * height < UInt64.size := hcells
  refine ⟨⟨hwidth ▸ hw, hheight ▸ hh, ?_, ?_, ?_⟩, ?_, ?_, hsize⟩
  · rw [hwidth, hheight, congrArg Raster.bands heq]
    intro b hb
    rw [hcount b hb, Raster.sampleCount, Nat.mod_eq_of_lt hword]
  · rw [heq]
    rfl
  · rw [heq]
    rfl
  · exact hwidth ▸ (Nat.le_mul_of_pos_right width hh).trans_lt hcells
  · exact hheight ▸ (Nat.le_mul_of_pos_left height hw).trans_lt hcells

section Runs

variable {α β δ : Type} [Scalar α] [ShortestText α] [Scalar β] [Narrowing β Float32]
  (place : List Char → δ)

/-- The bands that the raw file beside a target gives back, with the layout that the description
beside it gives. The rest of the entry plays no part in it. -/
def Disk.readBack? (disk : Disk δ) (build : Build) (e : RawFileEntry β Float32) (target : String) :
    Option (List (Band Float32)) := do
  let description ← disk.read? place (sidecarPath target)
  let file ← disk.read? place (dataPath target)
  let text ← String.fromUTF8? description
  let j ← Json.parse? text
  let e ← e.withLayout? j
  let size ← (e.expectedSize build).toOption
  if file.size = size then (e.readBands build file ⟨0, e.height⟩).toOption else none

variable {place} {disk : Disk δ} {build : Build} {o : Delivery α} {target : String}
  {bands : List (Band Float32)}

theorem Disk.readBack?_eq (e : RawFileEntry β Float32) {file description : ByteArray}
    {text : String} {j : Json β} (hfile : disk.read? place (dataPath target) = some file)
    (hdescription : disk.read? place (sidecarPath target) = some description)
    (htext : String.fromUTF8? description = some text) (hj : Json.parse? text = some j) :
    disk.readBack? place build e target = e.withLayout? j >>= fun e =>
      (e.expectedSize build).toOption >>= fun size =>
        if file.size = size then (e.readBands build file ⟨0, e.height⟩).toOption else none := by
  rw [readBack?, hdescription, hfile]
  simp only [Option.bind_eq_bind, Option.bind_some, htext, hj]

omit [Scalar α] [ShortestText α] [Scalar β] [Narrowing β Float32] in
theorem readBands_encodeBands {e : RawFileEntry β Float32} {r : Raster α Float32}
    (hr : r.WellFormed) (hsize : (encodeBands r.bands).size ≤ 2 ^ 63)
    (hbuild : build = .wrapping ∨ r.bands ≠ []) {layout : List (String × Option Float32)}
    (hlength : layout.length = r.bands.length) :
    let e' := { e with
      width := r.width
      height := r.height
      bandNames := layout.map Prod.fst
      noData := layout.map Prod.snd }
    e'.expectedSize build = .ok (encodeBands r.bands).size ∧
      e'.readBands build (encodeBands r.bands) ⟨0, e'.height⟩ =
        .ok (List.zipWith (fun b l => ⟨l.1, b.data, l.2⟩) r.bands layout) := by
  intro e'
  have hlays : e'.LaysOut r.bands :=
    ⟨hr.width_pos, hr.height_pos, by rw [List.length_map, hlength], hr.size_eq⟩
  have hrows : (⟨0, e'.height⟩ : CellSpan).Fits e'.height := ⟨hr.height_pos, le_rfl⟩
  have hword : (encodeBands r.bands).size < 2 ^ 64 := by omega
  refine ⟨hlays.expectedSize_eq hword, ?_⟩
  rw [hlays.readBands_eq hword hrows hbuild fun i hi => hlays.place_lt hsize hrows hi,
    bandRows_eq rfl rfl hr.size_eq]

theorem Disk.readBack?_eq_some_iff (ho : o.IsSound)
    (hbuild : build = .wrapping ∨ o.result.raster.bands ≠ []) (e : RawFileEntry β Float32)
    (hfile : disk.read? place (dataPath target) = some o.data)
    (hdescription : disk.read? place (sidecarPath target) = some o.description) :
    disk.readBack? place build e target = some bands ↔
      List.Forall₂ (Band.RereadAs α β) o.result.raster.bands bands := by
  rw [forall₂_rereadAs_iff, readBack?_eq e hfile hdescription (fromUTF8?_toUTF8 _)
    (Json.parse?_indented _), withLayout?_reread e o.coverageId ho.width_lt ho.height_lt]
  cases hlayout : o.result.raster.bands.mapM fun b =>
    (rereadMark α β b.noData).map fun mark => (b.name, mark) with
  | none => simp
  | some layout =>
    have hlength := (mapM_eq_some_iff.mp hlayout).length_eq.symm
    obtain ⟨hsize, hread⟩ := readBands_encodeBands (e := e) ho.wellFormed ho.size_le hbuild hlength
    rw [Option.map_some, Option.bind_eq_bind, Option.bind_some, Delivery.data, hsize, hread]
    simp [Except.toOption]

/-- What stands on a disk after some runs, seen from the target of one of them. The files have the
stem of the target's last name, which is the name itself only if it has no extension, and a run has
the same files as another exactly if their seats are the same. The files are those of the last run
over the seat, and what belongs to no run is left alone. The bands of that run are read back, with
their marks as the description tells them: all the same if and only if every mark comes back out of
its text, and an infinite or undefined mark does not. -/
theorem Disk.filesBeside_deliverAll [DecidableEq δ] (place : List Char → δ)
    {before name : List Char} (ho : Path.EndsIn o.target.toList before name)
    (later : List (Delivery α))
    (hsound : ∀ o' ∈ o :: later, o'.IsSound) (build : Build)
    (hbuild : build = .wrapping ∨ ∀ o' ∈ o :: later, o'.result.raster.bands ≠ [])
    (disk : Disk δ) (e : RawFileEntry β Float32) :
    let after := (o :: later).foldl (Disk.deliver place) disk
    let last := (later.filter fun o' =>
      o'.seat? place = some (place before, Path.stem name)).getLastD o
    ((dataPath o.target).toList = before ++ (Path.stem name ++ '.' :: "f32".toList) ∧
      (sidecarPath o.target).toList = before ++ (Path.stem name ++ '.' :: "json".toList)) ∧
    ((dataPath o.target = o.target ++ "." ++ "f32" ↔
        o.target.toList = before ++ name ∧ '.' ∉ name.tail) ∧
      (sidecarPath o.target = o.target ++ "." ++ "json" ↔
        o.target.toList = before ++ name ∧ '.' ∉ name.tail)) ∧
    (∀ (o' : Delivery α) (before' name' : List Char), Path.EndsIn o'.target.toList before' name' →
      (o'.seat? place = some (place before, Path.stem name) ↔
        place before' = place before ∧ Path.stem name' = Path.stem name) ∧
      (Path.file? place (dataPath o'.target) = Path.file? place (dataPath o.target) ↔
        place before' = place before ∧ Path.stem name' = Path.stem name) ∧
      (Path.file? place (sidecarPath o'.target) = Path.file? place (sidecarPath o.target) ↔
        place before' = place before ∧ Path.stem name' = Path.stem name)) ∧
    (after.read? place (dataPath o.target) = some last.data ∧
      after.read? place (sidecarPath o.target) = some last.description) ∧
    (∀ f, (∀ o' ∈ o :: later, ∀ s, o'.seat? place = some s →
      f ≠ s.file "f32" ∧ f ≠ s.file "json") → after f = disk f) ∧
    (∀ bands, after.readBack? place build e o.target = some bands ↔
      List.Forall₂ (Band.RereadAs α β) last.result.raster.bands bands) ∧
    (after.readBack? place build e o.target = some last.result.raster.bands ↔
      ∀ b ∈ last.result.raster.bands, rereadMark α β b.noData = some b.noData) ∧
    (∀ v, Scalar.isFinite (Scalar.ofWritten (ShortestText.written v) : α) = false →
      rereadMark α β (some v) = some none) ∧
    ∀ v d, Scalar.isFinite (Scalar.ofWritten (ShortestText.written v) : α) = true →
      ShortestText.written (Scalar.ofWritten (ShortestText.written v) : α) = .finite d →
      Scalar.isFinite (Scalar.ofDecimal d.laidOut : β) = true →
        rereadMark α β (some v) = some (some (narrow (Scalar.ofDecimal d.laidOut : β))) := by
  intro after last
  have hlast : last ∈ o :: later :=
    List.cons_subset_cons o (List.filter_subset_self _) List.getLastD_mem_cons
  obtain ⟨hdata, hdescription⟩ : after.read? place (dataPath o.target) = some last.data ∧
      after.read? place (sidecarPath o.target) = some last.description := read?_deliverAll ho later
  have hback (bands : List (Band Float32)) :
      after.readBack? place build e o.target = some bands ↔
        List.Forall₂ (Band.RereadAs α β) last.result.raster.bands bands :=
    readBack?_eq_some_iff (hsound last hlast) (hbuild.imp_right fun h => h last hlast) e hdata
      hdescription
  refine ⟨⟨Path.toList_withExtension ho _, Path.toList_withExtension ho _⟩,
    ⟨Path.withExtension_eq_append_iff ho _, Path.withExtension_eq_append_iff ho _⟩,
    ?_, ⟨hdata, hdescription⟩, fun f hf => deliverAll_of_ne hf disk, hback, ?_,
    fun _ => rereadMark_of_not_finite, fun _ _ => rereadMark_of_finite⟩
  · intro o' before' name' ho'
    refine ⟨?_, Path.file?_withExtension_eq_iff ho' ho (by decide) (by decide),
      Path.file?_withExtension_eq_iff ho' ho (by decide) (by decide)⟩
    rw [Delivery.seat?_eq ho', Option.some_inj, Prod.mk_inj]
  · rw [hback, forall₂_rereadAs_self]

end Runs

section Small

open Geographic

def fourCellsBand (mark : Float32) : Band Float32 :=
  ⟨"a", #[1.5, 2, -9999, 4], some mark⟩

def fourCellsVersion (target : String) (mark : Float32) : Delivery Float where
  target := target
  coverageId := "cells"
  result := {
    raster := Raster.fourCells.withBands [fourCellsBand mark]
    gridGeometry := (Raster.fourCellsOver ⟨10, 20, 30, 60⟩ .wgs84 .wgs84 .nearest).targetGrid
    crs := .ofCode .wgs84
    format := ⟨"GeoTIFF", some "GeoTIFF", some "image/tiff"⟩ }

theorem isSound_fourCellsVersion (target : String) (mark : Float32) :
    (fourCellsVersion target mark).IsSound := by
  have hword : 2 < 2 ^ 64 := by decide
  have hsize : ∀ b ∈ (fourCellsVersion target mark).result.raster.bands, b.data.size = 2 * 2 :=
    List.forall_mem_singleton.mpr rfl
  refine ⟨⟨Nat.two_pos, Nat.two_pos, hsize, rfl, rfl⟩, hword, hword, ?_⟩
  rw [Delivery.data, size_encodeBands hsize]
  show 4 * (1 * (2 * 2)) ≤ 2 ^ 63
  decide

def unknownEntry (path : String) : RawFileEntry Exact Float32 :=
  ⟨path, 0, 0, [], [], .ofBounds ⟨10.0, 20.0, 30.0, 60.0⟩ none, .ofCode .wgs84⟩

theorem Disk.filesBeside_deliverAll_fourCells :
    ([fourCellsVersion "out/v1.2" (1.0 / 0.0)].foldl (Disk.deliver id) fun _ => none).readBack? id
        .checked (unknownEntry "out/v1.f32") "out/v1.2" ≠ some [fourCellsBand (1.0 / 0.0)] ∧
      ([fourCellsVersion "out/v1.2" (1.0 / 0.0), fourCellsVersion "out/v1.3" (-9999)].foldl
        (Disk.deliver id) fun _ => none).readBack? id .checked (unknownEntry "out/v1.f32")
          "out/v1.2" =
          some [fourCellsBand (-9999)] := by
  have hends : Path.EndsIn "out/v1.2".toList "out/".toList "v1.2".toList :=
    Path.endsIn_iff.mpr (by decide +kernel)
  have hends' : Path.EndsIn "out/v1.3".toList "out/".toList "v1.3".toList :=
    Path.endsIn_iff.mpr (by decide +kernel)
  have hlost : rereadMark Float Exact (some (1.0 / 0.0)) ≠ some (some (1.0 / 0.0)) := by
    decide +kernel
  have hkept : rereadMark Float Exact (some (-9999)) = some (some (-9999)) := by decide +kernel
  have hsound := isSound_fourCellsVersion
  have hbands (target : String) (mark : Float32) :
      (fourCellsVersion target mark).result.raster.bands ≠ [] := List.cons_ne_nil _ _
  obtain ⟨-, -, -, -, -, -, hone, -⟩ :=
    Disk.filesBeside_deliverAll (o := fourCellsVersion "out/v1.2" (1.0 / 0.0)) id hends
      [] (List.forall_mem_singleton.mpr (hsound _ _)) .checked
      (.inr (List.forall_mem_singleton.mpr (hbands _ _))) (fun _ => none)
      (unknownEntry "out/v1.f32")
  obtain ⟨-, -, hseats, -, -, -, htwo, -⟩ :=
    Disk.filesBeside_deliverAll (o := fourCellsVersion "out/v1.2" (1.0 / 0.0)) id hends
      [fourCellsVersion "out/v1.3" (-9999)]
      (List.forall_mem_cons.mpr ⟨hsound _ _, List.forall_mem_singleton.mpr (hsound _ _)⟩) .checked
      (.inr (List.forall_mem_cons.mpr ⟨hbands _ _, List.forall_mem_singleton.mpr (hbands _ _)⟩))
      (fun _ => none) (unknownEntry "out/v1.f32")
  constructor
  · intro h
    exact hlost (hone.mp h (fourCellsBand (1.0 / 0.0)) List.mem_cons_self)
  · have hseat := (hseats (fourCellsVersion "out/v1.3" (-9999)) _ _ hends').1.mpr
      ⟨rfl, by decide +kernel⟩
    rw [List.filter_singleton, hseat] at htwo
    exact htwo.mpr (List.forall_mem_singleton.mpr hkept)

end Small

end GeoRaster
