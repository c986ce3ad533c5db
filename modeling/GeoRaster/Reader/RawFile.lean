import GeoRaster.Coverage.Descriptor
import GeoRaster.Exception
import GeoRaster.Raster.Crop
import GeoRaster.Reader
import GeoRaster.Reader.Encoding
import GeoRaster.Text.Quoted

namespace GeoRaster

structure RawFileEntry (α σ : Type) where
  path : String
  width : Nat
  height : Nat
  bandNames : List String
  noData : List (Option σ)
  envelope : Envelope α
  crs : Crs

def RawFileEntry.ofDescriptor {α σ : Type} [Narrowing α σ] (d : CoverageDescriptor α)
    (path : String) : RawFileEntry α σ where
  path := path
  width := d.gridGeometry.width
  height := d.gridGeometry.height
  bandNames := d.bands.map BandDefinition.name
  noData := d.bands.map fun b => b.noData.head?.map narrow
  envelope := d.nativeEnvelope
  crs := d.nativeCrs.eastingFirst

/-- The task that reads a file, by its number among all tasks of the program. -/
structure ReadTask where
  build : Build
  number : Nat

def ReadTask.overflowMessage (task : ReadTask) (o : Overflow) : String :=
  "read task failed: task " ++ toString task.number ++ " panicked with message " ++
    Text.quoted o.message

inductive ReadStop where
  | io (reason : String)
  | overflow (o : Overflow)

namespace RawFileEntry

variable {α σ : Type} [Scalar α] [SampleWord σ]

def expectedSize (e : RawFileEntry α σ) (build : Build) : Except Overflow Nat := do
  let columns ← build.product e.bandNames.length e.width
  let cells ← build.product columns e.height
  build.product cells SampleWord.bytes

def rowHeight (e : RawFileEntry α σ) : α :=
  e.envelope.bounds.height / Scalar.ofNat e.height

/-- The rows that a box reaches, or all of them if it reaches none. -/
def rowsOf (e : RawFileEntry α σ) (box : Envelope α) : CellSpan :=
  match e.envelope.meet? box with
  | none => ⟨0, e.height⟩
  | some common =>
    let north := e.envelope.bounds.maxY
    let b := common.bounds
    .between e.height ((north - b.maxY) / e.rowHeight) ((north - b.minY) / e.rowHeight)

def rowsEnvelope (e : RawFileEntry α σ) (rows : CellSpan) : Envelope α :=
  let b := e.envelope.bounds
  .ofCorners (b.minX, b.maxY - Scalar.ofNat rows.stop * e.rowHeight)
    (b.maxX, b.maxY - Scalar.ofNat rows.first * e.rowHeight) (some e.crs)

def offset (e : RawFileEntry α σ) (build : Build) (band : Nat) (rows : CellSpan) :
    Except Overflow Nat := do
  let above ← build.product band e.height
  let row ← build.sum above rows.first
  let cell ← build.product row e.width
  build.product cell SampleWord.bytes

def windowSize (e : RawFileEntry α σ) (build : Build) (rows : CellSpan) : Except Overflow Nat := do
  let cells ← build.product rows.length e.width
  build.product cells SampleWord.bytes

/-- A part of a file. Its start must be a signed word, and unless it is empty all of it must lie in
the file. -/
def readPart (file : ByteArray) (offset size : Nat) : Except String ByteArray :=
  if Nat.pow 2 63 ≤ offset then .error "Invalid argument (os error 22)"
  else if size = 0 then .ok ByteArray.empty
  else if offset + size ≤ file.size then .ok (file.extract offset (offset + size))
  else .error "failed to fill whole buffer"

def readBand (e : RawFileEntry α σ) (build : Build) (file : ByteArray) (rows : CellSpan)
    (size : Nat) (name : String) (band : Nat) : Except ReadStop (Band σ) := do
  let offset ← (e.offset build band rows).mapError .overflow
  let part ← (readPart file offset size).mapError .io
  return ⟨name, decodeSamples part, (e.noData[band]?).join⟩

def readBands (e : RawFileEntry α σ) (build : Build) (file : ByteArray) (rows : CellSpan) :
    Except ReadStop (List (Band σ)) := do
  let size ← (e.windowSize build rows).mapError .overflow
  e.bandNames.zipIdx.mapM fun (name, i) => e.readBand build file rows size name i

def sizeMessage (e : RawFileEntry α σ) (size expected : Nat) : String :=
  e.path ++ " holds " ++ toString size ++ " bytes, expected " ++ toString expected ++ " for " ++
    toString e.bandNames.length ++ " bands of " ++ toString e.width ++ "x" ++ toString e.height

def rasterMessage (f : RasterFault) : String :=
  "Processing failed: " ++ f.message

/-- The raster of the rows that a box reaches. `id` names the coverage in faults. -/
def read (e : RawFileEntry α σ) (task : ReadTask) (id : String) (file : Except String ByteArray)
    (box : Envelope α) : Except ReadFault (Raster α σ) :=
  match file with
  | .error reason => .error (.io id reason)
  | .ok file =>
    match e.expectedSize task.build with
    | .error o => .error (.invalid id (task.overflowMessage o))
    | .ok expected =>
      if file.size ≠ expected then .error (.invalid id (e.sizeMessage file.size expected))
      else
        let rows := e.rowsOf box
        match e.readBands task.build file rows with
        | .error (.io reason) => .error (.io id reason)
        | .error (.overflow o) => .error (.invalid id (task.overflowMessage o))
        | .ok bands =>
          match Raster.make e.width rows.length bands (e.rowsEnvelope rows) e.crs with
          | .ok r => .ok r
          | .error f => .error (.invalid id (rasterMessage f))

end RawFileEntry

structure RawFileReader (α σ : Type) where
  entries : List (String × RawFileEntry α σ)

namespace RawFileReader

variable {α σ : Type} [Scalar α] [SampleWord σ]

def find? (r : RawFileReader α σ) (id : String) : Option (RawFileEntry α σ) :=
  r.entries.lookup id

def read (r : RawFileReader α σ) (task : ReadTask) (files : String → Except String ByteArray)
    (id : String) (box : Envelope α) : Except ReadFault (Raster α σ) :=
  match r.find? id with
  | none => .error (.missing id)
  | some e => e.read task id (files e.path) box

/-- The reader of a service. No file takes longer than the service waits. -/
def toReader (r : RawFileReader α σ) (task : ReadTask)
    (files : String → Except String ByteArray) : CoverageReader α σ :=
  fun id box => .ofExcept (r.read task files id box)

def noSuchFile : String := "No such file or directory (os error 2)"

end RawFileReader

end GeoRaster
