import GeoRaster.Raster
import GeoRaster.Scalar.Machine

namespace GeoRaster

class SampleWord (σ : Type) where
  toWord : σ → UInt32
  ofWord : UInt32 → σ

instance : SampleWord Float32 := ⟨Float32.toBits, Float32.ofBits⟩

namespace SampleWord

def bytes : Nat := 4

def pushWord (out : ByteArray) (w : UInt32) : ByteArray :=
  (((out.push w.toUInt8).push (w >>> 8).toUInt8).push (w >>> 16).toUInt8).push (w >>> 24).toUInt8

/-- A byte of a file; there are none but zeros beyond its end. -/
def byteAt (file : ByteArray) (i : Nat) : UInt32 :=
  if h : i < file.size then file[i].toUInt32 else 0

def wordAt (file : ByteArray) (i : Nat) : UInt32 :=
  byteAt file i ||| byteAt file (i + 1) <<< 8 ||| byteAt file (i + 2) <<< 16 |||
    byteAt file (i + 3) <<< 24

end SampleWord

open SampleWord

variable {σ : Type} [SampleWord σ]

def Band.encodeOnto (out : ByteArray) (b : Band σ) : ByteArray :=
  b.data.foldl (fun out v => pushWord out (toWord v)) out

def encodeBands (bands : List (Band σ)) : ByteArray :=
  bands.foldl Band.encodeOnto ByteArray.empty

def decodeSamples (file : ByteArray) : Array σ :=
  Array.ofFn fun i : Fin (file.size / bytes) => ofWord (wordAt file (bytes * i))

end GeoRaster
