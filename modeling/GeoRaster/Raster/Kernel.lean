import GeoRaster.Interpolation
import GeoRaster.Scalar

namespace GeoRaster

structure SampleGrid (σ : Type) where
  data : Array σ
  width : Nat
  height : Nat

namespace Kernel

variable {σ : Type} [Scalar σ]

@[inline] def lerp (a b t : σ) : σ :=
  a + (b - a) * t

/-- The cubic through the two middle samples of four, with the slopes of their neighbours. -/
@[inline] def catmullRom (p q r s t : σ) : σ :=
  let half : σ := 0.5
  let three : σ := 1.5
  let a := -half * p + three * q - three * r + half * s
  let b := p - 2.5 * q + 2.0 * r - half * s
  let c := -half * p + half * r
  ((a * t + b) * t + c) * t + q

end Kernel

namespace SampleGrid

variable {α σ : Type} [Scalar α] [Scalar σ] [Narrowing α σ]

@[inline] def clampIndex (size : Nat) (i : Int64) : Nat :=
  if i < 0 then 0 else min i.toInt.toNat (size - 1)

/-- The sample of a cell; cells beyond the border repeat the ones on it. -/
@[inline] def tap (g : SampleGrid σ) (col row : Int64) : σ :=
  (g.data[clampIndex g.height row * g.width + clampIndex g.width col]?).getD Scalar.nan

@[specialize] def nearest (g : SampleGrid σ) (x y : α) : σ :=
  g.tap (Scalar.toInt64 (Scalar.round x)) (Scalar.toInt64 (Scalar.round y))

@[specialize] def bilinear (g : SampleGrid σ) (x y : α) : σ :=
  let col := Scalar.floor x
  let row := Scalar.floor y
  let tx : σ := narrow (x - col)
  let ty : σ := narrow (y - row)
  let i := Scalar.toInt64 col
  let j := Scalar.toInt64 row
  let a := g.tap i j
  let b := g.tap (i + 1) j
  let c := g.tap i (j + 1)
  let d := g.tap (i + 1) (j + 1)
  if Scalar.isNaN a || Scalar.isNaN b || Scalar.isNaN c || Scalar.isNaN d then Scalar.nan
  else Kernel.lerp (Kernel.lerp a b tx) (Kernel.lerp c d tx) ty

@[specialize] def cubicRow? (g : SampleGrid σ) (i j : Int64) (t : σ) : Option σ :=
  let a := g.tap (i - 1) j
  let b := g.tap i j
  let c := g.tap (i + 1) j
  let d := g.tap (i + 2) j
  if Scalar.isNaN a || Scalar.isNaN b || Scalar.isNaN c || Scalar.isNaN d then none
  else some (Kernel.catmullRom a b c d t)

/-- Cubic along both axes, or bilinear where one of the sixteen taps is missing. -/
@[specialize] def bicubic (g : SampleGrid σ) (x y : α) : σ :=
  let col := Scalar.floor x
  let row := Scalar.floor y
  let tx : σ := narrow (x - col)
  let ty : σ := narrow (y - row)
  let i := Scalar.toInt64 col
  let j := Scalar.toInt64 row
  match g.cubicRow? i (j - 1) tx, g.cubicRow? i j tx, g.cubicRow? i (j + 1) tx,
    g.cubicRow? i (j + 2) tx with
  | some p, some q, some r, some s => Kernel.catmullRom p q r s ty
  | _, _, _, _ => g.bilinear x y

@[specialize] def sample (g : SampleGrid σ) (method : Interpolation) (x y : α) : σ :=
  let x := Scalar.clamp 0.0 (Scalar.ofNat (g.width - 1)) x
  let y := Scalar.clamp 0.0 (Scalar.ofNat (g.height - 1)) y
  match method with
  | .nearest => g.nearest x y
  | .bilinear => g.bilinear x y
  | .cubic => g.bicubic x y

end SampleGrid

end GeoRaster
