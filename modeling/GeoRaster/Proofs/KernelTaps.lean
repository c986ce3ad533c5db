import GeoRaster.Proofs.Sampling

namespace GeoRaster.SampleGrid

section Taps

variable {α : Type} [Scalar α]

/-- A position among `size` cells, moved onto the centres of the border cells from beyond them. -/
def onto (size : ℕ) (t : α) : α :=
  Scalar.clamp 0.0 (Scalar.ofNat (size - 1)) t

def nearestIndex (size : ℕ) (t : α) : ℕ :=
  clampIndex size (Scalar.toInt64 (Scalar.round (onto size t)))

def base (size : ℕ) (t : α) : Int64 :=
  Scalar.toInt64 (Scalar.floor (onto size t))

theorem clampIndex_lt {size : ℕ} (h : 0 < size) (i : Int64) : clampIndex size i < size := by
  rw [clampIndex_eq_min]
  omega

theorem nearestIndex_lt {size : ℕ} (h : 0 < size) (t : α) : nearestIndex size t < size :=
  clampIndex_lt h _

variable {σ : Type} [Scalar σ] [Narrowing α σ] (g : SampleGrid σ) (x y : α)

def fraction (size : ℕ) (t : α) : σ :=
  narrow (onto size t - Scalar.floor (onto size t))

theorem sample_nearest_eq :
    g.sample .nearest x y =
      (g.data[nearestIndex g.height y * g.width + nearestIndex g.width x]?).getD Scalar.nan := rfl

theorem sample_bilinear_eq {i j : Int64} {s t : σ} (hi : base g.width x = i)
    (hj : base g.height y = j) (hs : fraction g.width x = s) (ht : fraction g.height y = t) :
    g.sample .bilinear x y =
      if Scalar.isNaN (g.tap i j) || Scalar.isNaN (g.tap (i + 1) j) ||
          Scalar.isNaN (g.tap i (j + 1)) || Scalar.isNaN (g.tap (i + 1) (j + 1)) then Scalar.nan
      else Kernel.lerp (Kernel.lerp (g.tap i j) (g.tap (i + 1) j) s)
        (Kernel.lerp (g.tap i (j + 1)) (g.tap (i + 1) (j + 1)) s) t := by
  subst hi hj hs ht
  rfl

theorem sample_cubic_of_rows {i j : Int64} {s t p q r u : σ} (hi : base g.width x = i)
    (hj : base g.height y = j) (hs : fraction g.width x = s) (ht : fraction g.height y = t)
    (hp : g.cubicRow? i (j - 1) s = some p) (hq : g.cubicRow? i j s = some q)
    (hr : g.cubicRow? i (j + 1) s = some r) (hu : g.cubicRow? i (j + 2) s = some u) :
    g.sample .cubic x y = Kernel.catmullRom p q r u t := by
  subst hi hj hs ht
  show g.bicubic (onto g.width x) (onto g.height y) = _
  simp only [base, fraction] at hp hq hr hu
  simp only [bicubic, hp, hq, hr, hu, fraction]

end Taps

end GeoRaster.SampleGrid
