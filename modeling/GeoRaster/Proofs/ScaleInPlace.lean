import GeoRaster.Proofs.KernelExactness

namespace GeoRaster

theorem Exact.beq_comm (p q : Exact) : (p == q) = (q == p) := by
  show eq p q = eq q p
  cases p <;> cases q <;> simp [eq, eq_comm]

namespace Band

variable {b : Band Exact}

/-- Every sample is a number, and none of them marks a missing one. -/
def IsComplete (b : Band Exact) : Prop :=
  ∀ v ∈ b.data, Scalar.isFinite v = true ∧ b.isMissing v = false

instance (b : Band Exact) : Decidable b.IsComplete :=
  inferInstanceAs (Decidable (∀ v ∈ b.data, _ ∧ _))

theorem IsComplete.masked_eq (h : b.IsComplete) : b.masked = b.data := by
  rw [masked]
  split
  · rename_i nd hnd
    have hid : ∀ v ∈ b.data, (if v == nd then Scalar.nan else v) = v := by
      intro v hv
      have hm := (h v hv).2
      rw [isMissing, hnd, Bool.or_eq_false_iff] at hm
      rw [Exact.beq_comm]
      exact if_neg (Bool.eq_false_iff.mp hm.2)
    rw [Array.map_congr_left hid, Array.map_id']
  · rfl

/-- Sampled at the centres of its own cells, a band without missing samples stays as it is. -/
theorem IsComplete.resample_eq (h : b.IsComplete) {width height : ℕ} (hw : 0 < width)
    (hh : 0 < height) (hsize : b.data.size = width * height) (hn : b.data.size < 2 ^ 62)
    (method : Interpolation) {locate : ℕ → ℕ → Option (Point Exact)}
    (hlocate : ∀ col < width, ∀ row < height,
      locate col row = some ⟨.finite col, .finite row⟩) :
    b.resample width height width height method locate = b := by
  have hwidth : width < 2 ^ 62 :=
    (Nat.le_mul_of_pos_right width hh).trans_lt (hsize ▸ hn)
  have hheight : height < 2 ^ 62 :=
    (Nat.le_mul_of_pos_left height hw).trans_lt (hsize ▸ hn)
  obtain ⟨f, hf⟩ := SampleGrid.exists_samples hw hh hwidth hheight hsize
    fun v hv => Exact.isFinite_iff.mp (h v hv).1
  refine withData_eq (eq_of_rows ?_ (hsize.trans (Nat.mul_comm _ _)) ?_)
  · rw [Array.size_ofFn, Nat.mul_comm]
  · intro row hrow col hcol
    refine (b.getElem?_resample width height method locate hcol hrow).trans ?_
    rw [hlocate col hcol row hrow, h.masked_eq, SampleGrid.cell, hf.sample_centre method hcol hrow]
    exact (hf.getElem?_eq col hcol row hrow).symm

end Band

namespace Raster

theorem Spans.positionOf_self {σ : Type} {r : Raster Exact σ} {x y : Interval ℚ}
    (h : r.Spans x y) (col row : ℕ) :
    r.positionOf r.envelope r.width r.height col row = ⟨.finite col, .finite row⟩ := by
  rw [h.positionOf_eq h.bounds_eq h.width_pos h.height_pos,
    Interval.centreUp_sub_div h.x_lt h.width_pos, Interval.sub_centreDown_div h.y_lt h.height_pos,
    add_sub_cancel_right, add_sub_cancel_right]

variable {r : Raster Exact Exact} {x y : Interval ℚ}

theorem bands_scaled_self (h : r.WellFormed) (haxes : r.envelope.axes = [x.exact, y.exact])
    (hx : x.min < x.max) (hy : y.min < y.max) (hn : ∀ b ∈ r.bands, b.data.size < 2 ^ 62)
    (hc : ∀ b ∈ r.bands, b.IsComplete) (method : Interpolation) :
    (r.scaled r.envelope r.width r.height method).bands = r.bands := by
  have hband : ∀ b ∈ r.bands, b.resample r.width r.height r.width r.height method
      (fun col row => some (r.positionOf r.envelope r.width r.height col row)) = b := by
    intro b hb
    have hsize := h.size_eq b hb
    have hlt := hn b hb
    have hwidth := Nat.le_mul_of_pos_right r.width h.height_pos
    have hheight := Nat.le_mul_of_pos_left r.height h.width_pos
    have hspans : r.Spans x y := h.spans (by omega) (by omega) haxes hx hy
    apply (hc b hb).resample_eq h.width_pos h.height_pos hsize hlt
    intro col _ row _
    rw [hspans.positionOf_self]
  exact (List.map_congr_left hband).trans (List.map_id' _)

/-- A raster lies where it lies, so scaling to its own size and extent leaves it alone. Sampling it
there gives the same raster, whatever the kernel. -/
theorem scale_in_place (h : r.WellFormed) (haxes : r.envelope.axes = [x.exact, y.exact])
    (hx : x.min < x.max) (hy : y.min < y.max) (hn : ∀ b ∈ r.bands, b.data.size < 2 ^ 62)
    (hc : ∀ b ∈ r.bands, b.IsComplete) (method : Interpolation) :
    r.envelope.isNear sameBox r.envelope = true ∧
      r.scale r.envelope r.width r.height method = .ok r ∧
      r.resampleOver r.envelope r.width r.height method = .ok r := by
  have hnear : r.envelope.isNear sameBox r.envelope = true := by
    rw [h.envelope_eq haxes]
    exact Envelope.isNear_plane.mpr ⟨Interval.near_self x, Interval.near_self y⟩
  refine ⟨hnear, if_pos ⟨rfl, rfl, hnear⟩, ?_⟩
  show make r.width r.height (r.scaled r.envelope r.width r.height method).bands r.envelope
    r.crs = .ok r
  rw [bands_scaled_self h haxes hx hy hn hc method]
  exact h.make_eq fun b hb => (hn b hb).trans (by decide)

section Oblong

def oblongRaster : Raster Exact Exact where
  width := 3
  height := 2
  bands := [⟨"a", Pattern.ramp 3 2, none⟩, ⟨"b", Pattern.columnRow 3 2, some (.finite 7)⟩]
  envelope := .plane ⟨0, 2⟩ ⟨1, 5⟩ (some (.ofCode .webMercator))
  crs := .ofCode .webMercator

theorem oblongRaster_wellFormed : oblongRaster.WellFormed where
  width_pos := by decide
  height_pos := by decide
  size_eq := by decide
  crs_eq := rfl
  order_eq := rfl

theorem scale_in_place_oblong :
    oblongRaster.WellFormed ∧ (∀ b ∈ oblongRaster.bands, b.IsComplete) ∧
      oblongRaster.scale oblongRaster.envelope 3 2 .cubic = .ok oblongRaster ∧
      oblongRaster.resampleOver oblongRaster.envelope 3 2 .cubic = .ok oblongRaster := by
  have hc : ∀ b ∈ oblongRaster.bands, b.IsComplete := by
    decide +kernel
  obtain ⟨-, hscale, hslow⟩ := scale_in_place oblongRaster_wellFormed rfl (by norm_num)
    (by norm_num) (by decide) hc .cubic
  exact ⟨oblongRaster_wellFormed, hc, hscale, hslow⟩

end Oblong

end Raster

end GeoRaster
