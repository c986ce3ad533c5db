import GeoRaster.Proofs.Single
import Mathlib.Tactic.Ring

namespace GeoRaster

namespace SampleWord

variable {out file : ByteArray} {w : UInt32} {i : ℕ}

theorem byteAt_push_lt (c : UInt8) (h : i < out.size) : byteAt (out.push c) i = byteAt out i := by
  have h' : i < (out.push c).size := by
    rw [ByteArray.size_push]
    omega
  rw [byteAt, byteAt, dif_pos h, dif_pos h']
  congr 1
  exact Array.getElem_push_lt h

theorem byteAt_push_eq (c : UInt8) (h : i = out.size) : byteAt (out.push c) i = c.toUInt32 := by
  subst h
  have h' : out.size < (out.push c).size := by
    rw [ByteArray.size_push]
    omega
  rw [byteAt, dif_pos h']
  congr 1
  exact Array.getElem_push_eq

theorem join_bytes (w : UInt32) :
    w.toUInt8.toUInt32 ||| (w >>> 8).toUInt8.toUInt32 <<< 8 |||
      (w >>> 16).toUInt8.toUInt32 <<< 16 ||| (w >>> 24).toUInt8.toUInt32 <<< 24 = w := by
  apply UInt32.toNat_inj.mp
  apply Nat.eq_of_testBit_eq
  intro i
  have hw : 32 ≤ i → w.toNat.testBit i = false := fun h =>
    Nat.testBit_lt_two_pow (Nat.lt_of_lt_of_le w.toNat_lt (Nat.pow_le_pow_right (by decide) h))
  simp only [UInt32.toNat_or, UInt32.toNat_shiftLeft, UInt8.toNat_toUInt32, UInt32.toNat_toUInt8,
    UInt32.toNat_shiftRight, Nat.testBit_or, Nat.testBit_mod_two_pow, Nat.testBit_shiftLeft,
    Nat.testBit_shiftRight, UInt32.reduceToNat, Nat.reduceMod]
  have h8 : 8 ≤ i → 8 + (i - 8) = i := Nat.add_sub_of_le
  have h16 : 16 ≤ i → 16 + (i - 16) = i := Nat.add_sub_of_le
  have h24 : 24 ≤ i → 24 + (i - 24) = i := Nat.add_sub_of_le
  grind

@[simp]
theorem size_pushWord (out : ByteArray) (w : UInt32) : (pushWord out w).size = out.size + 4 := by
  simp [pushWord, ByteArray.size_push]

theorem byteAt_pushWord_lt (w : UInt32) (h : i < out.size) :
    byteAt (pushWord out w) i = byteAt out i := by
  rw [pushWord, byteAt_push_lt, byteAt_push_lt, byteAt_push_lt, byteAt_push_lt _ h]
  all_goals
    simp only [ByteArray.size_push]
    omega

theorem wordAt_pushWord_lt (w : UInt32) (h : i + 4 ≤ out.size) :
    wordAt (pushWord out w) i = wordAt out i := by
  rw [wordAt, wordAt, byteAt_pushWord_lt, byteAt_pushWord_lt, byteAt_pushWord_lt,
    byteAt_pushWord_lt]
  all_goals omega

theorem wordAt_pushWord_eq (w : UInt32) (h : i = out.size) : wordAt (pushWord out w) i = w := by
  have h₀ : byteAt (pushWord out w) i = w.toUInt8.toUInt32 := by
    rw [pushWord, byteAt_push_lt, byteAt_push_lt, byteAt_push_lt, byteAt_push_eq _ h]
    all_goals
      simp only [ByteArray.size_push]
      omega
  have h₁ : byteAt (pushWord out w) (i + 1) = (w >>> 8).toUInt8.toUInt32 := by
    rw [pushWord, byteAt_push_lt, byteAt_push_lt, byteAt_push_eq]
    all_goals
      simp only [ByteArray.size_push]
      omega
  have h₂ : byteAt (pushWord out w) (i + 2) = (w >>> 16).toUInt8.toUInt32 := by
    rw [pushWord, byteAt_push_lt, byteAt_push_eq]
    all_goals
      simp only [ByteArray.size_push]
      omega
  have h₃ : byteAt (pushWord out w) (i + 3) = (w >>> 24).toUInt8.toUInt32 := by
    rw [pushWord, byteAt_push_eq]
    simp only [ByteArray.size_push]
    omega
  rw [wordAt, h₀, h₁, h₂, h₃]
  exact join_bytes w

theorem wordAt_extract {first stop : ℕ} (hs : stop ≤ file.size) (h : first + i + 4 ≤ stop) :
    wordAt (file.extract first stop) i = wordAt file (first + i) := by
  have hb : ∀ k, first + k < stop →
      byteAt (file.extract first stop) k = byteAt file (first + k) := by
    intro k hk
    have hin : k < (file.extract first stop).size := by
      rw [ByteArray.size_extract]
      omega
    rw [byteAt, byteAt, dif_pos hin, dif_pos (by omega), ByteArray.getElem_extract]
  rw [wordAt, wordAt, hb _ (by omega), hb _ (by omega), hb _ (by omega), hb _ (by omega)]
  rfl

end SampleWord

open SampleWord

section Samples

variable {σ : Type}

/-- The samples of all bands one band after the other. -/
def samplesOf (bands : List (Band σ)) : List σ :=
  bands.flatMap fun b => b.data.toList

theorem length_samplesOf {bands : List (Band σ)} {n : ℕ} (h : ∀ b ∈ bands, b.data.size = n) :
    (samplesOf bands).length = bands.length * n := by
  induction bands with
  | nil => simp [samplesOf]
  | cons b bands ih =>
    have hb := h b (List.mem_cons_self ..)
    have := ih fun b hm => h b (List.mem_cons_of_mem _ hm)
    rw [samplesOf] at this ⊢
    rw [List.flatMap_cons, List.length_append, this, Array.length_toList, hb, List.length_cons]
    ring

theorem getElem?_samplesOf {bands : List (Band σ)} {n : ℕ} (h : ∀ b ∈ bands, b.data.size = n)
    {i k : ℕ} {b : Band σ} (hi : bands[i]? = some b) (hk : k < n) :
    (samplesOf bands)[i * n + k]? = b.data[k]? := by
  induction bands generalizing i with
  | nil => simp at hi
  | cons c bands ih =>
    have hc := h c (List.mem_cons_self ..)
    rw [samplesOf, List.flatMap_cons, ← samplesOf]
    cases i with
    | zero =>
      obtain rfl : c = b := by simpa using hi
      rw [List.getElem?_append_left (by rw [Array.length_toList]; omega)]
      simp
    | succ i =>
      have hle : c.data.toList.length ≤ (i + 1) * n + k := by
        rw [Array.length_toList, hc, Nat.succ_mul]
        omega
      rw [List.getElem?_append_right hle, ← ih (fun b hm => h b (List.mem_cons_of_mem _ hm))
        (by simpa using hi)]
      congr 1
      rw [Array.length_toList, hc, Nat.succ_mul]
      omega

variable [SampleWord σ] {out : ByteArray}

def pushSamples (out : ByteArray) (vs : List σ) : ByteArray :=
  vs.foldl (fun out v => pushWord out (toWord v)) out

theorem size_pushSamples (vs : List σ) :
    (pushSamples out vs).size = out.size + 4 * vs.length := by
  induction vs generalizing out with
  | nil => rfl
  | cons v vs ih =>
    rw [pushSamples, List.foldl_cons, ← pushSamples, ih, size_pushWord, List.length_cons]
    ring

theorem wordAt_pushSamples_lt (vs : List σ) {i : ℕ} (h : i + 4 ≤ out.size) :
    wordAt (pushSamples out vs) i = wordAt out i := by
  induction vs generalizing out with
  | nil => rfl
  | cons v vs ih =>
    rw [pushSamples, List.foldl_cons, ← pushSamples, ih, wordAt_pushWord_lt _ h]
    rw [size_pushWord]
    omega

theorem wordAt_pushSamples {vs : List σ} {k : ℕ} {v : σ} (h : vs[k]? = some v) :
    wordAt (pushSamples out vs) (out.size + 4 * k) = toWord v := by
  induction vs generalizing out k with
  | nil => simp at h
  | cons u vs ih =>
    rw [pushSamples, List.foldl_cons, ← pushSamples]
    cases k with
    | zero =>
      obtain rfl : u = v := by simpa using h
      rw [wordAt_pushSamples_lt _ (by simp), wordAt_pushWord_eq _ (by omega)]
    | succ k =>
      have hrest : wordAt (pushSamples (pushWord out (toWord u)) vs)
          ((pushWord out (toWord u)).size + 4 * k) = toWord v := ih (by simpa using h)
      rw [size_pushWord] at hrest
      rw [← hrest]
      congr 1
      ring

theorem encodeBands_eq (bands : List (Band σ)) :
    encodeBands bands = pushSamples ByteArray.empty (samplesOf bands) := by
  rw [encodeBands, pushSamples, samplesOf, List.foldl_flatMap]
  congr 1
  funext out b
  rw [Band.encodeOnto, Array.foldl_toList]

theorem size_encodeBands {bands : List (Band σ)} {n : ℕ} (h : ∀ b ∈ bands, b.data.size = n) :
    (encodeBands bands).size = 4 * (bands.length * n) := by
  rw [encodeBands_eq, size_pushSamples, length_samplesOf h, ByteArray.size_empty, Nat.zero_add]

theorem wordAt_encodeBands {bands : List (Band σ)} {n : ℕ} (h : ∀ b ∈ bands, b.data.size = n)
    {i k : ℕ} {b : Band σ} {v : σ} (hi : bands[i]? = some b) (hk : b.data[k]? = some v) :
    wordAt (encodeBands bands) (4 * (i * n + k)) = toWord v := by
  have hlt : k < n := by
    rw [← h b (List.mem_of_getElem? hi)]
    exact (Array.getElem?_eq_some_iff.mp hk).1
  have hs := (getElem?_samplesOf h hi hlt).trans hk
  have hword : wordAt (pushSamples ByteArray.empty (samplesOf bands))
      (ByteArray.empty.size + 4 * (i * n + k)) = toWord v := wordAt_pushSamples hs
  rwa [← encodeBands_eq, ByteArray.size_empty, Nat.zero_add] at hword

end Samples

theorem decodeSamples_extract {bands : List (Band Float32)} {n : ℕ}
    (h : ∀ b ∈ bands, b.data.size = n) {i : ℕ} {b : Band Float32} (hi : bands[i]? = some b)
    {first stop : ℕ} (hs : first ≤ stop) (hn : stop ≤ n) :
    (decodeSamples ((encodeBands bands).extract (4 * (i * n + first)) (4 * (i * n + stop))) :
      Array Float32) = b.data.extract first stop := by
  have hb := h b (List.mem_of_getElem? hi)
  have hle : 4 * (i * n + stop) ≤ (encodeBands bands).size := by
    have hlt : i + 1 ≤ bands.length := (List.getElem?_eq_some_iff.mp hi).1
    have := Nat.mul_le_mul_right n hlt
    rw [size_encodeBands h]
    rw [Nat.succ_mul] at this
    omega
  have hsize : ((encodeBands bands).extract (4 * (i * n + first)) (4 * (i * n + stop))).size =
      4 * (stop - first) := by
    rw [ByteArray.size_extract]
    omega
  apply Array.ext_getElem?
  intro k
  by_cases hk : k < stop - first
  · have hv : b.data[first + k]? = some b.data[first + k] := Array.getElem?_eq_getElem (by omega)
    have hw := wordAt_encodeBands h hi hv
    rw [Array.getElem?_extract, if_pos (by omega), hv]
    have hd : k < ((encodeBands bands).extract (4 * (i * n + first)) (4 * (i * n + stop))).size /
        bytes := by
      rw [hsize, bytes]
      omega
    have hat : 4 * (i * n + first) + bytes * k = 4 * (i * n + (first + k)) := by
      rw [bytes]
      ring
    rw [decodeSamples, Array.getElem?_ofFn, dif_pos hd, wordAt_extract hle, hat, hw]
    · exact congrArg some (Single.ofBits_toBits _)
    · rw [hat]
      omega
  · rw [Array.getElem?_eq_none, Array.getElem?_eq_none]
    · rw [Array.size_extract]
      omega
    · rw [decodeSamples, Array.size_ofFn, hsize, bytes]
      omega

end GeoRaster
