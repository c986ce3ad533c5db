import GeoRaster.Reader.Encoding
import Mathlib

namespace GeoRaster.Single

open Float.Model (Format)
open Float.Model.UnpackedFloat

abbrev single : Format := Format.binary32

variable {b : BitVec single.numBits}

theorem toBitVec_sign (s : BitVec 1) : (Sign.ofBitVec s).toBitVec = s := by
  revert s
  decide

theorem packComponents_parts (b : BitVec single.numBits) :
    packComponents single (.ofBitVec (unpackSign b)) (unpackExponent b) (unpackMantissa b) = b := by
  rw [packComponents, toBitVec_sign, unpackSign, unpackExponent, unpackMantissa]
  simp only [BitVec.extractLsb]
  ext i hi
  grind

theorem packComponents_of_parts {e : BitVec single.exponentBits}
    {m : BitVec single.mantissaBitsWithoutImplicit} (he : e = unpackExponent b)
    (hm : m = unpackMantissa b) :
    packComponents single (.ofBitVec (unpackSign b)) e m = b := by
  rw [he, hm]
  exact packComponents_parts b

theorem log2_mantissa (m : BitVec single.mantissaBitsWithoutImplicit) (hm : m.toNat ≠ 0) :
    m.toNat.log2 + 1 ≠ single.mantissaBits := by
  have hlt : m.toNat.log2 < 23 := (Nat.log2_lt hm).mpr m.isLt
  show m.toNat.log2 + 1 ≠ 24
  omega

theorem toNat_implicit (m : BitVec single.mantissaBitsWithoutImplicit) :
    (1#1 ++ m).toNat = 2 ^ 23 + m.toNat := by
  rw [BitVec.toNat_append, ← Nat.shiftLeft_add_eq_or_of_lt m.isLt, Nat.shiftLeft_eq]
  rfl

theorem log2_implicit (m : BitVec single.mantissaBitsWithoutImplicit) :
    (1#1 ++ m).toNat.log2 + 1 = single.mantissaBits := by
  have hm : m.toNat < 2 ^ 23 := m.isLt
  have hn := toNat_implicit m
  have hl : 23 ≤ (1#1 ++ m).toNat.log2 := (Nat.le_log2 (by omega)).mpr (by omega)
  have hu : (1#1 ++ m).toNat.log2 < 24 := (Nat.log2_lt (by omega)).mpr (by omega)
  show _ = 24
  omega

theorem pack_unpack (h : single.Valid b) : pack single (unpack single b) = b := by
  have he : (unpackExponent b).toNat < 2 ^ 8 := (unpackExponent b).isLt
  rw [unpack]
  split
  · rename_i hones
    split
    · rename_i hm
      exact packComponents_of_parts hones.symm hm.symm
    · rename_i hm
      exact (h.eq_packedNaN hones hm).symm
  · rename_i hones
    have hlast : (unpackExponent b).toNat ≠ 2 ^ 8 - 1 := fun hn =>
      hones (BitVec.toNat_inj.mp (by simpa using hn))
    split
    · rename_i hzero
      split
      · rename_i hm
        exact packComponents_of_parts hzero.symm hm.symm
      · rename_i hm
        have hne : (unpackMantissa b).toNat ≠ 0 := fun hn =>
          hm (BitVec.toNat_inj.mp (by simpa using hn))
        rw [pack]
        simp only [log2_mantissa _ hne, if_false]
        rw [if_neg]
        · exact packComponents_of_parts hzero.symm (by simp)
        · rw [hzero]
          decide
    · -- The stored exponent comes back unbiased, and the leading bit of the mantissa is dropped.
      have hbiased : ((unpackExponent b).toNat -
          (single.exponentBias + single.mantissaBitsWithoutImplicit : Int) + single.exponentBias +
          single.mantissaBitsWithoutImplicit).toNat = (unpackExponent b).toNat := by
        omega
      rw [pack]
      simp only [hbiased]
      rw [if_neg, if_pos (log2_implicit _)]
      · apply packComponents_of_parts
        · simp
        · apply BitVec.toNat_inj.mp
          have hm : (unpackMantissa b).toNat < 2 ^ 23 := (unpackMantissa b).isLt
          rw [BitVec.toNat_ofNat, toNat_implicit]
          show (2 ^ 23 + _) % 2 ^ 23 = _
          omega
      · show ¬ 2 ^ 8 ≤ _
        omega

theorem ofBits_toBits (x : Float32) : Float32.ofBits x.toBits = x := by
  obtain ⟨⟨w, hw⟩⟩ := x
  have h := pack_unpack hw
  simp [Float32.ofBits, Float32.toBits, Float32.Model.ofBits, Float32.Model.pack, h]

theorem compare_self (u : Float.Model.UnpackedFloat) (h : u.isNaN = false) :
    u.compare u = some .eq := by
  cases u with
  | notANumber => exact absurd h (by simp [isNaN])
  | infinity s => cases s <;> rfl
  | zero s => cases s <;> rfl
  | finite s m e hm => cases s <;> simp [Float.Model.UnpackedFloat.compare]

theorem beq_self (x : Float32) (h : x.isNaN = false) : (x == x) = true := by
  show (x.toModel.unpack.compare x.toModel.unpack == some .eq) = true
  rw [compare_self _ h]
  rfl

theorem compare_eq_comm (u v : Float.Model.UnpackedFloat) :
    u.compare v = some .eq ↔ v.compare u = some .eq := by
  cases u with
  | notANumber => cases v <;> simp [Float.Model.UnpackedFloat.compare]
  | infinity s | zero s =>
    cases s <;> cases v with
    | notANumber => simp [Float.Model.UnpackedFloat.compare]
    | _ s' => cases s' <;> simp [Float.Model.UnpackedFloat.compare]
  | finite s m e hm =>
    cases s <;> cases v with
    | notANumber => simp [Float.Model.UnpackedFloat.compare]
    | infinity s' | zero s' => cases s' <;> simp [Float.Model.UnpackedFloat.compare]
    | finite s' m' e' hm' =>
      have h : (compare e e').then (compare m m') = .eq ↔
          (compare e' e).then (compare m' m) = .eq := by
        rw [Ordering.then_eq_eq, Ordering.then_eq_eq, Std.compare_eq_iff_eq, Std.compare_eq_iff_eq,
          Std.compare_eq_iff_eq, Std.compare_eq_iff_eq, eq_comm, @eq_comm _ m]
      cases s' <;> simp [Float.Model.UnpackedFloat.compare, h]

theorem beq_comm (x y : Float32) : (x == y) = (y == x) := by
  rw [Bool.eq_iff_iff]
  show (x.toModel.unpack.compare y.toModel.unpack == some .eq) = true ↔
    (y.toModel.unpack.compare x.toModel.unpack == some .eq) = true
  rw [beq_iff_eq, beq_iff_eq]
  exact compare_eq_comm _ _

theorem isNaN_nan : Scalar.isNaN (Scalar.nan : Float32) = true := by
  decide

end GeoRaster.Single
