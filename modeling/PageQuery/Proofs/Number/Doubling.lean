import Mathlib
import PageQuery.Proofs.Number.Numeral

namespace PageQuery.Binary64

/-!
# Powers of two as doubles

The powers of two below the 1024th are doubles, exactly. From there on they are beyond the largest double.

* `ofRatio_twoTo`, `pack_scaled`: what a power of two is packed as, and the bits of that;
* `unpack_packed`, `parts_ofExponent`: the double of an exponent, apart;
* `ofInt?_twoTo`: which powers of two are doubles;
* `whole?_ofRatio_twoTo`: these doubles are equal to the powers.
-/

open Float.Model (UnpackedFloat)
open Float.Model.Format (binary64)
open Float.Model.UnpackedFloat (Sign packComponents unpackMantissa_packComponents unpackExponent_packComponents
  unpackSign_packComponents)

/-! ### Packing -/

theorem twoTo_pos (k : Nat) : 0 < twoTo k := Nat.two_pow_pos k

/-- A power of two is the 52nd one, scaled up or down. -/
theorem scale_cases (k : Nat) :
    (∃ j, k = 52 + j ∧ (k : Int) - 52 = .ofNat j) ∨ ∃ j, k + (j + 1) = 52 ∧ (k : Int) - 52 = .negSucc j := by
  rcases Nat.lt_or_ge k 52 with hlt | hle
  · exact .inr ⟨51 - k, by omega, by omega⟩
  · exact .inl ⟨k - 52, by omega, by rw [Int.ofNat_eq_natCast]; omega⟩

/-- A quotient without remainder is not rounded. -/
theorem roundDiv_mul (q : Nat) {den : Nat} (hden : 0 < den) : roundDiv (q * den) den = q := by
  simp [roundDiv, Nat.mul_div_cancel _ hden, hden]

theorem roundScaled_twoTo (k : Nat) : roundScaled (twoTo k) 1 ((k : Int) - 52) = twoTo 52 := by
  rcases scale_cases k with ⟨j, rfl, hexponent⟩ | ⟨j, hk, hexponent⟩
  · rw [hexponent, roundScaled, Nat.one_mul, twoTo_add, roundDiv_mul _ (twoTo_pos j)]
  · have hexact : roundDiv (twoTo 52 * 1) 1 = twoTo 52 := roundDiv_mul _ Nat.one_pos
    rw [hexponent, roundScaled, ← twoTo_add, hk, ← Nat.mul_one (twoTo 52), hexact, Nat.mul_one]

/-- A power of two is packed as the 52nd one, scaled. -/
theorem ofRatio_twoTo (k : Nat) : ofRatio false (twoTo k) 1 = pack false (twoTo 52) ((k : Int) - 52) := by
  have hlog : (twoTo k).log2 = k := Nat.log2_two_pow
  have hone : Nat.log2 1 = 0 := by decide
  have hnonzero : twoTo k ≠ 0 := Nat.ne_of_gt (twoTo_pos k)
  have hround : twoTo 52 ≠ twoTo 53 := by decide
  have hscaled := roundScaled_twoTo k
  -- the first guess of the exponent is right
  rcases scale_cases k with ⟨j, hk, hexponent⟩ | ⟨j, hk, hexponent⟩
  · have hshort : ¬twoTo k < twoTo j * twoTo 52 := by
      rw [hk, twoTo_add, Nat.mul_comm]
      exact Nat.lt_irrefl _
    rw [hexponent, Int.ofNat_eq_natCast] at hscaled
    simp [ofRatio, hlog, hone, hnonzero, hexponent, hshort, hscaled, hround]
  · have hshort : ¬twoTo k * twoTo (j + 1) < twoTo 52 := by
      rw [← twoTo_add, hk]
      exact Nat.lt_irrefl _
    have hlow : max (.negSucc j) (-1074) = Int.negSucc j := by omega
    rw [hexponent] at hscaled
    simp [ofRatio, hlog, hone, hnonzero, hexponent, hshort, hlow, hscaled, hround]

/-! ### Doubles with an exponent only -/

/-- The double whose bits are those of an exponent. -/
def ofExponent (f : Nat) : Float := Float.ofBits (UInt64.ofNat (f * twoTo 52))

/-- A power of two has the bits of its exponent, and those of infinity if it is too large. -/
theorem pack_scaled (k : Nat) :
    pack false (twoTo 52) ((k : Int) - 52) = ofExponent (if k < 1024 then k + 1023 else 2047) := by
  have hfield : ((k : Int) - 52 + 1075).toNat = k + 1023 := by omega
  have hlarge : (971 : Int) < (k : Int) - 52 ↔ ¬k < 1024 := by omega
  by_cases hk : k < 1024
  · have hsmall : ¬(971 : Int) < (k : Int) - 52 := fun h => hlarge.1 h hk
    simp [pack, ofExponent, hk, hsmall, hfield]
  · simp [pack, ofExponent, hk, hlarge.2 hk]

/-- The word of an exponent without other bits. -/
abbrev packed (f : Nat) : BitVec 64 := packComponents .binary64 .positive (BitVec.ofNat 11 f) 0

/-- What the word of an exponent stands for. -/
abbrev unpacked (f : Nat) : UnpackedFloat := .finite .positive (2 ^ 52) ((f : Int) - 1075) (by decide)

theorem toNat_exponent {f : Nat} (hf : f < 2048) : (BitVec.ofNat 11 f).toNat = f := by
  rw [BitVec.toNat_ofNat]
  exact Nat.mod_eq_of_lt hf

theorem word_lt {f : Nat} (hf : f < 2048) : f * twoTo 52 < 2 ^ 63 :=
  calc f * twoTo 52 < 2048 * twoTo 52 := Nat.mul_lt_mul_of_pos_right hf (twoTo_pos 52)
    _ = 2 ^ 63 := by decide

theorem toNat_packed {f : Nat} (hf : f < 2048) : (packed f).toNat = f * twoTo 52 := by
  have hsign : Sign.positive.toBitVec.toNat = 0 := rfl
  have hmantissa : BitVec.toNat (0 : BitVec binary64.mantissaBitsWithoutImplicit) = 0 := rfl
  rw [packed, packComponents, BitVec.toNat_append, BitVec.toNat_append, hsign, hmantissa, toNat_exponent hf,
    Nat.zero_shiftLeft, Nat.zero_or, Nat.or_zero, Nat.shiftLeft_eq]
  rfl

theorem toBitVec_word {f : Nat} (hf : f < 2048) : (UInt64.ofNat (f * twoTo 52)).toBitVec = packed f := by
  have hword : f * twoTo 52 < 2 ^ 64 := Nat.lt_trans (word_lt hf) (by decide)
  refine BitVec.eq_of_toNat_eq ?_
  rw [UInt64.toNat_toBitVec, UInt64.toNat_ofNat', Nat.mod_eq_of_lt hword, toNat_packed hf]

/-- An exponent that is neither zero nor the largest one stands for a finite number. -/
theorem unpack_packed {f : Nat} (hf : 0 < f) (hf' : f < 2047) :
    UnpackedFloat.unpack .binary64 (packed f) = unpacked f := by
  have hexponent := toNat_exponent (Nat.lt_succ_of_lt hf')
  have hzero : BitVec.ofNat 11 f ≠ 0#_ := by
    intro h
    rw [h, BitVec.toNat_ofNat] at hexponent
    omega
  have hones : BitVec.ofNat 11 f ≠ -1#_ := by
    intro h
    rw [h] at hexponent
    exact absurd hexponent (by simp; omega)
  have hone : (1#1 ++ (0 : BitVec binary64.mantissaBitsWithoutImplicit)).toNat = 2 ^ 52 := by decide
  have hbias : (binary64.exponentBias + binary64.mantissaBitsWithoutImplicit : Int) = 1075 := by decide
  unfold UnpackedFloat.unpack
  simp only [unpackMantissa_packComponents, unpackExponent_packComponents, unpackSign_packComponents, if_neg hones,
    if_neg hzero, hexponent, hone, hbias, Sign.ofBitVec_toBitVec]

/-- A word without other bits is not that of a number that is none, so it is kept. -/
theorem toBitVec_ofExponent {f : Nat} (hf : f < 2048) : (ofExponent f).toModel.toBits.toBitVec = packed f := by
  have hvalid : binary64.Valid (packed f) :=
    ⟨fun _ hmantissa => absurd unpackMantissa_packComponents hmantissa⟩
  show UnpackedFloat.pack .binary64
    (UnpackedFloat.unpack .binary64 (UInt64.ofNat (f * twoTo 52)).toBitVec) = packed f
  rw [toBitVec_word hf, UnpackedFloat.pack_unpack_of_valid hvalid]

theorem toNat_toBits_ofExponent {f : Nat} (hf : f < 2048) : (ofExponent f).toBits.toNat = f * twoTo 52 := by
  show (ofExponent f).toModel.toBits.toBitVec.toNat = f * twoTo 52
  rw [toBitVec_ofExponent hf, toNat_packed hf]

theorem isFinite_ofExponent {f : Nat} (hf : 0 < f) (hf' : f < 2047) : isFinite (ofExponent f) = true := by
  have hmodel : (ofExponent f).toModel.unpack = unpacked f := by
    rw [Float.Model.unpack, toBitVec_ofExponent (Nat.lt_succ_of_lt hf'), unpack_packed hf hf']
  show (!((ofExponent f).toModel.unpack.isNaN || (ofExponent f).toModel.unpack.isInf)) = true
  rw [hmodel]
  rfl

/-- The parts of a double with an exponent only. -/
theorem parts_ofExponent {f : Nat} (hf : 0 < f) (hf' : f < 2047) :
    parts (ofExponent f) = (false, twoTo 52, (f : Int) - 1075) := by
  have hfield : f * twoTo 52 / twoTo 52 % 2048 = f := by
    rw [Nat.mul_div_cancel _ (twoTo_pos 52)]
    exact Nat.mod_eq_of_lt (Nat.lt_succ_of_lt hf')
  have hpositive : ¬twoTo 63 ≤ f * twoTo 52 := Nat.not_le.2 (word_lt (Nat.lt_succ_of_lt hf'))
  simp [parts, toNat_toBits_ofExponent (Nat.lt_succ_of_lt hf'), hfield, hpositive, Nat.ne_of_gt hf]

/-! ### Powers of two -/

theorem ofRatio_twoTo_of_lt {k : Nat} (hk : k < 1024) : ofRatio false (twoTo k) 1 = ofExponent (k + 1023) := by
  rw [ofRatio_twoTo, pack_scaled, if_pos hk]

/-- The powers of two below the 1024th are doubles, and no others are. -/
theorem ofInt?_twoTo (k : Nat) :
    ofInt? (twoTo k) = if k < 1024 then some (ofRatio false (twoTo k) 1) else none := by
  have hsign : ((twoTo k : Int) < 0) = False := by simp
  by_cases hk : k < 1024
  · have hfinite := isFinite_ofExponent (f := k + 1023) (by omega) (by omega)
    have hinf : (ofExponent (k + 1023)).isInf = false := by
      rw [isFinite] at hfinite
      simp_all
    simp [ofInt?, hk, ofRatio_twoTo_of_lt hk, hinf, hsign]
  · have hinf : (ofExponent 2047).isInf = true := by decide
    simp [ofInt?, hk, ofRatio_twoTo, pack_scaled, hinf, hsign]

/-- The double of such a power is equal to it. -/
theorem whole?_ofRatio_twoTo {k : Nat} (hk : k < 1024) :
    whole? (ofRatio false (twoTo k) 1) = some (twoTo k : Int) := by
  have hscale : ((k + 1023 : Nat) : Int) - 1075 = (k : Int) - 52 := by omega
  rw [ofRatio_twoTo_of_lt hk, whole?, isFinite_ofExponent (by omega) (by omega),
    parts_ofExponent (by omega) (by omega), hscale]
  rcases scale_cases k with ⟨j, rfl, hexponent⟩ | ⟨j, hk, hexponent⟩
  · rw [hexponent]
    simp [twoTo_add]
  · have hpower : twoTo 52 = twoTo k * twoTo (j + 1) := by rw [← twoTo_add, hk]
    simp [hexponent, hpower, Nat.mul_div_cancel _ (twoTo_pos (j + 1))]

end PageQuery.Binary64
