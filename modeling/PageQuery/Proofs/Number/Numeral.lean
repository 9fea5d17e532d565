import PageQuery.Number.Numeral

namespace PageQuery

/-!
# Numerals that can be written

A whole number is written if it has no more than `Numeral.maxDigits` digits. The doubles that are whole
numbers are far below that.

* `Numeral.exists_ofInt_eq_ok_iff`: which whole numbers have a numeral;
* `Binary64.natAbs_lt_of_whole?`: how large the doubles that are whole numbers are.
-/

theorem twoTo_add (j k : Nat) : twoTo (j + k) = twoTo j * twoTo k := Nat.pow_add 2 j k

theorem twoTo_le_twoTo {j k : Nat} (h : j ≤ k) : twoTo j ≤ twoTo k := Nat.pow_le_pow_right Nat.two_pos h

theorem tenTo_le_tenTo {j k : Nat} (h : j ≤ k) : tenTo j ≤ tenTo k := Nat.pow_le_pow_right (by decide) h

theorem tenTo_succ (k : Nat) : tenTo (k + 1) = 10 * tenTo k := Nat.pow_succ'

theorem twoTo_le_tenTo (k : Nat) : twoTo k ≤ tenTo k := Nat.pow_le_pow_left (by decide) k

namespace Numeral

/-- Numbers below a power of ten are those of no more digits than its exponent. -/
theorem length_ofNat_le_iff {n k : Nat} (hk : 0 < k) : (Text.ofNat n).length ≤ k ↔ n < tenTo k :=
  Nat.length_toDigits_le_iff (by decide) hk

/-- A whole number below the power of ten that has one digit too many is written. -/
theorem ofInt_of_lt {n : Int} (h : n.natAbs < tenTo maxDigits) : ofInt n = .ok (Text.ofInt n) := by
  have hlength : (Text.ofNat n.natAbs).length ≤ maxDigits :=
    (length_ofNat_le_iff (by decide)).2 h
  rw [ofInt, if_neg (Nat.not_lt.2 hlength)]

/-- Any other whole number is too large. -/
theorem ofInt_of_le {n : Int} (h : tenTo maxDigits ≤ n.natAbs) : ofInt n = .error .tooLarge := by
  have hlength : maxDigits < (Text.ofNat n.natAbs).length :=
    Nat.lt_of_not_le fun hle => Nat.not_lt.2 h ((length_ofNat_le_iff (by decide)).1 hle)
  rw [ofInt, if_pos hlength]

/-- The whole numbers that are written are those of no more digits than a numeral may have. -/
theorem exists_ofInt_eq_ok_iff {n : Int} : (∃ t, ofInt n = .ok t) ↔ n.natAbs < tenTo maxDigits := by
  constructor
  · rintro ⟨t, ht⟩
    refine Nat.lt_of_not_le fun hle => ?_
    rw [ofInt_of_le hle] at ht
    cases ht
  · exact fun h => ⟨_, ofInt_of_lt h⟩

end Numeral

namespace Binary64

/-- The whole number of a double is below the 53rd power of two, and its power of two no more than the
    972nd. -/
theorem parts_bounds (x : Float) : (parts x).2.1 < twoTo 53 ∧ (parts x).2.2 ≤ 972 := by
  have hlow : x.toBits.toNat % twoTo 52 < twoTo 52 := Nat.mod_lt _ (Nat.two_pow_pos 52)
  have hfield : x.toBits.toNat / twoTo 52 % 2048 < 2048 := Nat.mod_lt _ (by decide)
  have htwice : twoTo 52 + twoTo 52 = twoTo 53 := rfl
  rw [parts]
  dsimp only
  split
  · constructor
    · show x.toBits.toNat % twoTo 52 < twoTo 53
      omega
    · show (-1074 : Int) ≤ 972
      decide
  · constructor
    · show x.toBits.toNat % twoTo 52 + twoTo 52 < twoTo 53
      omega
    · show ((x.toBits.toNat / twoTo 52 % 2048 : Nat) : Int) - 1075 ≤ 972
      omega

/-- A double that is a whole number is below the 1025th power of two. -/
theorem natAbs_lt_of_whole? {x : Float} {n : Int} (h : whole? x = some n) : n.natAbs < twoTo 1025 := by
  obtain ⟨hm, he⟩ := parts_bounds x
  generalize hparts : parts x = p at hm he
  obtain ⟨negative, m, e⟩ := p
  dsimp only at hm he
  -- the sign does not count
  have hsigned : ∀ size : Int, (if negative then -size else size).natAbs = size.natAbs := by
    intro size
    split <;> simp
  rw [whole?, hparts] at h
  split at h
  · cases h
  · obtain ⟨_, hbind, rfl⟩ := Option.map_eq_some_iff.1 h
    obtain ⟨size, hsize, hcast⟩ := Option.bind_eq_some_iff.1 hbind
    obtain rfl := Option.some.inj hcast
    rw [hsigned]
    clear h hbind hcast
    cases e with
    | ofNat k =>
      obtain rfl : m * twoTo k = size := Option.some.inj hsize
      have hk : k ≤ 972 := Int.ofNat_le.1 he
      calc m * twoTo k < twoTo 53 * twoTo k := Nat.mul_lt_mul_of_pos_right hm (Nat.two_pow_pos k)
        _ ≤ twoTo 53 * twoTo 972 := Nat.mul_le_mul_left _ (twoTo_le_twoTo hk)
        _ = twoTo 1025 := (twoTo_add 53 972).symm
    | negSucc k =>
      obtain ⟨-, rfl⟩ : m % twoTo (k + 1) = 0 ∧ m / twoTo (k + 1) = size := by simpa using hsize
      calc m / twoTo (k + 1) ≤ m := Nat.div_le_self m _
        _ < twoTo 53 := hm
        _ ≤ twoTo 1025 := twoTo_le_twoTo (by decide)

/-- A double that is a whole number is written. -/
theorem ofInt_of_whole? {x : Float} {n : Int} (h : whole? x = some n) :
    Numeral.ofInt n = .ok (Text.ofInt n) := by
  refine Numeral.ofInt_of_lt ?_
  calc n.natAbs < twoTo 1025 := natAbs_lt_of_whole? h
    _ ≤ tenTo 1025 := twoTo_le_tenTo 1025
    _ ≤ tenTo Numeral.maxDigits := tenTo_le_tenTo (by decide)

end Binary64

end PageQuery
