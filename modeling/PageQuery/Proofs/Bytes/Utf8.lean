import PageQuery.Bytes.Utf8

namespace PageQuery.Utf8

/-!
# Texts are read back from their bytes

* `forall_byte`: what holds of the bytes of all small numbers holds of all bytes;
* `continued_cons`: a byte that goes on with a character adds six bits to it;
* `unit_encodeChar`: the bytes of a character are read as one unit, whatever follows them;
* `exists_encodeChar_eq_cons`: the bytes of a character beyond ASCII start beyond ASCII;
* `units_encode`: the units of the bytes of a text are its characters;
* `decodeStrict_encode`: the text is read back.
-/

/-! ### Characters -/

/-- A number below 256 is read back from its byte. -/
theorem toNat_byte {n : Nat} (h : n < 256) : (UInt8.ofNat n).toNat = n :=
  UInt8.toNat_ofNat_of_lt' (show n < UInt8.size from h)

/-- Every byte is that of a number below 256, so that what can be decided of these is decided of all bytes. -/
@[elab_as_elim]
theorem forall_byte {P : UInt8 → Prop} (h : ∀ n < 256, P (UInt8.ofNat n)) (b : UInt8) : P b := by
  have hb := h b.toNat b.toNat_lt
  rwa [UInt8.ofNat_toNat] at hb

/-- A byte that goes on with a character adds six bits to it. -/
theorem continued_cons (first : UInt8) (size acc more : Nat) {lo hi d : Nat} (hd : d < 64) (hlo : lo ≤ 0x80 + d)
    (hhi : 0x80 + d ≤ hi) (rest : Bytes) :
    continued first size acc (more + 1) lo hi (UInt8.ofNat (0x80 + d) :: rest) =
      continued first (size + 1) (acc * 64 + d) more 0x80 0xBF rest := by
  rw [continued, toNat_byte (by omega), if_pos (by simp [hlo, hhi]), Nat.add_sub_cancel_left]

/-- A first byte beyond ASCII is followed by what its shape asks for. -/
theorem unit_of_shape {n more acc lo hi : Nat} (hlo : 0x80 ≤ n) (hhi : n < 256)
    (hshape : shape? n = some (more, acc, lo, hi)) (rest : Bytes) :
    unit (UInt8.ofNat n) rest = continued (UInt8.ofNat n) 1 acc more lo hi rest := by
  rw [unit, toNat_byte hhi, if_neg (Nat.not_lt.2 hlo), hshape]

/-- The first byte of two. -/
theorem shape?_two {a : Nat} (hlo : 2 ≤ a) (hhi : a < 32) : shape? (0xC0 + a) = some (1, a, 0x80, 0xBF) := by
  have hall : ∀ a < 32, a < 2 ∨ shape? (0xC0 + a) = some (1, a, 0x80, 0xBF) := by decide
  exact (hall a hhi).resolve_left (Nat.not_lt.2 hlo)

/-- The first byte of three, with the bounds that leave out longer forms of short characters, and surrogates. -/
theorem shape?_three {a : Nat} (h : a < 16) :
    shape? (0xE0 + a) = some (2, a, if a = 0 then 0xA0 else 0x80, if a = 13 then 0x9F else 0xBF) := by
  revert a
  decide

/-- The first byte of four, with the bounds that leave out longer forms of short characters, and numbers that are too
    large. -/
theorem shape?_four {a : Nat} (h : a < 5) :
    shape? (0xF0 + a) = some (3, a, if a = 0 then 0x90 else 0x80, if a = 4 then 0x8F else 0xBF) := by
  revert a
  decide

/-- The bytes of a character are read as one unit, whatever follows them. -/
theorem unit_encodeChar (c : Char) (rest : Bytes) :
    ∃ b bs, encodeChar c = b :: bs ∧ unit b (bs ++ rest) = .char c (bs.length + 1) := by
  have hvalid : c.toNat < 0xD800 ∨ 0xDFFF < c.toNat ∧ c.toNat < 0x110000 := c.valid
  have hcode : Char.ofNat c.toNat = c := Char.ofNat_toNat c
  simp only [encodeChar, Nat.div_one]
  generalize c.toNat = n at hvalid hcode
  -- the bits that the bytes add one after the other are those of the number
  have hpair : n / 64 * 64 + n % 64 = n := Nat.div_add_mod' n 64
  have htriple : n / 4096 * 64 + n / 64 % 64 = n / 64 := by omega
  have hquad : n / 262144 * 64 + n / 4096 % 64 = n / 4096 := by omega
  have hmod : ∀ m, m % 64 < 64 := fun m => Nat.mod_lt m (by decide)
  by_cases hone : n < 0x80
  · refine ⟨_, _, if_pos hone, ?_⟩
    rw [unit, toNat_byte (by omega), if_pos hone, hcode]
    rfl
  by_cases htwo : n < 0x800
  · refine ⟨_, _, by rw [if_neg hone, if_pos htwo], ?_⟩
    rw [unit_of_shape (by omega) (by omega) (shape?_two (a := n / 64) (by omega) (by omega)), List.singleton_append,
      continued_cons _ _ _ _ (hmod _) (by omega) (by omega), hpair, continued, hcode]
    rfl
  by_cases hthree : n < 0x10000
  · refine ⟨_, _, by rw [if_neg hone, if_neg htwo, if_pos hthree], ?_⟩
    rw [unit_of_shape (by omega) (by omega) (shape?_three (a := n / 4096) (by omega)), List.cons_append,
      List.singleton_append, continued_cons _ _ _ _ (hmod _) (by split <;> omega) (by split <;> omega),
      continued_cons _ _ _ _ (hmod _) (by omega) (by omega), htriple, hpair, continued, hcode]
    rfl
  · refine ⟨_, _, by rw [if_neg hone, if_neg htwo, if_neg hthree], ?_⟩
    rw [unit_of_shape (by omega) (by omega) (shape?_four (a := n / 262144) (by omega)), List.cons_append,
      List.cons_append, List.singleton_append,
      continued_cons _ _ _ _ (hmod _) (by split <;> omega) (by split <;> omega),
      continued_cons _ _ _ _ (hmod _) (by omega) (by omega), continued_cons _ _ _ _ (hmod _) (by omega) (by omega),
      hquad, htriple, hpair, continued, hcode]
    rfl

/-- The first byte of a character beyond ASCII is beyond ASCII. -/
theorem exists_encodeChar_eq_cons {c : Char} (h : 128 ≤ c.toNat) :
    ∃ b bs, encodeChar c = b :: bs ∧ 128 ≤ b.toNat := by
  have hvalid : c.toNat < 0xD800 ∨ 0xDFFF < c.toNat ∧ c.toNat < 0x110000 := c.valid
  simp only [encodeChar]
  rw [if_neg (Nat.not_lt.2 h)]
  by_cases htwo : c.toNat < 0x800
  · rw [if_pos htwo]
    exact ⟨_, _, rfl, by rw [toNat_byte (by omega)]; omega⟩
  rw [if_neg htwo]
  by_cases hthree : c.toNat < 0x10000
  · rw [if_pos hthree]
    exact ⟨_, _, rfl, by rw [toNat_byte (by omega)]; omega⟩
  · rw [if_neg hthree]
    exact ⟨_, _, rfl, by rw [toNat_byte (by omega)]; omega⟩

/-! ### Texts -/

/-- Bytes that have been read are passed over. -/
theorem unitsFrom_append (bs rest : Bytes) : unitsFrom bs.length (bs ++ rest) = units rest := by
  induction bs with
  | nil => rfl
  | cons b bs ih => exact ih

/-- The units of the bytes of a text are its characters, each with the number of its bytes. -/
theorem units_encode (t : Text) : units (encode t) = t.map fun c => .char c (encodeChar c).length := by
  induction t with
  | nil => rfl
  | cons c t ih =>
    obtain ⟨b, bs, hbytes, hunit⟩ := unit_encodeChar c (encode t)
    have hencode : encode (c :: t) = b :: (bs ++ encode t) := by
      rw [encode, List.flatMap_cons, hbytes]
      rfl
    rw [List.map_cons, ← ih, hencode, hbytes, units, unitsFrom, hunit]
    exact congrArg _ (unitsFrom_append bs (encode t))

/-- Units that are characters are read as these. -/
theorem strict_map_char (position : Nat) (size : Char → Nat) (t : Text) :
    strict position (t.map fun c => .char c (size c)) = .ok t := by
  induction t generalizing position with
  | nil => rfl
  | cons c t ih =>
    rw [List.map_cons, strict, ih]
    rfl

/-- A text is read back from its bytes. -/
theorem decodeStrict_encode (t : Text) : decodeStrict (encode t) = .ok t := by
  rw [decodeStrict, units_encode, strict_map_char]

/-- The bytes of a text are none only if the text is empty. -/
theorem encode_eq_nil_iff {t : Text} : encode t = [] ↔ t = [] := by
  constructor
  · intro h
    have hread := decodeStrict_encode t
    rw [h] at hread
    exact (Except.ok.inj hread).symm
  · rintro rfl
    rfl

end PageQuery.Utf8
