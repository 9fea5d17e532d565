import PageQuery.Bytes.Base64
import PageQuery.Proofs.Except
import PageQuery.Proofs.Number.Digits

namespace PageQuery.Base64

/-!
# Bytes are read back from their code

* `encodeSextet_spec`: six bits are read back from their character;
* `exists_sextets_encode`: the sextets of a code, whatever the padding, are those of the bytes;
* `exists_encode_cons`: the code of bytes starts with a character for six bits;
* `lt_of_mem_of_sextets`: a text that is read belongs to ASCII;
* `decode_encode`: the bytes are read back.
-/

variable {n : Nat}

/-! ### Characters -/

/-- The character for six bits stands for them, is not the sign of padding, and is neither white space nor beyond
    ASCII. -/
theorem encodeSextet_spec (h : n < 64) :
    sextet? (encodeSextet n) = some n ∧ encodeSextet n ≠ '=' ∧ Text.isSpace (encodeSextet n) = false ∧
      (encodeSextet n).toNat < 128 := by
  revert n
  decide

/-- Six bits are read from their character. -/
theorem sextets_cons (h : n < 64) (count : Nat) (rest : Text) :
    sextets count 0 (encodeSextet n :: rest) = (sextets (count + 1) 0 rest).map (n :: ·) := by
  obtain ⟨hread, hpad, -, -⟩ := encodeSextet_spec h
  rw [sextets, if_neg (by simpa using hpad), hread]
  rfl

/-- Two signs of padding fill up a group of two characters. -/
theorem sextets_pair {count : Nat} (h : count % 4 = 2) : sextets count 0 ['=', '='] = .ok [] := by
  simp [sextets, h]

/-- One sign of padding fills up a group of three characters. -/
theorem sextets_single {count : Nat} (h : count % 4 = 3) : sextets count 0 ['='] = .ok [] := by
  simp [sextets, h]

/-! ### Codes -/

/-- A byte is read back from its number. -/
theorem ofNat_eq {b : UInt8} (h : n = b.toNat) : UInt8.ofNat n = b := by
  rw [h, UInt8.ofNat_toNat]

/-- The sextets of a code are those of the bytes, group by group. -/
theorem exists_sextets_encode : ∀ (bs : Bytes) (count : Nat), count % 4 = 0 →
    ∃ ns, sextets count 0 (encode bs) = .ok ns ∧ gather ns = bs
  | [], count, hcount => ⟨[], by simp [encode, sextets, hcount], rfl⟩
  | [a], count, hcount => by
    have ha := a.toNat_lt
    refine ⟨[a.toNat / 4, a.toNat % 4 * 16], ?_, ?_⟩
    · rw [encode, sextets_cons (by omega), sextets_cons (by omega), sextets_pair (by omega)]
      rfl
    · rw [gather, ofNat_eq (b := a) (by omega)]
  | [a, b], count, hcount => by
    have ha := a.toNat_lt
    have hb := b.toNat_lt
    rw [encode]
    generalize hn : a.toNat * 256 + b.toNat = n
    refine ⟨[n / 1024, n / 16 % 64, n % 16 * 4], ?_, ?_⟩
    · rw [sextets_cons (by omega), sextets_cons (by omega), sextets_cons (by omega), sextets_single (by omega)]
      rfl
    · rw [gather, ofNat_eq (b := a) (by omega), ofNat_eq (b := b) (by omega)]
  | a :: b :: c :: rest, count, hcount => by
    have ha := a.toNat_lt
    have hb := b.toNat_lt
    have hc := c.toNat_lt
    obtain ⟨ns, hns, hrest⟩ := exists_sextets_encode rest (count + 1 + 1 + 1 + 1) (by omega)
    rw [encode]
    generalize hn : (a.toNat * 256 + b.toNat) * 256 + c.toNat = n
    refine ⟨n / 262144 :: n / 4096 % 64 :: n / 64 % 64 :: n % 64 :: ns, ?_, ?_⟩
    · rw [sextets_cons (by omega), sextets_cons (by omega), sextets_cons (by omega), sextets_cons (by omega), hns]
      rfl
    · rw [gather, ofNat_eq (b := a) (by omega), ofNat_eq (b := b) (by omega), ofNat_eq (b := c) (by omega), hrest]

/-- The code of bytes, if there are any, starts with a character for six bits. -/
theorem exists_encode_cons {bs : Bytes} (h : bs ≠ []) : ∃ n rest, n < 64 ∧ encode bs = encodeSextet n :: rest := by
  match bs, h with
  | [a], _ =>
    have ha := a.toNat_lt
    exact ⟨a.toNat / 4, _, by omega, rfl⟩
  | [a, b], _ =>
    have ha := a.toNat_lt
    have hb := b.toNat_lt
    exact ⟨(a.toNat * 256 + b.toNat) / 1024, _, by omega, rfl⟩
  | a :: b :: c :: rest, _ =>
    have ha := a.toNat_lt
    have hb := b.toNat_lt
    have hc := c.toNat_lt
    exact ⟨((a.toNat * 256 + b.toNat) * 256 + c.toNat) / 262144, _, by omega, rfl⟩

/-- A character that stands for six bits belongs to ASCII. -/
theorem lt_of_sextet? {c : Char} {m : Nat} (h : sextet? c = some m) : c.toNat < 128 := by
  unfold sextet? at h
  split at h
  · next hupper =>
    have hrange := Text.toNat_of_isUpper hupper
    omega
  split at h
  · next hlower =>
    have hrange := Text.toNat_of_isLower hlower
    omega
  split at h
  · next hdigit =>
    have hrange := toNat_of_isDigit hdigit
    omega
  split at h
  · next hplus =>
    rw [beq_iff_eq.1 hplus]
    decide
  split at h
  · next hslash =>
    rw [beq_iff_eq.1 hslash]
    decide
  · cases h

/-- A text that is read belongs to ASCII. -/
theorem lt_of_mem_of_sextets {count pads : Nat} {t : Text} {ns : List Nat} (h : sextets count pads t = .ok ns) :
    ∀ c ∈ t, c.toNat < 128 := by
  induction t generalizing count pads ns with
  | nil => nofun
  | cons c t ih =>
    rw [sextets] at h
    split at h
    · next hpad =>
      have hc : c.toNat < 128 := by
        rw [beq_iff_eq.1 hpad]
        decide
      refine List.forall_mem_cons.2 ⟨hc, ?_⟩
      split at h
      · split at h
        · next hend =>
          rw [List.isEmpty_iff.1 hend]
          nofun
        · cases h
      · exact ih h
    · split at h
      · cases h
      · next m hread =>
        split at h
        · cases h
        · obtain ⟨ms, hms, -⟩ := bind_eq_ok_iff.1 h
          exact List.forall_mem_cons.2 ⟨lt_of_sextet? hread, ih hms⟩

/-- Bytes are read back from their code. -/
theorem decode_encode (bs : Bytes) : decode (encode bs) = .ok bs := by
  obtain ⟨ns, hsextets, hgather⟩ := exists_sextets_encode bs 0 rfl
  have hascii : (encode bs).any (128 ≤ ·.toNat) = false := by
    simpa using lt_of_mem_of_sextets hsextets
  have hhead : ((encode bs).head? == some '=') = false := by
    by_cases hbs : bs = []
    · rw [hbs]
      rfl
    · obtain ⟨n, rest, hn, hencode⟩ := exists_encode_cons hbs
      rw [hencode]
      simpa using (encodeSextet_spec hn).2.1
  rw [decode, hascii, hhead, hsextets]
  exact congrArg Except.ok hgather

end PageQuery.Base64
