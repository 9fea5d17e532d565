import PageQuery.Number.Quantity
import PageQuery.Proofs.Except
import PageQuery.Proofs.Number.Numeral
import PageQuery.Proofs.Text

namespace PageQuery

/-!
# Numerals are read back

A whole number that can be written is read from its numeral, and so is every row of digits that is short
enough.

* `Text.isDigit_eq_false_of_isSpace`, `Text.isSpace_eq_false_of_isDigit`: digits are no white space;
* `Numeral.value_ofNat`, `Numeral.head?_ofNat`: what the digits of a number stand for, and with which digit
  they start;
* `Numeral.readInt_digits`, `Numeral.readInt_ofInt`: whole numbers read from texts;
* `Quantity.ofText?_ofInt`: a text that holds a numeral counts as the number.
-/

/-! ### Characters -/

/-- The digits have the code points from 48 to 57. -/
theorem toNat_of_isDigit {c : Char} (h : c.isDigit = true) : 48 ≤ c.toNat ∧ c.toNat ≤ 57 := by
  simpa [Char.isDigit, UInt32.le_iff_toNat_le] using h

namespace Text

/-- ASCII digits are digits. -/
theorem isDigit_of_ascii {c : Char} (h : c.isDigit = true) : isDigit c = true := by
  have hc := (toNat_of_isDigit h).2
  have hascii : c.toNat < 128 := by omega
  simp [isDigit, digit?, hascii, h]

/-- ASCII digits are no white space. -/
theorem isSpace_eq_false_of_isDigit {c : Char} (h : c.isDigit = true) : isSpace c = false := by
  have hc := toNat_of_isDigit h
  simp only [isSpace, inRanges, List.any_cons, List.any_nil, Bool.or_false, Bool.or_eq_false_iff,
    Bool.and_eq_false_iff, decide_eq_false_iff_not]
  omega

/-- White space of no script is a digit. -/
theorem isDigit_eq_false_of_isSpace {c : Char} (h : isSpace c = true) : isDigit c = false := by
  -- no run of ten digits meets a range of white space
  have hapart : ∀ r ∈ [(9, 13), (28, 32), (133, 133), (160, 160), (5760, 5760), (8192, 8202), (8232, 8233),
      (8239, 8239), (8287, 8287), (12288, 12288)], ∀ z ∈ digitZeros, z + 9 < r.1 ∨ r.2 < z := by decide
  obtain ⟨r, hr, hrange⟩ := List.any_eq_true.1 h
  obtain ⟨hlo, hhi⟩ : r.1 ≤ c.toNat ∧ c.toNat ≤ r.2 := by
    simpa only [Bool.and_eq_true, decide_eq_true_eq] using hrange
  by_cases hascii : c.toNat < 128
  · have hc : c.isDigit = false := by
      refine Bool.eq_false_iff.2 fun hdigit => ?_
      rw [isSpace_eq_false_of_isDigit hdigit] at h
      cases h
    simp [isDigit, digit?, hascii, hc]
  · have hnone : (digitZeros.find? fun z => z ≤ c.toNat && c.toNat < z + 10) = none := by
      refine List.find?_eq_none.2 fun z hz => ?_
      have := hapart r hr z hz
      simp only [Bool.and_eq_true, decide_eq_true_eq]
      omega
    simp [isDigit, digit?, hascii, hnone]

/-- The value of a digit is below ten. -/
theorem lt_of_digit? {c : Char} {n : Nat} (h : digit? c = some n) : n < 10 := by
  unfold digit? at h
  split at h
  · split at h
    · next hc =>
      have hcode := toNat_of_isDigit hc
      obtain rfl := Option.some.inj h
      omega
    · cases h
  · obtain ⟨z, hz, rfl⟩ := Option.map_eq_some_iff.1 h
    have hrange := List.find?_some hz
    simp only [Bool.and_eq_true, decide_eq_true_eq] at hrange
    omega

end Text

/-! ### Rows of digits -/

namespace Numeral

/-- The digits of a number stand for it. -/
theorem value_ofNat (n : Nat) : value (Text.ofNat n) = n :=
  Nat.ofDigitChars_toDigits (by decide) (by decide)

theorem isDigit_of_mem_ofNat {n : Nat} {c : Char} (h : c ∈ Text.ofNat n) : c.isDigit = true :=
  Nat.isDigit_of_mem_toDigits (by decide) (by decide) h

theorem ofNat_ne_nil (n : Nat) : Text.ofNat n ≠ [] := Nat.toDigits_ne_nil

/-- The digits of a number start with a zero only if that is the number. -/
theorem head?_ofNat (n : Nat) (hn : n ≠ 0) : (Text.ofNat n).head? ≠ some '0' := by
  induction n using Nat.strongRecOn with
  | ind n ih =>
    by_cases hsmall : n < 10
    · rw [Text.ofNat, Nat.toDigits_of_lt_base hsmall]
      simpa using hn
    · have hshorter : (Text.ofNat (n / 10)).head? ≠ some '0' := ih (n / 10) (by omega) (by omega)
      rw [Text.ofNat, Nat.toDigits_of_base_le (by decide) (Nat.le_of_not_lt hsmall), List.head?_append]
      obtain ⟨c, rest, hdigits⟩ := List.exists_cons_of_ne_nil (ofNat_ne_nil (n / 10))
      rw [Text.ofNat] at hshorter hdigits
      rw [hdigits] at hshorter ⊢
      exact hshorter

/-- Digits without underscores between them are read as they are. -/
theorem grouped?_digits {ds : Text} (h : ∀ c ∈ ds, c.isDigit = true) (hne : ds ≠ []) :
    grouped? ds = some ds := by
  induction ds with
  | nil => exact absurd rfl hne
  | cons c ds ih =>
    obtain ⟨hc, hds⟩ := List.forall_mem_cons.1 h
    cases ds with
    | nil => simp [grouped?, hc]
    | cons d ds =>
      have hd : d ≠ '_' := by
        rintro rfl
        exact absurd (List.forall_mem_cons.1 hds).1 (by decide)
      rw [grouped?, if_pos hc, ih hds (List.cons_ne_nil d ds)]
      · rfl
      · exact List.cons_ne_nil d ds
      · intro rest hrest
        exact hd (List.cons.inj hrest).1

/-- ASCII texts are read as they are. -/
theorem plain_of_ascii {t : Text} (h : ∀ c ∈ t, c.toNat < 128) : plain t = t := by
  have hall : t.all (·.toNat < 128) = true := List.all_eq_true.2 fun c hc => decide_eq_true (h c hc)
  rw [plain, if_pos hall]

theorem ofInt_ne_nil (n : Int) : Text.ofInt n ≠ [] := by
  cases n with
  | ofNat n => exact ofNat_ne_nil n
  | negSucc n => exact List.cons_ne_nil _ _

/-- The characters of numerals: digits, and a sign. -/
theorem eq_or_isDigit_of_mem_ofInt {n : Int} {c : Char} (h : c ∈ Text.ofInt n) :
    c = '-' ∨ c.isDigit = true := by
  cases n with
  | ofNat n => exact .inr (isDigit_of_mem_ofNat h)
  | negSucc n => exact (List.mem_cons.1 h).imp_right isDigit_of_mem_ofNat

/-- Numerals are free of white space. -/
theorem isSpace_eq_false_of_mem_ofInt {n : Int} {c : Char} (h : c ∈ Text.ofInt n) : Text.isSpace c = false := by
  rcases eq_or_isDigit_of_mem_ofInt h with rfl | hc
  · rfl
  · exact Text.isSpace_eq_false_of_isDigit hc

/-- A text of digits and signs is read without any preparation. -/
theorem unpad_plain {t : Text} (h : ∀ c ∈ t, c = '-' ∨ c.isDigit = true) : unpad (plain t) = t := by
  have hrange : ∀ c ∈ t, 45 ≤ c.toNat ∧ c.toNat ≤ 57 := by
    intro c hc
    rcases h c hc with rfl | hdigit
    · decide
    · have := toNat_of_isDigit hdigit
      omega
  have hpad : ∀ c ∈ t, isPad c = false := by
    intro c hc
    have hcode := hrange c hc
    have hspace : c ≠ ' ' := by
      rintro rfl
      exact absurd hcode (by decide)
    simp only [isPad, Bool.or_eq_false_iff, beq_eq_false_iff_ne, Bool.and_eq_false_iff,
      decide_eq_false_iff_not]
    exact ⟨hspace, by omega⟩
  have hleft : t.dropWhile isPad = t := by
    cases t with
    | nil => rfl
    | cons c t => exact List.dropWhile_cons_of_neg (by simp [hpad c List.mem_cons_self])
  rw [plain_of_ascii fun c hc => by have := hrange c hc; omega, unpad, hleft]
  exact Text.dropEndWhile_of_forall hpad

/-- A text that becomes a row of ASCII digits is read as the number that they stand for, unless they are too
    many. -/
theorem readInt_plain {t : Text} (h : ∀ c ∈ plain t, c.isDigit = true) (hne : plain t ≠ []) :
    readInt t =
      if maxDigits < (plain t).length then .error (.tooLong (plain t).length) else .ok (value (plain t)) := by
  have hascii : plain (plain t) = plain t := by
    refine plain_of_ascii fun c hc => ?_
    have := (toNat_of_isDigit (h c hc)).2
    omega
  have hunpad : unpad (plain t) = plain t := by
    have hself := unpad_plain fun c hc => .inr (h c hc)
    rwa [hascii] at hself
  obtain ⟨c, rest, hcons⟩ := List.exists_cons_of_ne_nil hne
  have hc := toNat_of_isDigit (h c (by rw [hcons]; exact List.mem_cons_self))
  have hsign : sign (plain t) = (false, plain t) := by
    rw [hcons]
    unfold sign
    split
    · next heq => obtain ⟨rfl, -⟩ := List.cons.inj heq; exact absurd hc (by decide)
    · next heq => obtain ⟨rfl, -⟩ := List.cons.inj heq; exact absurd hc (by decide)
    · rfl
  simp only [readInt, hunpad, hsign, grouped?_digits h hne, Bool.false_eq_true, if_false]

/-- Digits are read as the number that they stand for. -/
theorem readInt_digits {ds : Text} (h : ∀ c ∈ ds, c.isDigit = true) (hne : ds ≠ [])
    (hlength : ds.length ≤ maxDigits) : readInt ds = .ok (value ds) := by
  have hplain : plain ds = ds := plain_of_ascii fun c hc => by
    have := (toNat_of_isDigit (h c hc)).2
    omega
  rw [readInt_plain (by rwa [hplain]) (by rwa [hplain]), hplain, if_neg (Nat.not_lt.2 hlength)]

/-- Digits of any script become as many ASCII digits. -/
theorem plain_digits {ds : Text} (h : ∀ c ∈ ds, Text.isDigit c = true) :
    (∀ c ∈ plain ds, c.isDigit = true) ∧ (plain ds).length = ds.length := by
  unfold plain
  split
  · next hascii =>
    refine ⟨fun c hc => ?_, rfl⟩
    have hlow : c.toNat < 128 := of_decide_eq_true (List.all_eq_true.1 hascii c hc)
    have hdigit := h c hc
    rw [Text.isDigit, Text.digit?, if_pos hlow] at hdigit
    cases hc : c.isDigit with
    | true => rfl
    | false =>
      rw [hc] at hdigit
      cases hdigit
  · refine ⟨fun c hc => ?_, List.length_map _⟩
    obtain ⟨d, hd, rfl⟩ := List.mem_map.1 hc
    obtain ⟨n, hn⟩ := Option.isSome_iff_exists.1 (h d hd)
    have hdigits : ∀ n < 10, (Char.ofNat (48 + n)).isDigit = true := by decide
    simpa only [plain.digit?, hn] using hdigits n (Text.lt_of_digit? hn)

/-- Digits of any script are read, unless they are too many. -/
theorem ends_readInt {ds : Text} (h : ∀ c ∈ ds, Text.isDigit c = true) (hne : ds ≠ []) :
    Ends (fun _ => ds.length ≤ maxDigits) (fun _ => maxDigits < ds.length) (readInt ds) := by
  obtain ⟨hdigits, hlength⟩ := plain_digits h
  have hplain : plain ds ≠ [] := by
    rw [← List.length_pos_iff, hlength]
    exact List.length_pos_iff.2 hne
  rw [readInt_plain hdigits hplain, hlength]
  split
  · next hlong => exact hlong
  · next hshort => exact Nat.le_of_not_lt hshort

/-- Digits stand for a number below the power of ten with their count. -/
theorem value_lt {ds : Text} (h : ∀ c ∈ ds, c.isDigit = true) : value ds < tenTo ds.length := by
  -- the digits read before count as one number in front
  have hfrom : ∀ acc, valueFrom acc ds < (acc + 1) * tenTo ds.length := by
    induction ds with
    | nil => exact fun acc => by simp [valueFrom, tenTo]
    | cons c ds ih =>
      intro acc
      obtain ⟨hc, hds⟩ := List.forall_mem_cons.1 h
      have hcode := toNat_of_isDigit hc
      have hrest := ih hds (10 * acc + (c.toNat - 48))
      have hstep : (10 * acc + (c.toNat - 48) + 1) * tenTo ds.length ≤ 10 * (acc + 1) * tenTo ds.length :=
        Nat.mul_le_mul_right _ (by omega)
      have htenfold : 10 * (acc + 1) * tenTo ds.length = (acc + 1) * tenTo (ds.length + 1) := by
        rw [tenTo_succ, Nat.mul_comm 10, Nat.mul_assoc]
      show valueFrom (10 * acc + (c.toNat - 48)) ds < _
      rw [List.length_cons]
      omega
  simpa [value] using hfrom 0

/-- A whole number is read from its numeral. -/
theorem readInt_ofInt {n : Int} (h : n.natAbs < tenTo maxDigits) : readInt (Text.ofInt n) = .ok n := by
  have hdigits : ∀ m : Nat, ∀ c ∈ Text.ofNat m, c.isDigit = true := fun m c => isDigit_of_mem_ofNat
  have hlength : (Text.ofNat n.natAbs).length ≤ maxDigits := (length_ofNat_le_iff (by decide)).2 h
  cases n with
  | ofNat n =>
    rw [Text.ofInt, readInt_digits (hdigits n) (ofNat_ne_nil n) hlength, value_ofNat]
    rfl
  | negSucc n =>
    have hsign : sign ('-' :: Text.ofNat (n + 1)) = (true, Text.ofNat (n + 1)) := rfl
    have hplain : unpad (plain ('-' :: Text.ofNat (n + 1))) = '-' :: Text.ofNat (n + 1) := by
      refine unpad_plain fun c hc => ?_
      exact (List.mem_cons.1 hc).imp_right isDigit_of_mem_ofNat
    have hshort : ¬maxDigits < (Text.ofNat (n + 1)).length := Nat.not_lt.2 hlength
    simp only [Text.ofInt, readInt, hplain, hsign, grouped?_digits (hdigits (n + 1)) (ofNat_ne_nil _),
      if_neg hshort, if_true, value_ofNat]
    rfl

end Numeral

/-- A text that holds the numeral of a number counts as the number. -/
theorem Quantity.ofText?_ofInt {n : Int} (h : n.natAbs < tenTo Numeral.maxDigits) :
    ofText? (Text.ofInt n) = some (.whole n) := by
  have htrim : Text.trim (Text.ofInt n) = Text.ofInt n :=
    Text.trim_of_forall fun c hc => Numeral.isSpace_eq_false_of_mem_ofInt hc
  simp only [ofText?, htrim, Numeral.readInt?, Numeral.readInt_ofInt h]
  rfl

end PageQuery
