import PageQuery.Json.Reader
import PageQuery.Json.Writer
import PageQuery.Proofs.Number.Digits

namespace PageQuery.Json

/-!
# Texts and numbers are read back

What is written for a text or for a whole number is read as that, whatever follows it.

* `joinUnits_codes`: the code points of characters are read as these characters;
* `writeChar_cases`: the forms in which a character is written;
* `hex_four`, `units_hex`: a code unit by its hexadecimal digits;
* `string_writeText`: texts;
* `EndsNumber`: texts before which a whole number ends;
* `atom_ofInt`: whole numbers.
-/

/-! ### Characters -/

/-- No character is a surrogate. -/
theorem not_surrogate (c : Char) : ¬(0xD800 ≤ c.toNat ∧ c.toNat < 0xE000) := by
  rintro ⟨hlo, hhi⟩
  have hvalid : c.toNat.isValidChar := c.valid
  rcases hvalid with h | h <;> omega

/-- The code point of a character is read as it. -/
theorem joinUnits_code (c : Char) (us : List Nat) : joinUnits (c.toNat :: us) = c :: joinUnits us := by
  have hc := not_surrogate c
  cases us with
  | nil => simp [joinUnits, hc]
  | cons u us =>
    have hpair : ¬(0xD800 ≤ c.toNat ∧ c.toNat < 0xDC00) := fun h => hc ⟨h.1, by omega⟩
    rw [joinUnits]
    simp only [Bool.and_eq_true, decide_eq_true_eq, and_assoc]
    rw [if_neg fun h => hpair ⟨h.1, h.2.1⟩, if_neg hc, Char.ofNat_toNat]

/-- The code points of characters are read as these characters. -/
theorem joinUnits_codes (t : Text) : joinUnits (t.map Char.toNat) = t := by
  induction t with
  | nil => rfl
  | cons c t ih => rw [List.map_cons, joinUnits_code, ih]

/-- A hexadecimal numeral of some width has one digit more in front of its last. -/
theorem hex_succ {width : Nat} (hwidth : 0 < width) (n : Nat) :
    Text.hex (width + 1) n = Text.hex width (n / 16) ++ [(n % 16).digitChar] := by
  obtain ⟨width, rfl⟩ := Nat.exists_eq_add_of_le' hwidth
  by_cases hn : n < 16
  · rw [Nat.div_eq_of_lt hn, Nat.mod_eq_of_lt hn]
    simp only [Text.hex, Text.digits, Nat.toDigits_of_lt_base hn, Text.padLeft]
    simp [Nat.toDigits_of_lt_base, Nat.digitChar, List.replicate_succ']
  · have hdigits := Nat.toDigits_of_base_le (b := 16) (by decide) (Nat.le_of_not_lt hn)
    simp only [Text.hex, Text.digits, hdigits, Text.padLeft, List.length_append, List.length_singleton,
      Nat.add_sub_add_right, List.append_assoc]

theorem hexDigit?_digitChar {n : Nat} (h : n < 16) : Text.hexDigit? n.digitChar = some n := by
  have hall : ∀ n < 16, Text.hexDigit? n.digitChar = some n := by decide
  exact hall n h

/-- Four hexadecimal digits are written for a code unit. -/
theorem hex_four {n : Nat} (h : n < 65536) : Text.hex 4 n =
    [(n / 16 / 16 / 16).digitChar, (n / 16 / 16 % 16).digitChar, (n / 16 % 16).digitChar, (n % 16).digitChar] := by
  have hone : Text.hex 1 (n / 16 / 16 / 16) = [(n / 16 / 16 / 16).digitChar] := by
    have htop : n / 16 / 16 / 16 < 16 := by omega
    simp [Text.hex, Text.digits, Text.padLeft, Nat.toDigits_of_lt_base htop]
  rw [hex_succ (by decide), hex_succ (by decide), hex_succ (by decide), hone]
  rfl

/-- The digits of a code unit are read as it. -/
theorem exists_hex {n : Nat} (h : n < 65536) :
    ∃ a b c d, Text.hex 4 n = [a, b, c, d] ∧ hex4? a b c d = some n := by
  refine ⟨_, _, _, _, hex_four h, ?_⟩
  have htop : n / 16 / 16 / 16 < 16 := by omega
  simp only [hex4?, hexDigit?_digitChar htop, hexDigit?_digitChar (Nat.mod_lt _ (by decide : 0 < 16))]
  show some _ = some n
  rw [Option.some.injEq]
  omega

/-- The characters that are written as a backslash and a letter. -/
def lettered : Text := ['"', '\\', '\n', '\r', '\t', '\x08', '\x0c']

/-- The forms in which a character is written: a backslash and a letter, a backslash and the hexadecimal
    digits of its code, or the character itself. -/
theorem writeChar_cases (c : Char) :
    (∃ x, x ≠ 'u' ∧ writeChar c = ['\\', x] ∧ escaped? x = some c) ∨
      (c.toNat < 32 ∧ writeChar c = "\\u" ++ Text.hex 4 c.toNat) ∨
      (32 ≤ c.toNat ∧ c ≠ '"' ∧ c ≠ '\\' ∧ writeChar c = [c]) := by
  by_cases hc : c ∈ lettered
  · refine .inl ?_
    simp only [lettered, List.mem_cons, List.not_mem_nil, or_false] at hc
    rcases hc with rfl | rfl | rfl | rfl | rfl | rfl | rfl
    · exact ⟨'"', by decide⟩
    · exact ⟨'\\', by decide⟩
    · exact ⟨'n', by decide⟩
    · exact ⟨'r', by decide⟩
    · exact ⟨'t', by decide⟩
    · exact ⟨'b', by decide⟩
    · exact ⟨'f', by decide⟩
  · refine .inr ?_
    simp only [lettered, List.mem_cons, List.not_mem_nil, or_false, not_or] at hc
    have hother : writeChar c = if c.toNat < 32 then "\\u" ++ Text.hex 4 c.toNat else [c] := by
      simp [writeChar, hc]
    by_cases hcontrol : c.toNat < 32
    · exact .inl ⟨hcontrol, by rw [hother, if_pos hcontrol]⟩
    · exact .inr ⟨Nat.le_of_not_lt hcontrol, hc.1, hc.2.1, by rw [hother, if_neg hcontrol]⟩

/-! ### Texts -/

/-- The hexadecimal digits of a code unit are read as it, if the text goes on after them. -/
theorem units_hex (start : Nat) {n : Nat} (hn : n < 65536) {rest after : Text} {us : List Nat} (hne : rest ≠ [])
    (hrest : units start rest = .ok (us, after)) :
    units start ("\\u" ++ Text.hex 4 n ++ rest) = .ok (n :: us, after) := by
  obtain ⟨e, rest, rfl⟩ := List.exists_cons_of_ne_nil hne
  obtain ⟨a, b, c, d, hhex, hcode⟩ := exists_hex hn
  rw [hhex]
  show units start ('\\' :: 'u' :: a :: b :: c :: d :: e :: rest) = _
  simp only [units, hcode, hrest]
  rfl

/-- A written character is read as its code, if the text goes on after it. -/
theorem units_writeChar (start : Nat) (c : Char) {rest after : Text} {us : List Nat} (hne : rest ≠ [])
    (hrest : units start rest = .ok (us, after)) :
    units start (writeChar c ++ rest) = .ok (c.toNat :: us, after) := by
  obtain ⟨e, rest, rfl⟩ := List.exists_cons_of_ne_nil hne
  rcases writeChar_cases c with ⟨x, hx, hwrite, hescaped⟩ | ⟨hcontrol, hwrite⟩ |
    ⟨hplain, hquote, hslash, hwrite⟩
  · rw [hwrite]
    show units start ('\\' :: x :: e :: rest) = _
    rw [units, if_neg (by simpa using hx), hescaped]
    · simp only [hrest]
      rfl
    · exact fun _ _ _ _ _ _ h => absurd h hx
  · rw [hwrite]
    exact units_hex start (by omega) hne hrest
  · rw [hwrite]
    show units start (c :: e :: rest) = _
    rw [units, if_neg (Nat.not_lt.2 hplain), hrest]
    · rfl
    · exact hquote
    · exact fun h => absurd h hslash
    · exact fun _ _ _ _ _ _ h => absurd h hslash
    · exact fun _ _ h => absurd h hslash

/-- A written text is read up to its closing quote. -/
theorem units_flatMap_writeChar (start : Nat) (t rest : Text) :
    units start (t.flatMap writeChar ++ '"' :: rest) = .ok (t.map Char.toNat, rest) := by
  induction t with
  | nil => rfl
  | cons c t ih =>
    rw [List.flatMap_cons, List.append_assoc]
    exact units_writeChar start c (by simp) ih

/-- A written text is read as that, after its opening quote. -/
theorem string_writeText (t rest : Text) :
    string (t.flatMap writeChar ++ '"' :: rest) = .ok (t, rest) := by
  rw [string, units_flatMap_writeChar]
  show Except.ok (joinUnits (t.map Char.toNat), rest) = _
  rw [joinUnits_codes]

/-! ### Numbers -/

/-- A text before which a whole number ends: it goes on neither with digits nor with a fraction or an
    exponent. -/
def EndsNumber (rest : Text) : Prop :=
  ∀ c, rest.head? = some c → c.isDigit = false ∧ c ≠ '.' ∧ c ≠ 'e' ∧ c ≠ 'E'

theorem endsNumber_nil : EndsNumber [] := nofun

theorem endsNumber_cons {c : Char} (h : c.isDigit = false ∧ c ≠ '.' ∧ c ≠ 'e' ∧ c ≠ 'E') (rest : Text) :
    EndsNumber (c :: rest) := by
  intro d hd
  obtain rfl : c = d := Option.some.inj hd
  exact h

/-- The digits of a number are read up to its end. -/
theorem wholeDigits?_ofNat (n : Nat) {rest : Text} (hrest : EndsNumber rest) :
    wholeDigits? (Text.ofNat n ++ rest) = some (Text.ofNat n, rest) := by
  have hdigits : ∀ c ∈ Text.ofNat n, c.isDigit = true := fun c hc => Numeral.isDigit_of_mem_ofNat hc
  have hstop : rest.takeWhile Char.isDigit = [] ∧ rest.dropWhile Char.isDigit = rest := by
    cases rest with
    | nil => exact ⟨rfl, rfl⟩
    | cons c rest =>
      have hc : ¬c.isDigit = true := by simp [(hrest c rfl).1]
      exact ⟨List.takeWhile_cons_of_neg hc, List.dropWhile_cons_of_neg hc⟩
  by_cases hn : n = 0
  · subst hn
    rfl
  · obtain ⟨c, ds, hds⟩ := List.exists_cons_of_ne_nil (Numeral.ofNat_ne_nil n)
    have hzero : c ≠ '0' := by
      rintro rfl
      exact Numeral.head?_ofNat n hn (by rw [hds]; rfl)
    rw [hds] at hdigits ⊢
    obtain ⟨hc, hrow⟩ := List.forall_mem_cons.1 hdigits
    rw [List.cons_append, wholeDigits?, if_pos hc, List.takeWhile_append_of_pos hrow,
      List.dropWhile_append_of_pos hrow, hstop.1, hstop.2, List.append_nil]
    exact hzero

/-- A number that has ended goes on neither with a fraction nor with an exponent. -/
theorem fraction_of_endsNumber {rest : Text} (hrest : EndsNumber rest) : fraction rest = (none, rest) := by
  unfold fraction
  split
  · exact absurd rfl (hrest '.' rfl).2.1
  · rfl

theorem exponent_of_endsNumber {rest : Text} (hrest : EndsNumber rest) : exponent rest = (none, rest) := by
  unfold exponent
  split
  · next c after =>
    obtain ⟨-, -, hlower, hupper⟩ := hrest c rfl
    simp [hlower, hupper]
  · rfl

/-- No fraction and no exponent come after a whole number. -/
theorem number_whole (negative : Bool) {whole rest : Text} (hwhole : whole.length ≤ Numeral.maxDigits)
    (hrest : EndsNumber rest) :
    number negative whole rest =
      .ok (.int (if negative then -(Numeral.value whole : Int) else Numeral.value whole), rest) := by
  simp only [number, fraction_of_endsNumber hrest, exponent_of_endsNumber hrest, if_neg (Nat.not_lt.2 hwhole)]

/-- The ten digits. -/
theorem eq_of_isDigit {c : Char} (h : c.isDigit = true) :
    c = '0' ∨ c = '1' ∨ c = '2' ∨ c = '3' ∨ c = '4' ∨ c = '5' ∨ c = '6' ∨ c = '7' ∨ c = '8' ∨ c = '9' := by
  have hall : ∀ n < 10, Char.ofNat (48 + n) ∈ ['0', '1', '2', '3', '4', '5', '6', '7', '8', '9'] := by decide
  obtain ⟨hlo, hhi⟩ := toNat_of_isDigit h
  have hcode : Char.ofNat (48 + (c.toNat - 48)) = c := by
    rw [Nat.add_sub_cancel' hlo, Char.ofNat_toNat]
  have hmem := hall (c.toNat - 48) (by omega)
  rw [hcode] at hmem
  simpa using hmem

/-- A text that starts with a digit, or with a sign and a digit, starts with none of the words. -/
theorem atom_digit {c : Char} (hc : c.isDigit = true) (t : Text) :
    (atom (c :: t) = match wholeDigits? (c :: t) with
      | some (whole, rest) => number false whole rest
      | none => fail .expectingValue (c :: t)) ∧
    atom ('-' :: c :: t) = match wholeDigits? (c :: t) with
      | some (whole, rest) => number true whole rest
      | none => fail .expectingValue ('-' :: c :: t) := by
  rcases eq_of_isDigit hc with rfl | rfl | rfl | rfl | rfl | rfl | rfl | rfl | rfl | rfl <;>
    exact ⟨rfl, rfl⟩

/-- A whole number is read from its numeral. -/
theorem atom_ofInt {n : Int} (hn : n.natAbs < tenTo Numeral.maxDigits) {rest : Text}
    (hrest : EndsNumber rest) : atom (Text.ofInt n ++ rest) = .ok (.int n, rest) := by
  have hlength : (Text.ofNat n.natAbs).length ≤ Numeral.maxDigits :=
    (Numeral.length_ofNat_le_iff (by decide)).2 hn
  obtain ⟨c, ds, hds⟩ := List.exists_cons_of_ne_nil (Numeral.ofNat_ne_nil n.natAbs)
  have hc : c.isDigit = true := Numeral.isDigit_of_mem_ofNat (n := n.natAbs) (by rw [hds]; simp)
  have hread := atom_digit hc (ds ++ rest)
  rw [← List.cons_append, ← hds, wholeDigits?_ofNat _ hrest] at hread
  simp only [number_whole _ hlength hrest, Numeral.value_ofNat] at hread
  cases n with
  | ofNat m => exact hread.1
  | negSucc m => exact hread.2

end PageQuery.Json
