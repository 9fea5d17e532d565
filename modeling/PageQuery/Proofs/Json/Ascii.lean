import PageQuery.Proofs.Json.RoundTrip

namespace PageQuery.Json

/-!
# JSON in ASCII

JSON may be written in printable ASCII alone: every other character stands in a text as the hexadecimal digits of its
UTF-16 code units. What is written in this way is read back too.

* `ascii`: a text with its other characters as code units;
* `dump`: a value on one line, in ASCII;
* `joinUnits_unitsOf`, `units_ascii_writeChar`: code units and characters are read as what they stand for;
* `recoding_ascii`: ASCII is another way of writing texts in quotes;
* `exists_of_dump_list`, `exists_of_dump_map`: what is written for lists and maps stands in brackets;
* `read_dump`: what is written for a value is read as it.
-/

/-- The UTF-16 code units of a character. -/
def unitsOf (c : Char) : List Nat :=
  if c.toNat < 0x10000 then [c.toNat]
  else [0xD800 + (c.toNat - 0x10000) / 0x400, 0xDC00 + (c.toNat - 0x10000) % 0x400]

/-- A character of printable ASCII. -/
def IsPrintable (c : Char) : Prop := 32 ≤ c.toNat ∧ c.toNat < 127

instance : DecidablePred IsPrintable := fun c => inferInstanceAs (Decidable (32 ≤ c.toNat ∧ c.toNat < 127))

/-- A code unit by its hexadecimal digits. -/
def hexEscape (n : Nat) : Text := "\\u" ++ Text.hex 4 n

/-- A character of printable ASCII, or the code units of another one. -/
def asciiChar (c : Char) : Text := if IsPrintable c then [c] else (unitsOf c).flatMap hexEscape

/-- A text in printable ASCII. -/
def ascii (t : Text) : Text := t.flatMap asciiChar

/-- The text of a value on one line, in printable ASCII. -/
def dump (v : Value) : Except WriteError Text := (write .line v).map ascii

/-! ### ASCII -/

@[simp] theorem ascii_append (t u : Text) : ascii (t ++ u) = ascii t ++ ascii u := List.flatMap_append

/-- Printable ASCII stays as it is. -/
theorem ascii_of_forall {t : Text} (h : ∀ c ∈ t, IsPrintable c) : ascii t = t := by
  induction t with
  | nil => rfl
  | cons c t ih =>
    obtain ⟨hc, ht⟩ := List.forall_mem_cons.1 h
    rw [ascii, List.flatMap_cons, asciiChar, if_pos hc, ← ascii, ih ht]
    rfl

theorem ascii_singleton {c : Char} (hc : IsPrintable c) : ascii [c] = [c] := ascii_of_forall (by simpa using hc)

theorem ascii_join {sep : Text} (hsep : ascii sep = sep) (ts : List Text) :
    ascii (Text.join sep ts) = Text.join sep (ts.map ascii) := by
  induction ts with
  | nil => rfl
  | cons t ts ih =>
    cases ts with
    | nil => simp only [List.map_cons, List.map_nil, Text.join_singleton]
    | cons t' ts =>
      simp only [List.map_cons, Text.join_cons_cons, ascii_append, hsep] at ih ⊢
      rw [ih]

/-! ### Code units -/

/-- The code units of a character are read as it. -/
theorem joinUnits_unitsOf (c : Char) (us : List Nat) : joinUnits (unitsOf c ++ us) = c :: joinUnits us := by
  unfold unitsOf
  split
  · exact joinUnits_code c us
  · next hlarge =>
    have hlast : c.toNat < 0x110000 := by
      have hvalid : c.toNat.isValidChar := c.valid
      rcases hvalid with h | h <;> omega
    have hcode : 0x10000 + (0xD800 + (c.toNat - 0x10000) / 0x400 - 0xD800) * 0x400 +
        (0xDC00 + (c.toNat - 0x10000) % 0x400 - 0xDC00) = c.toNat := by omega
    rw [List.cons_append, List.singleton_append, joinUnits, if_pos (by simp; omega), hcode, Char.ofNat_toNat]

theorem joinUnits_flatMap (t : Text) : joinUnits (t.flatMap unitsOf) = t := by
  induction t with
  | nil => rfl
  | cons c t ih => rw [List.flatMap_cons, joinUnits_unitsOf, ih]

theorem unitsOf_ne_nil (c : Char) : unitsOf c ≠ [] := by
  unfold unitsOf
  split <;> simp

theorem lt_of_mem_unitsOf {c : Char} {n : Nat} (h : n ∈ unitsOf c) : n < 65536 := by
  have hvalid : c.toNat.isValidChar := c.valid
  unfold unitsOf at h
  split at h
  · obtain rfl := List.mem_singleton.1 h
    assumption
  · simp only [List.mem_cons, List.not_mem_nil, or_false] at h
    rcases hvalid with hvalid | hvalid <;> omega

/-! ### Texts -/

/-- A character beyond printable ASCII is written as itself. -/
theorem writeChar_of_le {c : Char} (h : 127 ≤ c.toNat) : writeChar c = [c] := by
  have hne : ∀ d : Char, d.toNat < 127 → c ≠ d := by
    rintro d hd rfl
    omega
  have hcontrol : ¬c.toNat < 32 := by omega
  simp [writeChar, hcontrol, hne '"', hne '\\', hne '\n', hne '\r', hne '\t', hne '\x08', hne '\x0c']

/-- A character beyond printable ASCII is written in ASCII by its code units. -/
theorem ascii_writeChar_of_le {c : Char} (h : 127 ≤ c.toNat) :
    ascii (writeChar c) = (unitsOf c).flatMap hexEscape := by
  have hprintable : ¬IsPrintable c := fun hc => Nat.not_lt.2 h hc.2
  rw [writeChar_of_le h, ascii, List.flatMap_singleton, asciiChar, if_neg hprintable]

/-- A character of ASCII is written in printable ASCII. -/
theorem ascii_writeChar {c : Char} (h : c.toNat < 127) : ascii (writeChar c) = writeChar c := by
  have hc : ((writeChar c).all fun x => decide (IsPrintable x)) = true := Text.of_toNat_lt h (by decide +kernel)
  exact ascii_of_forall (Text.forall_mem_of_all hc)

/-- The hexadecimal digits of code units are read as these, if the text goes on after them. -/
theorem units_flatMap_hex (start : Nat) {codes : List Nat} (hcodes : ∀ n ∈ codes, n < 65536) {rest after : Text}
    {us : List Nat} (hne : rest ≠ []) (hrest : units start rest = .ok (us, after)) :
    units start (codes.flatMap hexEscape ++ rest) = .ok (codes ++ us, after) := by
  induction codes with
  | nil => exact hrest
  | cons n codes ih =>
    obtain ⟨hn, hcodes⟩ := List.forall_mem_cons.1 hcodes
    rw [List.flatMap_cons, List.append_assoc]
    exact units_hex start hn (List.append_ne_nil_of_right_ne_nil _ hne) (ih hcodes)

/-- A written character is read as its code units, if the text goes on after it. -/
theorem units_ascii_writeChar (start : Nat) (c : Char) {rest after : Text} {us : List Nat} (hne : rest ≠ [])
    (hrest : units start rest = .ok (us, after)) :
    units start (ascii (writeChar c) ++ rest) = .ok (unitsOf c ++ us, after) := by
  by_cases hc : c.toNat < 127
  · have hunits : unitsOf c = [c.toNat] := if_pos (by omega)
    rw [ascii_writeChar hc, hunits]
    exact units_writeChar start c hne hrest
  · rw [ascii_writeChar_of_le (Nat.le_of_not_lt hc)]
    exact units_flatMap_hex start (fun n hn => lt_of_mem_unitsOf hn) hne hrest

/-- A written text is read up to its closing quote. -/
theorem units_ascii_flatMap (start : Nat) (t rest : Text) :
    units start (ascii (t.flatMap writeChar) ++ '"' :: rest) = .ok (t.flatMap unitsOf, rest) := by
  induction t with
  | nil => rfl
  | cons c t ih =>
    rw [List.flatMap_cons, ascii_append, List.append_assoc]
    exact units_ascii_writeChar start c (by simp) ih

/-- A text in quotes, in ASCII. -/
theorem ascii_writeText (t : Text) : ascii (writeText t) = '"' :: (ascii (t.flatMap writeChar) ++ ['"']) := by
  have hquote : ascii ['"'] = ['"'] := ascii_singleton (by decide)
  show ascii (['"'] ++ t.flatMap writeChar ++ ['"']) = _
  rw [ascii_append, ascii_append, hquote]
  rfl

theorem readsAsText_ascii (t : Text) : ReadsAsText (ascii (writeText t)) t := by
  refine ⟨_, ascii_writeText t, fun rest => ?_⟩
  rw [List.append_assoc, string, List.singleton_append, units_ascii_flatMap]
  show Except.ok (joinUnits (t.flatMap unitsOf), rest) = _
  rw [joinUnits_flatMap]

/-! ### Values -/

/-- Parts in brackets on one line. -/
theorem enclose_line (level : Nat) (opening closing : Char) {ts : List Text} (hne : ts ≠ []) :
    enclose .line level opening closing ts = [opening] ++ Text.join [',', ' '] ts ++ [closing] := by
  simp [enclose, lineBreak, Style.line, List.isEmpty_iff, hne]

theorem ascii_enclose (level : Nat) {opening closing : Char} (hopening : IsPrintable opening)
    (hclosing : IsPrintable closing) (ts : List Text) :
    ascii (enclose .line level opening closing ts) = enclose .line level opening closing (ts.map ascii) := by
  by_cases hts : ts = []
  · subst hts
    exact ascii_of_forall (by simp [enclose, hopening, hclosing])
  · rw [enclose_line level opening closing hts, enclose_line level opening closing (by simpa using hts),
      ascii_append, ascii_append, ascii_singleton hopening, ascii_singleton hclosing,
      ascii_join (ascii_of_forall (Text.forall_mem_of_all (by decide)))]

theorem isPrintable_of_isAlphanum {c : Char} (h : c.isAlphanum = true) : IsPrintable c := by
  obtain ⟨hfirst, hlast⟩ := Text.toNat_of_isAlphanum h
  exact ⟨by omega, by omega⟩

/-- ASCII is another way of writing texts in quotes. -/
theorem recoding_ascii : Recoding .line ascii where
  token h := ascii_of_forall fun c hc => (h c hc).elim isPrintable_of_isAlphanum fun hsign => by
    rw [hsign]
    decide
  text := readsAsText_ascii
  entry t u := by
    rw [ascii_append, ascii_append]
    congr 2
  list level ts := ascii_enclose level (by decide) (by decide) ts
  map level ts := ascii_enclose level (by decide) (by decide) ts

/-- Brackets are written in ASCII as themselves. -/
theorem ascii_bracketed {opening closing : Char} (hopening : IsPrintable opening) (hclosing : IsPrintable closing)
    (t : Text) : ascii (opening :: (t ++ [closing])) = opening :: (ascii t ++ [closing]) := by
  rw [← List.singleton_append, ascii_append, ascii_append, ascii_singleton hopening, ascii_singleton hclosing]
  rfl

/-- The text of a list stands in square brackets. -/
theorem exists_of_dump_list {vs : List Value} {w : Text} (h : dump (.list vs) = .ok w) :
    ∃ t, w = '[' :: (t ++ [']']) := by
  obtain ⟨u, hu, rfl⟩ := map_eq_ok_iff.1 h
  obtain ⟨t, rfl⟩ := exists_of_write_list hu
  exact ⟨ascii t, ascii_bracketed (by decide) (by decide) t⟩

/-- The text of a map stands in braces. -/
theorem exists_of_dump_map {es : Entries} {w : Text} (h : dump (.map es) = .ok w) :
    ∃ t, w = '{' :: (t ++ ['}']) := by
  obtain ⟨u, hu, rfl⟩ := map_eq_ok_iff.1 h
  obtain ⟨t, rfl⟩ := exists_of_write_map hu
  exact ⟨ascii t, ascii_bracketed (by decide) (by decide) t⟩

/-- What is written for a value in ASCII is read as it. -/
theorem read_dump {v : Value} (hv : v.IsExact) : ∃ t, dump v = .ok t ∧ read t = .ok v := by
  obtain ⟨t, hwrite, hreads⟩ := readsAs_recoded isSpaced_line recoding_ascii hv 0
  exact ⟨ascii t, by rw [dump, write, hwrite]; rfl, hreads.read_eq⟩

end PageQuery.Json
