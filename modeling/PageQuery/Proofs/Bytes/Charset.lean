import PageQuery.Bytes.Charset
import PageQuery.Proofs.Text

namespace PageQuery

/-!
# Encodings that read bytes as UTF-8 does

Bytes below 128 stand for the same characters in UTF-8, in Latin-1, in ASCII and in all code pages. Where other bytes
occur the texts differ, unless both encodings find faults in the same places.

* `Utf8.IsSingle`: no unit of the bytes is longer than one byte;
* `Utf8.map_eq_decodeReplacing_iff`: when one character for each byte is what UTF-8 gives;
* `Charset.Kind`, `Charset.decode?_eq`: the ways in which the known encodings read bytes;
* `Charset.Kind.decode_eq_iff`: when an encoding reads bytes as UTF-8 does.
-/

namespace Utf8

/-! ### The sizes of units -/

theorem size_continued (first : UInt8) (size acc more lo hi : Nat) (rest : Bytes) :
    size ≤ (continued first size acc more lo hi rest).size ∧
      (continued first size acc more lo hi rest).size ≤ size + rest.length := by
  induction more generalizing size acc lo hi rest with
  | zero => simp [continued, Piece.size]
  | succ more ih =>
    cases rest with
    | nil => simp [continued, Piece.size]
    | cons b rest =>
      rw [continued]
      split
      · have hrest := ih (size + 1) (acc * 64 + (b.toNat - 0x80)) 0x80 0xBF rest
        rw [List.length_cons]
        omega
      · simp [Piece.size]

/-- A unit takes up at least the first byte, and at most all that there are. -/
theorem size_unit (b : UInt8) (rest : Bytes) : 1 ≤ (unit b rest).size ∧ (unit b rest).size ≤ rest.length + 1 := by
  rw [unit]
  split
  · simp [Piece.size]
  · split
    · simp [Piece.size]
    · next more acc lo hi _ =>
      have hsize := size_continued b 1 acc more lo hi rest
      omega

/-- There are no more units than bytes. -/
theorem length_unitsFrom_le (skip : Nat) (bs : Bytes) : (unitsFrom skip bs).length ≤ bs.length - skip := by
  induction bs generalizing skip with
  | nil => cases skip <;> simp [unitsFrom]
  | cons b rest ih =>
    cases skip with
    | zero =>
      have hrest := ih ((unit b rest).size - 1)
      rw [unitsFrom, List.length_cons, List.length_cons]
      omega
    | succ skip =>
      have hrest := ih skip
      rw [unitsFrom, List.length_cons]
      omega

/-- No unit of the bytes is longer than one byte: there is no character of two or more bytes among them, nor the
    beginning of one. -/
def IsSingle (bs : Bytes) : Prop := ∀ u ∈ units bs, u.size = 1

theorem isSingle_cons {b : UInt8} {rest : Bytes} :
    IsSingle (b :: rest) ↔ (unit b rest).size = 1 ∧ IsSingle rest := by
  rw [IsSingle, units, unitsFrom, List.forall_mem_cons]
  refine and_congr_right fun hsize => ?_
  rw [hsize]
  rfl

/-- There are as many units as bytes if each takes up one. -/
theorem isSingle_of_length {bs : Bytes} (h : (units bs).length = bs.length) : IsSingle bs := by
  induction bs with
  | nil => exact fun u hu => absurd hu List.not_mem_nil
  | cons b rest ih =>
    have hbound := length_unitsFrom_le ((unit b rest).size - 1) rest
    have hunit := size_unit b rest
    rw [units, unitsFrom, List.length_cons, List.length_cons] at h
    have hsize : (unit b rest).size = 1 := by omega
    rw [hsize] at h
    exact isSingle_cons.2 ⟨hsize, ih (by simpa [units] using h)⟩

/-- The bytes below 128 are units of their own. -/
theorem isSingle_of_forall {bs : Bytes} (h : ∀ b ∈ bs, b.toNat < 128) : IsSingle bs := by
  induction bs with
  | nil => exact fun u hu => absurd hu List.not_mem_nil
  | cons b rest ih =>
    obtain ⟨hb, hrest⟩ := List.forall_mem_cons.1 h
    refine isSingle_cons.2 ⟨?_, ih hrest⟩
    rw [unit, if_pos hb]
    rfl

/-- The character of a byte that is a unit of its own: beyond ASCII it is a fault. -/
def single (b : UInt8) : Char := if b.toNat < 128 then Char.ofNat b.toNat else '\ufffd'

/-- A first byte beyond ASCII asks for more. -/
theorem shape?_ne_zero {n : Nat} {shape : Nat × Nat × Nat × Nat} (h : shape? n = some shape) : shape.1 ≠ 0 := by
  unfold shape? at h
  repeat' split at h
  all_goals cases h
  all_goals simp

/-- A byte beyond ASCII does not make a character by itself. -/
theorem exists_unit_eq_bad {b : UInt8} {rest : Bytes} (hb : ¬ b.toNat < 128) (h : (unit b rest).size = 1) :
    ∃ f, unit b rest = .bad f b 1 := by
  rw [unit, if_neg hb] at h ⊢
  split at h
  · exact ⟨_, rfl⟩
  · next more acc lo hi hshape =>
    cases more with
    | zero => exact absurd rfl (shape?_ne_zero hshape)
    | succ more =>
      cases rest with
      | nil => exact ⟨_, rfl⟩
      | cons c rest =>
        rw [continued] at h ⊢
        split at h
        · -- with the next byte it is longer
          have hsize := (size_continued b (1 + 1) (acc * 64 + (c.toNat - 0x80)) more 0x80 0xBF rest).1
          omega
        · next hout => exact ⟨_, if_neg hout⟩

/-- Bytes of which none goes with another are read one by one. -/
theorem decodeReplacing_of_isSingle {bs : Bytes} (h : IsSingle bs) : decodeReplacing bs = bs.map single := by
  induction bs with
  | nil => rfl
  | cons b rest ih =>
    obtain ⟨hsize, hrest⟩ := isSingle_cons.1 h
    have hunits : units (b :: rest) = unit b rest :: units rest := by
      rw [units, unitsFrom, hsize]
      rfl
    rw [decodeReplacing, hunits, List.map_cons, List.map_cons, ← ih hrest, single]
    by_cases hb : b.toNat < 128
    · rw [unit, if_pos hb, if_pos hb]
      rfl
    · obtain ⟨f, hbad⟩ := exists_unit_eq_bad hb hsize
      rw [hbad, if_neg hb]
      rfl

theorem length_decodeReplacing (bs : Bytes) : (decodeReplacing bs).length = (units bs).length := List.length_map _

/-- One character for each byte is what UTF-8 gives if no byte goes with another and those beyond ASCII are faults. -/
theorem map_eq_decodeReplacing_iff {f : UInt8 → Char} (hf : ∀ b, b.toNat < 128 → f b = Char.ofNat b.toNat)
    (bs : Bytes) :
    bs.map f = decodeReplacing bs ↔ IsSingle bs ∧ ∀ b ∈ bs, 128 ≤ b.toNat → f b = '\ufffd' := by
  have hsingle : ∀ b, f b = single b ↔ (128 ≤ b.toNat → f b = '\ufffd') := by
    intro b
    by_cases hb : b.toNat < 128
    · have hhigh : ¬ 128 ≤ b.toNat := by omega
      simp [single, hb, hf b hb, hhigh]
    · have hhigh : 128 ≤ b.toNat := by omega
      simp [single, hb, hhigh]
  constructor
  · intro heq
    have hlength := congrArg List.length heq
    rw [List.length_map, length_decodeReplacing] at hlength
    have h := isSingle_of_length hlength.symm
    rw [decodeReplacing_of_isSingle h] at heq
    exact ⟨h, fun b hb => (hsingle b).1 (List.map_inj_left.1 heq b hb)⟩
  · rintro ⟨h, hfaults⟩
    rw [decodeReplacing_of_isSingle h]
    exact List.map_inj_left.2 fun b hb => (hsingle b).2 (hfaults b hb)

end Utf8

namespace Charset

/-! ### Kinds of encodings -/

/-- How an encoding reads bytes. -/
inductive Kind where
  /-- As UTF-8. -/
  | utf8
  /-- As UTF-8, behind a mark for the order of bytes if there is one. -/
  | marked
  /-- One character for each byte. -/
  | single (f : UInt8 → Char)
  /-- Two or four bytes for each number. -/
  | wide (decode : Bytes → Text)

/-- UTF-8 behind a mark for the order of bytes. -/
def decodeMarked : Bytes → Text
  | 0xEF :: 0xBB :: 0xBF :: rest => Utf8.decodeReplacing rest
  | bs => Utf8.decodeReplacing bs

/-- Numbers of two bytes behind a mark for their order. -/
def decodeMarkedPairs : Bytes → Text
  | 0xFF :: 0xFE :: rest => decodePairs true rest
  | 0xFE :: 0xFF :: rest => decodePairs false rest
  | bs => decodePairs true bs

/-- Numbers of four bytes behind a mark for their order. -/
def decodeMarkedQuads : Bytes → Text
  | 0xFF :: 0xFE :: 0x00 :: 0x00 :: rest => decodeQuads true rest
  | 0x00 :: 0x00 :: 0xFE :: 0xFF :: rest => decodeQuads false rest
  | bs => decodeQuads true bs

/-- The text of bytes in an encoding. -/
def Kind.decode : Kind → Bytes → Text
  | .utf8 => Utf8.decodeReplacing
  | .marked => decodeMarked
  | .single f => List.map f
  | .wide decode => decode

/-- The characters of a code page. -/
def pageCharacter (p : CodePage) : UInt8 → Char :=
  CodePage.character (p.rows.flatMap String.toList).toArray p.first

/-- The encoding of a name. -/
def kind? (name : Text) : Option Kind :=
  let n := normal name
  let isOne (names : Text) : Bool := (Text.words names).contains n
  if isOne utf8Names then some .utf8
  else if isOne latinNames then some (.single fun b => Char.ofNat b.toNat)
  else if isOne asciiNames then some (.single Utf8.single)
  else if n = "utf_8_sig" then some .marked
  else if isOne "unicodelittleunmarked utf_16_le utf_16le" then some (.wide (decodePairs true))
  else if isOne "unicodebigunmarked utf_16_be utf_16be" then some (.wide (decodePairs false))
  else if isOne "u16 utf16 utf_16" then some (.wide decodeMarkedPairs)
  else if isOne "utf_32_le utf_32le" then some (.wide (decodeQuads true))
  else if isOne "utf_32_be utf_32be" then some (.wide (decodeQuads false))
  else if isOne "u32 utf32 utf_32" then some (.wide decodeMarkedQuads)
  else (CodePage.find? n).map fun p => .single (pageCharacter p)

/-- Names are looked up before bytes are read. -/
theorem decode?_eq (name : Text) (bs : Bytes) : decode? name bs = (kind? name).map (·.decode bs) := by
  simp only [decode?, kind?, apply_ite (Option.map (Kind.decode · bs)), Option.map_some, Option.map_map]
  -- the same names are asked for in the same order, and only some bytes at the start may matter
  congr 4
  · rw [Kind.decode]
    fun_cases decodeMarked bs <;> simp_all
  congr 3
  · rw [Kind.decode]
    fun_cases decodeMarkedPairs bs <;> simp_all
  congr 3
  · rw [Kind.decode]
    fun_cases decodeMarkedQuads bs <;> simp_all

/-- An encoding reads the bytes below 128 as ASCII, unless it puts several bytes together. -/
def Kind.IsAscii : Kind → Prop
  | .single f => ∀ b, b.toNat < 128 → f b = Char.ofNat b.toNat
  | _ => True

/-- The code pages have ASCII in their lower half. -/
theorem first_of_mem_all {p : CodePage} (h : p ∈ CodePage.all) : 128 ≤ p.first := by
  revert p
  decide

/-- All known encodings of single bytes extend ASCII. -/
theorem isAscii_of_kind? {name : Text} {k : Kind} (h : kind? name = some k) : k.IsAscii := by
  unfold kind? at h
  simp only at h
  repeat' split at h
  any_goals
    cases h
    exact True.intro
  · -- Latin-1
    cases h
    exact fun b _ => rfl
  · -- ASCII
    cases h
    exact fun b hb => if_pos hb
  · -- code pages
    obtain ⟨p, hp, rfl⟩ := Option.map_eq_some_iff.1 h
    intro b hb
    have hfirst := first_of_mem_all (List.mem_of_find?_eq_some hp)
    exact if_pos (by omega)

/-- When an encoding reads bytes as UTF-8 does: always, or if there is no mark for the order of bytes, or if no byte
    goes with another and those beyond ASCII stand for faults. -/
def Kind.Agrees : Kind → Bytes → Prop
  | .utf8, _ => True
  | .marked, bs => ¬ [0xEF, 0xBB, 0xBF] <+: bs
  | .single f, bs => Utf8.IsSingle bs ∧ ∀ b ∈ bs, 128 ≤ b.toNat → f b = '\ufffd'
  | .wide decode, bs => decode bs = Utf8.decodeReplacing bs

theorem Kind.decode_eq_iff {k : Kind} (h : k.IsAscii) (bs : Bytes) :
    k.decode bs = Utf8.decodeReplacing bs ↔ k.Agrees bs := by
  cases k with
  | utf8 => exact iff_of_true rfl trivial
  | marked =>
    have hmark : ∀ rest, Utf8.decodeReplacing (0xEF :: 0xBB :: 0xBF :: rest) = '\ufeff' :: Utf8.decodeReplacing rest :=
      fun rest => rfl
    rw [Kind.decode, Kind.Agrees]
    fun_cases decodeMarked bs
    · next rest =>
      rw [hmark]
      exact iff_of_false (List.cons_ne_self _ _).symm fun hnot => hnot ⟨rest, rfl⟩
    · next hnot =>
      refine iff_of_true rfl ?_
      rintro ⟨rest, hrest⟩
      exact hnot rest hrest.symm
  | single f => exact Utf8.map_eq_decodeReplacing_iff h bs
  | wide decode => rfl

/-- In Latin-1 every byte has a character, so only ASCII is read as in UTF-8. -/
theorem agrees_latin_iff (bs : Bytes) :
    (Kind.single fun b => Char.ofNat b.toNat).Agrees bs ↔ ∀ b ∈ bs, b.toNat < 128 := by
  constructor
  · rintro ⟨-, hfaults⟩ b hb
    refine Nat.lt_of_not_le fun hhigh => ?_
    have hbyte := b.toNat_lt
    have hvalid : b.toNat.isValidChar := .inl (by omega)
    have hcode : (Char.ofNat b.toNat).toNat = b.toNat := by
      rw [Char.ofNat, dif_pos hvalid]
      rfl
    have hfault : (Char.ofNat b.toNat).toNat = 65533 := congrArg Char.toNat (hfaults b hb hhigh)
    omega
  · intro h
    refine ⟨Utf8.isSingle_of_forall h, fun b hb hhigh => ?_⟩
    have hlow := h b hb
    omega

end Charset

end PageQuery
