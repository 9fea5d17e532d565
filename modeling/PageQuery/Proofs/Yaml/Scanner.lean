import Mathlib.Algebra.Group.Nat.Defs
import PageQuery.Proofs.Except
import PageQuery.Proofs.Text
import PageQuery.Yaml.Token

namespace PageQuery.Yaml

/-!
# What the scanner refuses

The marks and scalars of a text are refused in one way if they are not YAML, and in another if an escape in a quoted
scalar names a number beyond the characters. Only the escapes of eight digits can do that.

* `lt_of_hexValue?`: how large the number of an escape is;
* `ends_escape`, `ends_doubleQuotedFrom`: where escapes are refused;
* `Lexer.ends_run`: a text is read from left to right, and refused at a part of it;
* `failsOnly_tokens`: a text is refused as malformed, or it holds an escape of eight digits.
-/

/-- What starts an escape of eight digits. -/
def escapeMark : Text := "\\U"

/-- A text is refused as malformed, or it holds an escape of eight digits. -/
abbrev Refuses (t : Text) : Error → Prop := Refused .malformed escapeMark t

variable {α β : Type}

/-- A step is mild if it only ever refuses a text as malformed. -/
abbrev Mild (x : Except Error α) : Prop := FailsOnly (· = .malformed) x

/-! ### Escapes -/

theorem lt_of_hexDigit? {c : Char} {d : Nat} (h : Text.hexDigit? c = some d) : d < 16 := by
  unfold Text.hexDigit? at h
  simp only [Bool.and_eq_true, decide_eq_true_eq, Char.le_def, UInt32.le_iff_toNat_le] at h
  have hn : c.toNat = c.val.toNat := rfl
  split at h
  · next hc =>
    obtain rfl := Option.some.inj h
    have : c.val.toNat ≤ 57 := hc.2
    omega
  · split at h
    · next hc =>
      obtain rfl := Option.some.inj h
      have : c.val.toNat ≤ 102 := hc.2
      omega
    · split at h
      · next hc =>
        obtain rfl := Option.some.inj h
        have : c.val.toNat ≤ 70 := hc.2
        omega
      · cases h

/-- So many hexadecimal digits make a number of so many digits. -/
theorem lt_of_hexValue? {t : Text} {n : Nat} (h : hexValue? t = some n) : n < 16 ^ t.length := by
  have hfrom : ∀ (t : Text) (m k : Nat), m < 16 ^ k →
      t.foldlM (fun n c => (Text.hexDigit? c).map (16 * n + ·)) m = some n → n < 16 ^ (k + t.length) := by
    intro t
    induction t with
    | nil =>
      intro m k hm h
      obtain rfl := Option.some.inj h
      exact hm
    | cons c t ih =>
      intro m k hm h
      obtain ⟨m', hm', h⟩ := Option.bind_eq_some_iff.1 h
      obtain ⟨d, hd, rfl⟩ := Option.map_eq_some_iff.1 hm'
      have hlt : 16 * m + d < 16 ^ (k + 1) := by
        have := lt_of_hexDigit? hd
        rw [Nat.pow_succ]
        omega
      rw [List.length_cons, Nat.add_comm t.length 1, ← Nat.add_assoc]
      exact ih _ _ hlt h
  have := hfrom t 0 0 (by decide) h
  rwa [Nat.zero_add] at this

/-- A line break stands in front of what follows it. -/
theorem lineBreak?_suffixed {t rest : Text} {c : Char} (h : lineBreak? t = some (c, rest)) : rest <:+ t := by
  unfold lineBreak? at h
  split at h
  · obtain ⟨-, rfl⟩ := Prod.mk.inj (Option.some.inj h)
    exact List.suffix_append ['\r', '\n'] _
  · split at h
    · obtain ⟨-, rfl⟩ := Prod.mk.inj (Option.some.inj h)
      exact List.suffix_cons _ _
    · split at h
      · obtain ⟨-, rfl⟩ := Prod.mk.inj (Option.some.inj h)
        exact List.suffix_cons _ _
      · cases h
  · cases h

theorem ends_quotedLines (lineStart : Bool) (t : Text) :
    Ends (·.2 <:+ t) (· = .malformed) (quotedLines lineStart t) := by
  fun_induction quotedLines lineStart t with
  | case1 => exact rfl
  | case2 lineStart rest hmark ih =>
    exact ends_bind ih fun r hr => hr.trans (List.suffix_append ['\r', '\n'] rest)
  | case3 lineStart c rest hmark hpair hblank ih =>
    exact ends_mono ih (fun _ h => h.trans (List.suffix_cons c rest)) fun _ h => h
  | case4 lineStart c rest hmark hpair hblank hbreak ih =>
    exact ends_bind ih fun r hr => hr.trans (List.suffix_cons c rest)
  | case5 => exact List.suffix_rfl
  | case6 => exact List.suffix_rfl

theorem ends_quotedGap (t : Text) : Ends (·.2 <:+ t) (· = .malformed) (quotedGap t) := by
  have hgap : t.dropWhile isBlank <:+ t := List.dropWhile_suffix _
  unfold quotedGap
  dsimp only
  split
  · split
    · exact rfl
    · exact hgap
  · next first rest h =>
    exact ends_bind (ends_quotedLines true rest) fun r hr => hr.trans ((lineBreak?_suffixed h).trans hgap)

/-- Only the escapes with a capital letter have more than four digits. -/
theorem eq_of_escapeWidth? {c : Char} {width : Nat} (h : escapeWidth? c = some width) : width ≤ 4 ∨ c = 'U' := by
  unfold escapeWidth? at h
  split at h
  · exact .inl (Option.some.inj h ▸ by decide)
  · exact .inl (Option.some.inj h ▸ by decide)
  · exact .inr rfl
  · cases h

/-- Four digits never make too large a number. -/
theorem character_eq_ok {n : Nat} (h : n < 16 ^ 4) : ∃ x, character n = .ok x := by
  have hword : ¬0x7FFFFFFF < n := by omega
  have hlast : ¬0x10FFFF < n := by omega
  unfold character
  rw [if_neg hword, if_neg hlast]
  split <;> exact ⟨_, rfl⟩

/-- The number of an escape is one of a character, unless it has eight digits. -/
theorem ends_escape (t : Text) : Ends (·.2 <:+ t) (fun e => e = .malformed ∨ t.head? = some 'U') (escape t) := by
  unfold escape
  split
  · exact .inl rfl
  · next c rest =>
    have hrest : rest <:+ c :: rest := List.suffix_cons c rest
    split
    · exact hrest
    · split
      · next width hwidth =>
        dsimp only
        split
        · exact .inl rfl
        · next n hn =>
          split
          · exact .inl rfl
          · next hlong =>
            have hafter : rest.drop width <:+ c :: rest := (List.drop_suffix width rest).trans hrest
            rcases eq_of_escapeWidth? hwidth with hwidth | rfl
            · have hlength : (rest.take width).length ≤ 4 := Nat.le_trans (List.length_take_le _ _) hwidth
              have hsmall := Nat.lt_of_lt_of_le (lt_of_hexValue? hn) (Nat.pow_le_pow_right (by decide) hlength)
              obtain ⟨x, hx⟩ := character_eq_ok hsmall
              rw [hx]
              exact hafter
            · cases character n with
              | ok x => exact hafter
              | error e => exact .inr rfl
      · split
        · exact .inl rfl
        · next c' rest' h =>
          exact ends_mono (ends_quotedLines true rest') (fun _ hr => hr.trans (lineBreak?_suffixed h)) fun _ h => .inl h

theorem ends_doubleQuotedFrom (fuel : Nat) (t : Text) : FailsOnly (Refuses t) (doubleQuotedFrom fuel t) := by
  induction fuel generalizing t with
  | zero => exact .inl rfl
  | succ fuel ih =>
    have hmore : ∀ {f : Text × Text → Except Error (Text × Text)} {u : Text}, u <:+ t →
        (∀ r, FailsOnly (Refuses t) (f r)) → FailsOnly (Refuses t) (doubleQuotedFrom fuel u >>= f) := fun hu hf =>
      failsOnly_bind (refused_of_suffix (ih _) hu) hf
    unfold doubleQuotedFrom
    split
    · exact trivial
    · next rest =>
      have hrest : rest <:+ '\\' :: rest := List.suffix_cons _ _
      refine ends_bind (ends_mono (ends_escape rest) (fun _ h => h) fun e he => ?_) fun r hr => ?_
      · -- the escape of eight digits stands here
        refine he.imp_right fun hU => ?_
        obtain ⟨after, rfl⟩ : ∃ after, rest = 'U' :: after := List.head?_eq_some_iff.1 hU
        exact (List.prefix_append escapeMark after).isInfix
      · exact hmore (hr.trans hrest) fun _ => trivial
    · exact .inl rfl
    · next c rest _ _ =>
      split
      · exact ends_bind (refused_of_usual (ends_quotedGap _)) fun r hr => hmore hr fun _ => trivial
      · exact hmore (List.suffix_cons c rest) fun _ => trivial

theorem mild_singleQuotedFrom (fuel : Nat) (t : Text) : Mild (singleQuotedFrom fuel t) := by
  induction fuel generalizing t with
  | zero => exact rfl
  | succ fuel ih =>
    unfold singleQuotedFrom
    split
    · exact failsOnly_bind (ih _) fun _ => trivial
    · exact trivial
    · exact rfl
    · split
      · exact failsOnly_bind (ends_quotedGap _) fun r => failsOnly_bind (ih _) fun _ => trivial
      · exact failsOnly_bind (ih _) fun _ => trivial

/-! ### Other scalars, names and directives -/

theorem mild_indentation (t : Text) : Mild (indentation t) := by
  unfold indentation
  split
  · exact rfl
  · exact trivial
  · exact trivial

theorem mild_endLine (t : Text) : Mild (endLine t) := by
  unfold endLine
  dsimp only
  generalize (if (skipSpaces t).head? == some '#' then skipLine (skipSpaces t) else skipSpaces t) = u
  split
  · exact trivial
  · exact trivial
  · exact rfl

theorem mild_blockHeader (t : Text) : Mild (blockHeader t) := by
  unfold blockHeader
  extract_lets ends
  have hends : ∀ r, Mild (pure r >>= ends) := by
    rintro ⟨chomping, width, rest⟩
    rw [pure_bind]
    dsimp only [ends]
    split
    · exact failsOnly_bind (mild_endLine _) fun _ => trivial
    · exact rfl
  split
  · refine failsOnly_bind (mild_indentation _) ?_
    rintro ⟨width, rest⟩
    exact hends _
  · refine failsOnly_bind (mild_indentation _) ?_
    rintro ⟨width, rest⟩
    dsimp -zeta only
    split <;> exact hends _

theorem mild_blockScalar (folds : Bool) (least : Nat) (t : Text) : Mild (blockScalar folds least t) := by
  refine failsOnly_bind (mild_blockHeader t) ?_
  rintro ⟨chomping, _ | width, u⟩ <;> dsimp only
  · split <;> exact trivial
  · split <;> exact trivial

theorem mild_name (t : Text) : Mild (name t) := by
  unfold name
  split
  · exact rfl
  · exact trivial

theorem mild_anchorName (t : Text) : Mild (anchorName t) := by
  refine failsOnly_bind (mild_name t) fun r => ?_
  dsimp only
  split
  · exact trivial
  · exact rfl

theorem mild_escapedBytes (t : Text) : Mild (escapedBytes t) := by
  fun_induction escapedBytes t with
  | case1 a b rest h => exact rfl
  | case2 a b rest x h ih => exact failsOnly_bind ih fun _ => trivial
  | case3 => exact rfl
  | case4 => exact trivial

theorem mild_tagChars (fuel : Nat) (t : Text) : Mild (tagChars fuel t) := by
  induction fuel generalizing t with
  | zero => exact trivial
  | succ fuel ih =>
    unfold tagChars
    split
    · refine failsOnly_bind (mild_escapedBytes _) fun r => ?_
      dsimp only
      split
      · exact rfl
      · exact failsOnly_bind (ih _) fun _ => trivial
    · split
      · exact failsOnly_bind (ih _) fun _ => trivial
      · exact trivial
    · exact trivial

theorem mild_tagText (t : Text) : Mild (tagText t) := by
  unfold tagText
  split
  · exact mild_tagChars _ _
  · exact rfl

theorem mild_handle (t : Text) : Mild (handle t) := by
  unfold handle
  split
  · dsimp only
    split
    · exact trivial
    · split
      · exact trivial
      · exact rfl
  · exact rfl

theorem mild_tag (t : Text) : Mild (tag t) := by
  unfold tag
  extract_lets ends
  have hends : ∀ r, Mild (pure r >>= ends) := by
    rintro ⟨token, rest⟩
    rw [pure_bind]
    dsimp only [ends]
    split
    · exact trivial
    · exact rfl
  split
  · refine failsOnly_bind (mild_tagText _) ?_
    rintro ⟨suffix, rest⟩
    dsimp only
    split
    · exact hends _
    · exact rfl
  · split
    · exact hends _
    · split
      · refine failsOnly_bind (mild_handle _) fun r => failsOnly_bind (mild_tagText _) ?_
        rintro ⟨suffix, rest⟩
        exact hends _
      · refine failsOnly_bind (mild_tagText _) ?_
        rintro ⟨suffix, rest⟩
        exact hends _

theorem mild_numeral (t : Text) : Mild (numeral t) := by
  unfold numeral
  split
  · exact rfl
  · exact trivial

theorem mild_directive (t : Text) : Mild (directive t) := by
  refine failsOnly_bind (mild_name t) ?_
  rintro ⟨n, rest⟩
  dsimp -zeta only
  refine ends_guard (fun _ => rfl) ?_
  split
  · refine failsOnly_bind (mild_numeral _) ?_
    rintro ⟨major, rest⟩
    dsimp -zeta only
    split
    · refine failsOnly_bind (mild_numeral _) fun r => ?_
      split
      · exact failsOnly_bind (mild_endLine _) fun _ => trivial
      · exact rfl
    · exact rfl
  · split
    · refine failsOnly_bind (mild_handle _) ?_
      rintro ⟨h, rest⟩
      dsimp -zeta only
      refine ends_guard (fun _ => rfl) (failsOnly_bind (mild_tagText _) fun r => ?_)
      split
      · exact failsOnly_bind (mild_endLine _) fun _ => trivial
      · exact rfl
    · exact failsOnly_bind (mild_endLine _) fun _ => trivial

/-! ### Reading tokens -/

namespace Lexer

theorem advance_suffixed (n : Nat) (l : Lexer) : (l.advance n).rest <:+ l.rest := by
  induction n generalizing l with
  | zero => exact List.suffix_rfl
  | succ n ih =>
    unfold advance
    split
    · exact List.suffix_rfl
    · next c rest h =>
      rw [h]
      exact (ih _).trans (List.suffix_cons c rest)

theorem moveTo_suffixed (rest : Text) (l : Lexer) : (l.moveTo rest).rest <:+ l.rest := advance_suffixed _ l

@[simp]
theorem closeBlocks_rest (column : Option Nat) (l : Lexer) : (l.closeBlocks column).rest = l.rest := by
  unfold closeBlocks
  split <;> rfl

@[simp]
theorem openBlock_rest (column : Nat) (l : Lexer) : (l.openBlock column).2.rest = l.rest := by
  unfold openBlock
  split <;> rfl

theorem skipGap_suffixed (fuel : Nat) (l : Lexer) : (l.skipGap fuel).rest <:+ l.rest := by
  induction fuel generalizing l with
  | zero => exact List.suffix_rfl
  | succ fuel ih =>
    unfold skipGap
    dsimp only
    split
    · exact moveTo_suffixed _ l
    · exact (ih _).trans (moveTo_suffixed _ l)

/-- A step that stays at its place in the text, or refuses the text as malformed. -/
abbrev Stays (l : Lexer) (x : Except Error Lexer) : Prop := Ends (fun l' => l'.rest = l.rest) (· = .malformed) x

/-- A step that goes on to a later part of the text, or refuses the text as malformed. -/
abbrev GoesOn (l : Lexer) (x : Except Error Lexer) : Prop := Ends (fun l' => l'.rest <:+ l.rest) (· = .malformed) x

/-- After a step that stays, another goes on from the same place. -/
theorem goesOn_bind {l : Lexer} {x : Except Error Lexer} {f : Lexer → Except Error Lexer} (hx : Stays l x)
    (hf : ∀ l', GoesOn l' (f l')) : GoesOn l (x >>= f) :=
  ends_bind hx fun l' hl => ends_mono (hf l') (fun _ h => hl ▸ h) fun _ h => h

theorem stays_dropStale (l : Lexer) : Stays l l.dropStale := by
  unfold dropStale
  dsimp only
  split <;> rfl

theorem stays_dropCandidate (l : Lexer) : Stays l l.dropCandidate := by
  unfold dropCandidate
  split <;> rfl

theorem stays_saveCandidate (l : Lexer) : Stays l l.saveCandidate := by
  unfold saveCandidate
  split
  · rfl
  · exact ends_bind (stays_dropCandidate l) fun _ h => h

theorem stays_begin (t : Token) (l : Lexer) : Stays l (l.begin t) := by
  unfold begin
  split
  · rfl
  · split
    · rfl
    · dsimp only
      split
      · exact openBlock_rest _ l
      · exact openBlock_rest _ l

theorem goesOn_documentToken (t : Token) (rest : Text) (l : Lexer) : GoesOn l (l.documentToken t rest) := by
  refine ends_bind (stays_dropCandidate _) fun l' h => ?_
  rw [closeBlocks_rest] at h
  exact h ▸ moveTo_suffixed rest _

theorem goesOn_opening (t : Token) (l : Lexer) : GoesOn l (l.opening t) :=
  goesOn_bind (stays_saveCandidate l) fun _ => advance_suffixed 1 _

theorem goesOn_closing (t : Token) (l : Lexer) : GoesOn l (l.closing t) := by
  refine goesOn_bind (stays_dropCandidate l) fun l' => ?_
  split
  · rfl
  · exact advance_suffixed 1 _

theorem goesOn_separator (l : Lexer) : GoesOn l l.separator :=
  goesOn_bind (stays_dropCandidate l) fun _ => advance_suffixed 1 _

theorem goesOn_item (l : Lexer) : GoesOn l l.item :=
  goesOn_bind (stays_begin _ l) fun _ => goesOn_bind (stays_dropCandidate _) fun _ => advance_suffixed 1 _

theorem goesOn_explicitKey (l : Lexer) : GoesOn l l.explicitKey :=
  goesOn_bind (stays_begin _ l) fun _ => goesOn_bind (stays_dropCandidate _) fun _ => advance_suffixed 1 _

theorem goesOn_valueMark (l : Lexer) : GoesOn l l.valueMark := by
  unfold valueMark
  split
  · next c _ =>
    extract_lets l' before later
    split
    next opened l₁ h =>
    have hopened : l₁.rest = l.rest := by
      split at h
      · exact congrArg (·.2.rest) h.symm
      · exact (congrArg (·.2.rest) h.symm).trans (openBlock_rest _ l')
    exact hopened ▸ advance_suffixed 1 _
  · exact goesOn_bind (stays_begin _ l) fun _ => goesOn_bind (stays_dropCandidate _) fun _ => advance_suffixed 1 _

theorem goesOn_block (folds : Bool) (l : Lexer) : GoesOn l (l.block folds) :=
  goesOn_bind (stays_dropCandidate _) fun _ =>
    ends_bind (mild_blockScalar _ _ _) fun _ _ => moveTo_suffixed _ _

theorem goesOn_plainScalar (l : Lexer) : GoesOn l l.plainScalar :=
  goesOn_bind (stays_saveCandidate l) fun _ => moveTo_suffixed _ _

/-- A token is read from the text that follows its sign. -/
theorem ends_content {read : Text → Except Error (Token × Text)} {E : Error → Prop} (l : Lexer)
    (hE : E .malformed) (hread : FailsOnly E (read (l.rest.drop 1))) :
    Ends (fun l' => l'.rest <:+ l.rest) E (l.content read) := by
  have hsave : Ends (fun l' => l'.rest = l.rest) E l.saveCandidate :=
    ends_mono (stays_saveCandidate l) (fun _ h => h) fun _ h => h ▸ hE
  refine ends_bind hsave fun l' hl => ?_
  rw [hl]
  exact ends_bind hread fun r _ => hl ▸ moveTo_suffixed r.2 _

/-- Only a scalar in double quotes is refused other than as malformed. -/
theorem ends_token {c : Char} {after : Text} (l : Lexer) (hl : l.rest = c :: after) :
    Ends (fun l' => l'.rest <:+ l.rest) (Refuses l.rest) (l.token c after) := by
  have hafter : l.rest.drop 1 = after := by rw [hl, List.drop_one, List.tail_cons]
  have hscalar : ∀ {read : Text → Except Error (Text × Text)}, FailsOnly (Refuses l.rest) (read after) →
      Ends (fun l' => l'.rest <:+ l.rest) (Refuses l.rest)
        (l.content fun t => (read t).map fun r => (.scalar r.1 false, r.2)) := fun hread =>
    ends_content l (.inl rfl) (hafter ▸ ends_map hread)
  unfold token
  extract_lets lineStart scalar
  split
  · exact refused_of_usual (ends_bind (mild_directive after) fun r _ => goesOn_documentToken _ _ l)
  · split
    · exact refused_of_usual (goesOn_documentToken _ _ l)
    · split
      · exact refused_of_usual (goesOn_opening _ l)
      · exact refused_of_usual (goesOn_opening _ l)
      · exact refused_of_usual (goesOn_closing _ l)
      · exact refused_of_usual (goesOn_closing _ l)
      · exact refused_of_usual (goesOn_separator l)
      · exact refused_of_usual (ends_content l rfl (ends_map (mild_anchorName _)))
      · exact refused_of_usual (ends_content l rfl (ends_map (mild_anchorName _)))
      · exact refused_of_usual (ends_content l rfl (mild_tag _))
      · exact hscalar (refused_of_usual (mild_singleQuotedFrom _ _))
      · -- the quoted scalar is a part of the text
        have hpart : after <:+ l.rest := hl ▸ List.suffix_cons _ after
        exact hscalar (refused_of_suffix (ends_doubleQuotedFrom _ after) hpart)
      · refine refused_of_usual ?_
        repeat' split
        · exact goesOn_item l
        · exact goesOn_explicitKey l
        · exact goesOn_valueMark l
        · exact goesOn_block _ l
        · exact goesOn_plainScalar l
        · rfl

theorem ends_run (fuel : Nat) (l : Lexer) : FailsOnly (Refuses l.rest) (l.run fuel) := by
  induction fuel generalizing l with
  | zero => exact .inl rfl
  | succ fuel ih =>
    have hgap := skipGap_suffixed (l.rest.length + 1) l
    unfold run
    refine ends_bind (refused_of_usual (stays_dropStale _)) fun l₁ h₁ => ?_
    have hclosed : (l₁.closeBlocks (some l₁.column)).rest <:+ l.rest := by
      rw [closeBlocks_rest, h₁]
      exact hgap
    dsimp only
    split
    · refine ends_mono (stays_dropCandidate _) (fun _ _ => trivial) fun _ h => .inl h
    · next c after h =>
      refine ends_bind (refused_of_suffix (ends_token _ h) hclosed) fun l₂ h₂ => ?_
      exact refused_of_suffix (ih l₂) (h₂.trans hclosed)

end Lexer

/-- A text is refused as malformed, or it holds an escape of eight digits. -/
theorem failsOnly_tokens (t : Text) : FailsOnly (Refuses t) (tokens t) := by
  unfold tokens
  refine ends_guard (fun _ => .inl rfl) ?_
  dsimp only
  refine failsOnly_bind (refused_of_suffix (Lexer.ends_run _ _) ?_) fun _ => trivial
  split
  · exact Lexer.advance_suffixed 1 _
  · exact List.suffix_rfl

end PageQuery.Yaml
