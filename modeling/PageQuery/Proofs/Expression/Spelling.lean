import Mathlib.Data.List.TakeWhile
import PageQuery.Expression.Token
import PageQuery.Proofs.Number.Digits

namespace PageQuery.Expression

/-!
# The spelling of arithmetic

Texts of digits, white space, signs and parentheses, and the tokens that they are made of.

* `IsArithmetic`: the texts, told by their characters and by how many digits stand side by side;
* `Spells`: the lists of tokens that they are made of, with white space anywhere between them;
* `token?_text`: a token is read where it stands, up to where it ends;
* `tokens_of_spells`: the tokens that a text is made of are those that are read;
* `exists_spells`: each of these texts is made of tokens.
-/

/-- The signs of arithmetic on whole numbers. -/
def signs : Text := ['+', '-', '*', '%', '(', ')']

/-- The characters that arithmetic is written with. -/
def IsCharacter (c : Char) : Prop := c.isDigit = true ∨ Text.isSpace c = true ∨ c ∈ signs

/-- Texts that arithmetic is written as: no more digits stand side by side than a numeral may have. -/
structure IsArithmetic (t : Text) : Prop where
  characters : ∀ c ∈ t, IsCharacter c
  short : ∀ ds, ds <:+: t → (∀ c ∈ ds, c.isDigit = true) → ds.length ≤ Numeral.maxDigits

/-- Tokens of arithmetic: numerals of ASCII digits, and the signs. -/
def Token.IsArithmetic : Token → Prop
  | .numeral t => t ≠ [] ∧ (∀ c ∈ t, c.isDigit = true) ∧ t.length ≤ Numeral.maxDigits
  | .operator o => o ≠ .divide
  | .opening => True
  | .closing => True
  | .literal _ => False
  | .name _ => False

/-- A token ends where a text goes on: that does not start with further digits of a numeral. -/
def Token.EndsBefore (rest : Text) : Token → Prop
  | .numeral _ => ∀ c, rest.head? = some c → c.isDigit = false
  | _ => True

/-- A text is made of tokens of arithmetic, with white space around them. -/
inductive Spells : Text → List Token → Prop where
  | blank {gap : Text} (hgap : ∀ c ∈ gap, Text.isSpace c = true) : Spells gap []
  | token {gap rest : Text} {token : Token} {ts : List Token} (hgap : ∀ c ∈ gap, Text.isSpace c = true)
    (htoken : token.IsArithmetic) (hend : token.EndsBefore rest) (hrest : Spells rest ts) :
    Spells (gap ++ (token.text ++ rest)) (token :: ts)

/-! ### Characters -/

/-- A character of arithmetic that is no ASCII digit ends a numeral. -/
theorem IsCharacter.endsNumeral {c : Char} (h : IsCharacter c) (hdigit : c.isDigit = false) :
    Text.isDigit c = false ∧ c ≠ '.' := by
  rcases h with hc | hc | hc
  · rw [hdigit] at hc
    cases hc
  · refine ⟨Text.isDigit_eq_false_of_isSpace hc, ?_⟩
    rintro rfl
    exact absurd hc (by decide)
  · have hsigns : ∀ c ∈ signs, Text.isDigit c = false ∧ c ≠ '.' := Text.forall_mem_of_all (by decide)
    exact hsigns c hc

/-- A token of arithmetic is written with the characters of arithmetic. -/
theorem Token.IsArithmetic.characters {token : Token} (h : token.IsArithmetic) :
    ∀ c ∈ token.text, IsCharacter c := by
  intro c hc
  match token, h with
  | .numeral t, h => exact .inl (h.2.1 c hc)
  | .operator o, h =>
    obtain rfl : c = o.sign := List.mem_singleton.1 hc
    refine .inr (.inr ?_)
    cases o with
    | divide => exact absurd rfl h
    | _ => decide
  | .opening, _ | .closing, _ =>
    obtain rfl := List.mem_singleton.1 hc
    exact .inr (.inr (by decide))

/-- No token of arithmetic starts with white space. -/
theorem Token.IsArithmetic.exists_cons {token : Token} (h : token.IsArithmetic) :
    ∃ c rest, token.text = c :: rest ∧ Text.isSpace c = false := by
  match token, h with
  | .numeral t, h =>
    obtain ⟨c, rest, rfl⟩ := List.exists_cons_of_ne_nil h.1
    exact ⟨c, rest, rfl, Text.isSpace_eq_false_of_isDigit (h.2.1 c List.mem_cons_self)⟩
  | .operator o, _ => exact ⟨o.sign, [], rfl, by cases o <;> decide⟩
  | .opening, _ => exact ⟨'(', [], rfl, by decide⟩
  | .closing, _ => exact ⟨')', [], rfl, by decide⟩

/-- What is made of tokens of arithmetic is written with its characters. -/
theorem Spells.characters {t : Text} {ts : List Token} (h : Spells t ts) : ∀ c ∈ t, IsCharacter c := by
  induction h with
  | blank hgap => exact fun c hc => .inr (.inl (hgap c hc))
  | token hgap htoken _ _ ih =>
    intro c hc
    rcases List.mem_append.1 hc with hc | hc
    · exact .inr (.inl (hgap c hc))
    · rcases List.mem_append.1 hc with hc | hc
      · exact htoken.characters c hc
      · exact ih c hc

/-- The tokens that a text is made of are those of arithmetic. -/
theorem Spells.isArithmetic {t : Text} {ts : List Token} (h : Spells t ts) :
    ∀ token ∈ ts, token.IsArithmetic := by
  induction h with
  | blank => exact nofun
  | token _ htoken _ _ ih => exact List.forall_mem_cons.2 ⟨htoken, ih⟩

/-! ### Reading -/

/-- Digits are read as a numeral, up to a character of arithmetic that is none. -/
theorem numeral?_digits {ds rest : Text} (hds : ∀ c ∈ ds, c.isDigit = true) (hne : ds ≠ [])
    (hrest : ∀ c ∈ rest, IsCharacter c) (hend : ∀ c, rest.head? = some c → c.isDigit = false) :
    numeral? (ds ++ rest) = some (ds, rest) := by
  have hdigits : ∀ c ∈ ds, Text.isDigit c = true := fun c hc => Text.isDigit_of_ascii (hds c hc)
  unfold numeral?
  rw [List.takeWhile_append_of_pos hdigits, List.dropWhile_append_of_pos hdigits]
  cases rest with
  | nil => simp
  | cons c rest =>
    obtain ⟨hc, hpoint⟩ := (hrest c List.mem_cons_self).endsNumeral (hend c rfl)
    have hstop : ¬Text.isDigit c = true := by simp [hc]
    rw [List.takeWhile_cons_of_neg hstop, List.dropWhile_cons_of_neg hstop, List.append_nil]
    dsimp only
    split <;> simp_all

/-- A token of arithmetic is read where it stands. -/
theorem token?_text {token : Token} {rest : Text} (htoken : token.IsArithmetic)
    (hrest : ∀ c ∈ rest, IsCharacter c) (hend : token.EndsBefore rest) :
    token? (token.text ++ rest) = some (token, rest) := by
  match token, htoken, hend with
  | .numeral ds, hds, hend =>
    show token? (ds ++ rest) = _
    unfold token?
    rw [numeral?_digits hds.2.1 hds.1 hrest hend]
  | .operator .plus, _, _ | .operator .minus, _, _ | .operator .times, _, _ | .operator .modulo, _, _
  | .opening, _, _ | .closing, _, _ => rfl
  | .operator .divide, h, _ => exact absurd rfl h

/-- White space in front of a character that is none is passed over. -/
theorem trimLeft_gap {gap rest : Text} {c : Char} (hgap : ∀ c ∈ gap, Text.isSpace c = true)
    (hc : Text.isSpace c = false) : Text.trimLeft (gap ++ c :: rest) = c :: rest := by
  rw [Text.trimLeft, List.dropWhile_append_of_pos hgap, List.dropWhile_cons_of_neg (by simp [hc])]

/-- White space at the end of a text holds no tokens. -/
theorem tokensFrom_blank {gap : Text} (hgap : ∀ c ∈ gap, Text.isSpace c = true) (length fuel : Nat) :
    tokensFrom length (fuel + 1) gap = .ok [] := by
  have hblank : Text.trimLeft gap = [] := List.dropWhile_eq_nil_iff.2 hgap
  simp only [tokensFrom, hblank]

/-- A token is read behind white space, and then what follows it. -/
theorem tokensFrom_token {gap start rest : Text} {c : Char} {token : Token} {ts : List Token} {length fuel : Nat}
    (hgap : ∀ c ∈ gap, Text.isSpace c = true) (hc : Text.isSpace c = false)
    (hread : token? (c :: start) = some (token, rest)) (hrest : tokensFrom length fuel rest = .ok ts) :
    tokensFrom length (fuel + 1) (gap ++ c :: start) = .ok (token :: ts) := by
  simp only [tokensFrom, trimLeft_gap hgap hc, hread, hrest]
  rfl

/-- The tokens that the end of a text is made of are read, with fuel for its characters. -/
theorem tokensFrom_of_spells {t : Text} {ts : List Token} (h : Spells t ts) (length : Nat) {fuel : Nat}
    (hfuel : t.length < fuel) : tokensFrom length fuel t = .ok ts := by
  induction h generalizing fuel with
  | @blank gap hgap =>
    obtain ⟨fuel, rfl⟩ : ∃ n, fuel = n + 1 := Nat.exists_eq_succ_of_ne_zero (by omega)
    exact tokensFrom_blank hgap length fuel
  | @token gap rest token ts hgap htoken hend hspells ih =>
    obtain ⟨fuel, rfl⟩ : ∃ n, fuel = n + 1 := Nat.exists_eq_succ_of_ne_zero (by omega)
    obtain ⟨c, cs, htext, hc⟩ := htoken.exists_cons
    have hread : token? (token.text ++ rest) = some (token, rest) := token?_text htoken hspells.characters hend
    -- a token takes at least one character, so the fuel lasts
    have hlast : rest.length < fuel := by
      rw [htext, List.length_append, List.length_append, List.length_cons] at hfuel
      omega
    rw [htext, List.cons_append] at hread ⊢
    exact tokensFrom_token hgap hc hread (ih hlast)

/-- The tokens that a text is made of are those that are read. -/
theorem tokens_of_spells {t : Text} {ts : List Token} (h : Spells t ts) : tokens t = .ok ts :=
  tokensFrom_of_spells h _ (Nat.lt_succ_self _)

/-- A text is made of one list of tokens at most. -/
theorem Spells.unique {t : Text} {ts us : List Token} (hts : Spells t ts) (hus : Spells t us) : ts = us :=
  Except.ok.inj ((tokens_of_spells hts).symm.trans (tokens_of_spells hus))

/-! ### Splitting -/

/-- What stands inside a text of arithmetic is one. -/
theorem IsArithmetic.of_infix {t u : Text} (h : IsArithmetic t) (hu : u <:+: t) : IsArithmetic u :=
  ⟨fun c hc => h.characters c (hu.subset hc), fun ds hds => h.short ds (hds.trans hu)⟩

/-- The sign that a token of arithmetic is written with. -/
theorem exists_token_of_mem_signs {c : Char} (h : c ∈ signs) :
    ∃ token : Token, token.IsArithmetic ∧ token.text = [c] ∧ ∀ rest, token.EndsBefore rest := by
  obtain rfl | rfl | rfl | rfl | rfl | rfl : c = '+' ∨ c = '-' ∨ c = '*' ∨ c = '%' ∨ c = '(' ∨ c = ')' := by
    simpa [signs] using h
  · exact ⟨.operator .plus, by simp [Token.IsArithmetic], rfl, fun _ => trivial⟩
  · exact ⟨.operator .minus, by simp [Token.IsArithmetic], rfl, fun _ => trivial⟩
  · exact ⟨.operator .times, by simp [Token.IsArithmetic], rfl, fun _ => trivial⟩
  · exact ⟨.operator .modulo, by simp [Token.IsArithmetic], rfl, fun _ => trivial⟩
  · exact ⟨.opening, trivial, rfl, fun _ => trivial⟩
  · exact ⟨.closing, trivial, rfl, fun _ => trivial⟩

/-- A text of arithmetic that does not start with white space starts with a token. -/
theorem IsArithmetic.exists_token {c : Char} {t : Text} (h : IsArithmetic (c :: t))
    (hc : Text.isSpace c = false) :
    ∃ (token : Token) (rest : Text), c :: t = token.text ++ rest ∧ token.IsArithmetic ∧ token.EndsBefore rest := by
  rcases h.characters c List.mem_cons_self with hdigit | hspace | hsign
  · have hsplit : (c :: t).takeWhile Char.isDigit ++ (c :: t).dropWhile Char.isDigit = c :: t :=
      List.takeWhile_append_dropWhile
    have hdigits : ∀ d ∈ (c :: t).takeWhile Char.isDigit, d.isDigit = true :=
      fun d hd => List.mem_takeWhile_imp hd
    refine ⟨.numeral ((c :: t).takeWhile Char.isDigit), _, hsplit.symm, ⟨?_, hdigits, ?_⟩, ?_⟩
    · simp [hdigit]
    · exact h.short _ (List.takeWhile_prefix _).isInfix hdigits
    · intro d hd
      have hhead := List.head?_dropWhile_not Char.isDigit (c :: t)
      rw [hd] at hhead
      exact hhead
  · rw [hc] at hspace
    cases hspace
  · obtain ⟨token, htoken, htext, hend⟩ := exists_token_of_mem_signs hsign
    exact ⟨token, t, by rw [htext, List.singleton_append], htoken, hend t⟩

/-- Every text of arithmetic is made of tokens. -/
theorem exists_spells {t : Text} (h : IsArithmetic t) : ∃ ts, Spells t ts := by
  have hsplit : t.takeWhile Text.isSpace ++ t.dropWhile Text.isSpace = t := List.takeWhile_append_dropWhile
  have hgap : ∀ c ∈ t.takeWhile Text.isSpace, Text.isSpace c = true := fun c hc => List.mem_takeWhile_imp hc
  cases hstart : t.dropWhile Text.isSpace with
  | nil =>
    rw [hstart, List.append_nil] at hsplit
    exact ⟨[], .blank (hsplit ▸ hgap)⟩
  | cons c start =>
    rw [hstart] at hsplit
    have hc : Text.isSpace c = false := by
      have hhead := List.head_dropWhile_not Text.isSpace (l := t) (by simp [hstart])
      simpa [hstart] using hhead
    have hinfix : c :: start <:+: t := ⟨_, [], by rw [hsplit, List.append_nil]⟩
    obtain ⟨token, rest, htext, htoken, hend⟩ := (h.of_infix hinfix).exists_token hc
    obtain ⟨d, ds, hds, -⟩ := htoken.exists_cons
    have hsuffix : rest <:+ c :: start := ⟨token.text, htext.symm⟩
    have hshorter : rest.length < t.length := by
      rw [← hsplit, htext, hds, List.length_append, List.length_append, List.length_cons]
      omega
    obtain ⟨ts, hts⟩ := exists_spells (h.of_infix (hsuffix.isInfix.trans hinfix))
    refine ⟨token :: ts, ?_⟩
    rw [← hsplit, htext]
    exact .token hgap htoken hend hts
termination_by t.length

end PageQuery.Expression
