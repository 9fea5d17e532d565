import PageQuery.Proofs.Expression.Grammar
import PageQuery.Proofs.Expression.Spelling
import PageQuery.Proofs.Json.Ascii
import PageQuery.Proofs.Json.Prefix
import PageQuery.Proofs.Transform.Conditions

namespace PageQuery.Expression

/-!
# Texts as literals

Every text can be written in an expression: in double quotes as JSON, and in single quotes if there is no backslash in
it. The end of such a literal is found by passing over what stands behind backslashes, and its text by one of two other
rules, according to the quote that it starts with.

* `IsLiteral`: the literals of a text;
* `closing?_of_units`, `closing?_shielded`: the end of a literal is found where it is;
* `IsLiteral.token?_eq`, `IsLiteral.literalValue_eq`: a literal is one token, and stands for its text;
* `apply_plus`: texts that are not both numbers are joined by the sign for sums;
* `evaluate_literals`: the value of a literal, and of a sum of two.
-/

/-- A text in single quotes, with a backslash in front of each single quote in it. -/
def singleQuoted (s : Text) : Text := '\'' :: (Transform.shielded ['\''] s ++ ['\''])

/-- A literal that stands for a text: a JSON text, or the text in single quotes. -/
inductive IsLiteral (s : Text) : Text → Prop where
  | double {q : Text} (h : Json.ReadsAsText q s) : IsLiteral s q
  | single (h : '\\' ∉ s) : IsLiteral s (singleQuoted s)

/-! ### The end of a literal -/

section

variable {quote c : Char} {t body rest : Text}

/-- A character that is neither a backslash nor the quote is passed over. -/
theorem closing?_cons (hbar : c ≠ '\\') (hquote : c ≠ quote) (h : closing? quote t = some (body, rest)) :
    closing? quote (c :: t) = some (c :: body, rest) := by
  rw [closing?, h]
  · simp [hquote, hbar]
  · exact fun _ _ heq => absurd heq hbar

/-- A backslash is passed over with the character behind it. -/
theorem closing?_escape (hc : c ≠ '\n') (h : closing? quote t = some (body, rest)) :
    closing? quote ('\\' :: c :: t) = some ('\\' :: c :: body, rest) := by
  rw [closing?, h]
  simp [hc]

/-- The quote ends a literal. -/
theorem closing?_quote (hquote : quote ≠ '\\') (rest : Text) : closing? quote (quote :: rest) = some ([quote], rest) := by
  rw [closing?]
  · simp
  · exact fun _ _ heq => absurd heq hquote

end

/-- Hexadecimal digits are neither quotes nor backslashes. -/
theorem ne_of_hexDigit? {c : Char} {n : Nat} (h : Text.hexDigit? c = some n) : c ≠ '\\' ∧ c ≠ '"' := by
  constructor
  · rintro rfl
    cases h
  · rintro rfl
    cases h

theorem ne_of_hex4? {a b c d : Char} {n : Nat} (h : Json.hex4? a b c d = some n) :
    ∀ x ∈ [a, b, c, d], x ≠ '\\' ∧ x ≠ '"' := by
  simp only [Json.hex4?, Option.bind_eq_bind, Option.bind_eq_some_iff] at h
  obtain ⟨_, ha, _, hb, _, hc, _, hd, -⟩ := h
  simp only [List.forall_mem_cons]
  exact ⟨ne_of_hexDigit? ha, ne_of_hexDigit? hb, ne_of_hexDigit? hc, ne_of_hexDigit? hd, List.forall_mem_nil _⟩

/-- No backslash and line feed stand for a character in JSON. -/
theorem ne_of_escaped? {c x : Char} (h : Json.escaped? c = some x) : c ≠ '\n' := by
  rintro rfl
  cases h

/-- What JSON reads as a text ends where the literal does. -/
theorem closing?_of_units {start : Nat} {t rest : Text} {us : List Nat} (h : Json.units start t = .ok (us, rest)) :
    ∃ body, t = body ++ rest ∧ closing? '"' t = some (body, rest) := by
  fun_induction Json.units start t generalizing us with
  | case1 => cases h
  | case2 rest' =>
    obtain ⟨-, rfl⟩ := Prod.mk.inj (Except.ok.inj h)
    exact ⟨['"'], rfl, closing?_quote (by decide) _⟩
  | case3 => cases h
  | case4 => cases h
  | case5 a b c d e t n hcode ih =>
    obtain ⟨⟨vs, after⟩, hread, hus⟩ := bind_eq_ok_iff.1 h
    obtain ⟨-, rfl⟩ := Prod.mk.inj (Except.ok.inj hus)
    obtain ⟨body, ht, hbody⟩ := ih hread
    have hdigits := ne_of_hex4? hcode
    simp only [List.forall_mem_cons] at hdigits
    obtain ⟨ha, hb, hc, hd, -⟩ := hdigits
    have hrow := closing?_cons ha.1 ha.2 (closing?_cons hb.1 hb.2 (closing?_cons hc.1 hc.2
      (closing?_cons hd.1 hd.2 hbody)))
    exact ⟨'\\' :: 'u' :: a :: b :: c :: d :: body, by rw [ht]; rfl, closing?_escape (by decide) hrow⟩
  | case6 => cases h
  | case7 => cases h
  | case8 c t _ _ x hescaped ih =>
    obtain ⟨⟨vs, after⟩, hread, hus⟩ := bind_eq_ok_iff.1 h
    obtain ⟨-, rfl⟩ := Prod.mk.inj (Except.ok.inj hus)
    obtain ⟨body, rfl, hbody⟩ := ih hread
    exact ⟨'\\' :: c :: body, rfl, closing?_escape (ne_of_escaped? hescaped) hbody⟩
  | case9 => cases h
  | case10 c t hquote hlast _ hescape _ ih =>
    have hbar : c ≠ '\\' := by
      rintro rfl
      cases t with
      | nil => exact hlast rfl rfl
      | cons d t => exact hescape d t rfl rfl
    obtain ⟨⟨vs, after⟩, hread, hus⟩ := bind_eq_ok_iff.1 h
    obtain ⟨-, rfl⟩ := Prod.mk.inj (Except.ok.inj hus)
    obtain ⟨body, rfl, hbody⟩ := ih hread
    exact ⟨c :: body, rfl, closing?_cons hbar hquote hbody⟩

/-- A text in which single quotes are shielded ends at the first single quote that is not. -/
theorem closing?_shielded {s : Text} (hs : '\\' ∉ s) (rest : Text) :
    closing? '\'' (Transform.shielded ['\''] s ++ '\'' :: rest) = some (Transform.shielded ['\''] s ++ ['\''], rest) := by
  induction s with
  | nil => exact closing?_quote (by decide) rest
  | cons c s ih =>
    obtain ⟨hc, htail⟩ := not_or.1 (mt List.mem_cons.2 hs)
    rw [Transform.shielded_cons]
    by_cases hquote : c = '\''
    · subst hquote
      exact closing?_escape (by decide) (ih htail)
    · rw [if_neg (by simpa using hquote)]
      exact closing?_cons (Ne.symm hc) hquote (ih htail)

/-! ### Literals as tokens -/

/-- A quote starts a literal. -/
theorem token?_literal {quote : Char} {t body rest : Text} (hquote : quote = '"' ∨ quote = '\'')
    (h : closing? quote t = some (body, rest)) : token? (quote :: t) = some (.literal (quote :: body), rest) := by
  rcases hquote with rfl | rfl
  · show (closing? '"' t).map _ = _
    rw [h]
    rfl
  · show (closing? '\'' t).map _ = _
    rw [h]
    rfl

namespace IsLiteral

variable {s t l m : Text}

/-- A literal starts with a quote. -/
theorem exists_cons (h : IsLiteral s l) : ∃ quote u, (quote = '"' ∨ quote = '\'') ∧ l = quote :: u := by
  cases h with
  | double h =>
    obtain ⟨u, rfl, -⟩ := h
    exact ⟨'"', u, .inl rfl, rfl⟩
  | single => exact ⟨'\'', _, .inr rfl, rfl⟩

/-- A literal is one token, whatever follows it. -/
theorem token?_eq (h : IsLiteral s l) (rest : Text) : token? (l ++ rest) = some (.literal l, rest) := by
  cases h with
  | double h =>
    obtain ⟨u, rfl, hu⟩ := h
    obtain ⟨⟨us, after⟩, hunits, heq⟩ := bind_eq_ok_iff.1 (hu rest)
    obtain ⟨-, rfl⟩ := Prod.mk.inj (Except.ok.inj heq)
    obtain ⟨body, hbody, hclosing⟩ := closing?_of_units hunits
    obtain rfl := List.append_cancel_right hbody
    exact token?_literal (.inl rfl) hclosing
  | single hs =>
    have hclosing : closing? '\'' (Transform.shielded ['\''] s ++ ['\''] ++ rest) =
        some (Transform.shielded ['\''] s ++ ['\''], rest) := by
      rw [List.append_assoc]
      exact closing?_shielded hs rest
    exact token?_literal (.inr rfl) hclosing

/-- A literal stands for its text. -/
theorem literalValue_eq (h : IsLiteral s l) : literalValue l = .ok (.text s) := by
  cases h with
  | double h =>
    have hread : Json.read l = .ok (.text s) := (Json.readsAs_text h).read_eq
    obtain ⟨u, rfl, -⟩ := h
    show (Json.read ('"' :: u)).mapError _ = _
    rw [hread]
    rfl
  | single hs =>
    have hreplace := Transform.replace_shielded [] '\'' List.not_mem_nil hs []
    rw [List.append_nil, Transform.shielded_none] at hreplace
    show Except.ok (Value.text (Text.replace _ _ (Transform.shielded ['\''] s ++ ['\'']).dropLast)) = _
    rw [List.dropLast_concat]
    show Except.ok (Value.text (Text.replace ['\\', '\''] ['\''] (Transform.shielded ['\''] s))) = _
    rw [hreplace]
    show Except.ok (Value.text (s ++ [])) = _
    rw [List.append_nil]

/-- The tokens of a text that goes on with a literal. -/
theorem tokensFrom_eq (h : IsLiteral s l) {gap rest : Text} {ts : List Token} {length fuel : Nat}
    (hgap : ∀ c ∈ gap, Text.isSpace c = true) (hrest : tokensFrom length fuel rest = .ok ts) :
    tokensFrom length (fuel + 1) (gap ++ (l ++ rest)) = .ok (.literal l :: ts) := by
  have hread := h.token?_eq rest
  obtain ⟨quote, u, hquote, rfl⟩ := h.exists_cons
  have hsolid : Text.isSpace quote = false := by
    rcases hquote with rfl | rfl <;> decide
  exact tokensFrom_token hgap hsolid hread hrest

/-- A literal on its own. -/
theorem tokens_eq (h : IsLiteral s l) : tokens l = .ok [.literal l] := by
  have hnil : ∀ c ∈ ([] : Text), Text.isSpace c = true := List.forall_mem_nil _
  have hread := h.tokensFrom_eq hnil (tokensFrom_blank hnil l.length (l.length - 1))
  obtain ⟨quote, u, -, rfl⟩ := h.exists_cons
  rw [List.nil_append, List.append_nil] at hread
  exact hread

/-- The sign for sums between two literals, with white space anywhere around them. -/
theorem tokens_sum (hl : IsLiteral s l) (hm : IsLiteral t m) {before behind next after : Text}
    (hbefore : Text.isBlank before = true) (hbehind : Text.isBlank behind = true)
    (hnext : Text.isBlank next = true) (hafter : Text.isBlank after = true) :
    tokens (before ++ l ++ behind ++ '+' :: next ++ m ++ after) =
      .ok [.literal l, .operator .plus, .literal m] := by
  have hassoc : before ++ l ++ behind ++ '+' :: next ++ m ++ after =
      before ++ (l ++ (behind ++ '+' :: (next ++ (m ++ after)))) := by simp
  rw [hassoc]
  generalize hwhole : before ++ (l ++ (behind ++ '+' :: (next ++ (m ++ after)))) = whole
  -- three tokens take at least three characters, so the fuel lasts
  obtain ⟨n, hn⟩ : ∃ n, whole.length = n + 3 := by
    obtain ⟨_, _, -, rfl⟩ := hl.exists_cons
    obtain ⟨_, _, -, rfl⟩ := hm.exists_cons
    refine Nat.exists_eq_add_of_le' ?_
    rw [← hwhole]
    simp only [List.length_append, List.length_cons]
    omega
  have hend := tokensFrom_blank (List.all_eq_true.1 hafter) (n + 3) n
  have hright := hm.tokensFrom_eq (List.all_eq_true.1 hnext) hend
  have hsign : tokensFrom (n + 3) (n + 3) (behind ++ '+' :: (next ++ (m ++ after))) =
      .ok [.operator .plus, .literal m] :=
    tokensFrom_token (List.all_eq_true.1 hbehind) (by decide) rfl hright
  have hleft := hl.tokensFrom_eq (List.all_eq_true.1 hbefore) hsign
  rw [tokens, hn, ← hwhole]
  exact hleft

end IsLiteral

/-! ### Values -/

section

variable {s t : Text}

/-- Texts that are not both numbers are joined. -/
theorem apply_plus (h : ¬((quantity? (.text s)).isSome = true ∧ (quantity? (.text t)).isSome = true)) :
    apply .plus (.text s) (.text t) = .ok (.text (s ++ t)) := by
  unfold apply
  split
  · next a b ha hb =>
    rw [ha, hb] at h
    exact absurd ⟨rfl, rfl⟩ h
  · rfl

variable {env : Environment}

/-- The tokens of a text in which literals stand are evaluated by the tree that the grammar derives from them. -/
theorem evaluate_of_tokens {ts : List Token} {e : Expr} (htokens : tokens t = .ok ts) (h : Derives .sum ts e) :
    evaluate env t = e.evaluate env := by
  rw [evaluate, Expr.ofText, htokens]
  show (Expr.ofTokens ts).evaluate env = _
  rw [(Expr.derives_iff.1 h).1]

end

/-- Every text has literals: its JSON text, be it in ASCII or not, and, unless there is a backslash in it, the text in
    single quotes. A literal has the value of its text. With a sign for sums between two of them and white space
    anywhere around them, their value is the two texts joined, unless both are numbers. -/
theorem evaluate_literals (env : Environment) :
    (∀ s, IsLiteral s (Json.writeText s) ∧ IsLiteral s (Json.ascii (Json.writeText s)) ∧
      ('\\' ∉ s → IsLiteral s (singleQuoted s))) ∧
    (∀ s l, IsLiteral s l → evaluate env l = .ok (.text s)) ∧
    ∀ s t l m, IsLiteral s l → IsLiteral t m →
      ¬((quantity? (.text s)).isSome = true ∧ (quantity? (.text t)).isSome = true) →
      ∀ before behind next after, Text.isBlank before = true → Text.isBlank behind = true →
        Text.isBlank next = true → Text.isBlank after = true →
        evaluate env (before ++ l ++ behind ++ '+' :: next ++ m ++ after) = .ok (.text (s ++ t)) := by
  refine ⟨fun s => ⟨?_, ?_, .single⟩, ?_, ?_⟩
  · exact .double ((Json.recoding_id .line).text s)
  · exact .double (Json.readsAsText_ascii s)
  · intro s l hl
    rw [evaluate_of_tokens hl.tokens_eq (.summand (.factor (.literal l)))]
    exact hl.literalValue_eq
  · intro s t l m hl hm hnumbers before behind next after hbefore hbehind hnext hafter
    have htokens := hl.tokens_sum hm hbefore hbehind hnext hafter
    have hderives : Derives .sum ([.literal l] ++ .operator .plus :: [.literal m])
        (.binary .plus (.literal l) (.literal m)) :=
      .plus (.summand (.factor (.literal l))) rfl (.factor (.literal m))
    rw [evaluate_of_tokens htokens hderives]
    simp only [Expr.evaluate, hl.literalValue_eq, hm.literalValue_eq]
    exact apply_plus hnumbers

/-- A text with a single quote and a line feed is no number, so that digits are joined to it. -/
theorem evaluate_literals_quoted :
    evaluate [] (" ".toList ++ singleQuoted "it's \n".toList ++ [] ++ '+' :: "\t".toList ++
      Json.writeText "42".toList ++ []) = .ok (.text "it's \n42".toList) := by
  obtain ⟨hliterals, -, hsum⟩ := evaluate_literals []
  have hleft : IsLiteral "it's \n".toList (singleQuoted "it's \n".toList) := (hliterals _).2.2 (by decide)
  have hright : IsLiteral "42".toList (Json.writeText "42".toList) := (hliterals _).1
  exact hsum _ _ _ _ hleft hright (by decide) _ _ _ _ (by decide) (by decide) (by decide) (by decide)

end PageQuery.Expression
