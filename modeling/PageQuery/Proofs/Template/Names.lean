import PageQuery.Proofs.Environment
import PageQuery.Proofs.Expression.Grammar
import PageQuery.Proofs.Number.Digits
import PageQuery.Proofs.Template
import PageQuery.Proofs.Text.Order

namespace PageQuery

/-!
# The names that a template depends on

What a template stands for depends on the variables that its names are listed for, and on three kinds of names that are
not listed: what stands in a placeholder as a whole, words that are no names, and names with a dot in them.

* `Expression.evaluate_congr`: an expression depends on the names among its tokens;
* `Template.namesIn_append`, `Template.namesIn_trim`: the names in a text, part by part;
* `Expression.namesIn_of_token?`: the names behind a token;
* `Expression.mem_namesIn_of_tokens`: the names among tokens are names in the text, unless there is a dot in them;
* `Template.Matters`, `Template.resolve_of_matters`: the names that a template depends on.
-/

variable {env env' : Environment}

/-! ### Expressions -/

namespace Expression

/-- A token is no name, or one that means the same in two environments. -/
def Token.Agrees (env env' : Environment) : Token → Prop
  | .name t => Ordered.get? env t = Ordered.get? env' t
  | _ => True

theorem Expr.evaluate_congr {e : Expr} (h : e.Over (Token.Agrees env env')) : e.evaluate env = e.evaluate env' := by
  induction e with
  | numeral t => rfl
  | literal t => rfl
  | «variable» name =>
    have hname : Ordered.get? env name = Ordered.get? env' name := h
    rw [Expr.evaluate, Expr.evaluate, hname]
  | negated e ih => rw [Expr.evaluate, Expr.evaluate, ih h]
  | binary o left right hleft hright => rw [Expr.evaluate, Expr.evaluate, hleft h.2.1, hright h.2.2]
  | broken e => rfl
  | stopped e fault ih => rw [Expr.evaluate, Expr.evaluate, ih h]

/-- An expression has the same value in environments that agree on the names among its tokens. -/
theorem evaluate_congr {t : Text}
    (h : ∀ ts name, tokens t = .ok ts → Token.name name ∈ ts → Ordered.get? env name = Ordered.get? env' name) :
    evaluate env t = evaluate env' t := by
  refine Expr.evaluate_congr ?_
  rw [Expr.ofText]
  cases htokens : tokens t with
  | error e => trivial
  | ok ts =>
    refine Expr.over_ofTokens fun token htoken => ?_
    cases token with
    | name name => exact h ts name htokens htoken
    | _ => trivial

end Expression

/-! ### The names in a text -/

namespace Template

variable {c : Char} {t u : Text}

theorem toNat_of_isNamePart (h : isNamePart c = true) : 48 ≤ c.toNat ∧ c.toNat ≤ 122 := by
  rw [isNamePart, Bool.or_eq_true, beq_iff_eq] at h
  rcases h with halphanum | rfl
  · exact Text.toNat_of_isAlphanum halphanum
  · decide

theorem isNamePart_eq_false_of_isSpace (h : Text.isSpace c = true) : isNamePart c = false := by
  rw [← Bool.not_eq_true]
  intro hpart
  have hrange := toNat_of_isNamePart hpart
  simp only [Text.isSpace, Text.inRanges, List.any_cons, List.any_nil, Bool.or_false, Bool.or_eq_true, Bool.and_eq_true,
    decide_eq_true_eq] at h
  omega

/-- The digits among the characters that names go on with are those of ASCII. -/
theorem isDigit_of_isNamePart (hpart : isNamePart c = true) (h : Text.isDigit c = true) : c.isDigit = true := by
  have hascii : c.toNat < 128 := by
    have hrange := toNat_of_isNamePart hpart
    omega
  rw [Text.isDigit, Text.digit?, if_pos hascii] at h
  split at h
  · assumption
  · cases h

/-- The names on both sides of a character that belongs to none. -/
theorem namesIn_append_cons (hc : isNamePart c = false) (t u : Text) :
    namesIn (t ++ c :: u) = namesIn t ++ namesIn u := by
  have hpieces := Text.pieces_append_cons (p := fun c => !isNamePart c) (c := c) (by simp [hc]) t u
  rw [namesIn, hpieces, List.map_append, List.filter_append]
  rfl

theorem namesIn_cons (hc : isNamePart c = false) (u : Text) : namesIn (c :: u) = namesIn u :=
  namesIn_append_cons hc [] u

/-- A digit in front of a text is no part of a name. -/
theorem namesIn_digit (hc : c.isDigit = true) (u : Text) : namesIn (c :: u) = namesIn u := by
  have hpart : ¬(!isNamePart c) = true := by simp [isNamePart, Char.isAlphanum, hc]
  obtain ⟨first, others, hpieces⟩ := List.exists_cons_of_ne_nil (Text.pieces_ne_nil (fun c => !isNamePart c) u)
  rw [namesIn, namesIn, Text.pieces, if_neg hpart, hpieces, List.map_cons, List.map_cons,
    List.dropWhile_cons_of_pos hc]

/-- Nor is a text of which all characters are digits or belong to no name. -/
theorem namesIn_append_of_forall (h : ∀ c ∈ t, isNamePart c = false ∨ c.isDigit = true) (u : Text) :
    namesIn (t ++ u) = namesIn u := by
  induction t with
  | nil => rfl
  | cons c t ih =>
    obtain ⟨hc, ht⟩ := List.forall_mem_cons.1 h
    rw [List.cons_append]
    rcases hc with hc | hc
    · rw [namesIn_cons hc, ih ht]
    · rw [namesIn_digit hc, ih ht]

/-- The names of two texts, of which the second does not go on with a name of the first. -/
theorem namesIn_append (h : ∀ c ∈ u.head?, isNamePart c = false) : namesIn (t ++ u) = namesIn t ++ namesIn u := by
  cases u with
  | nil => rw [List.append_nil, show namesIn [] = [] from rfl, List.append_nil]
  | cons c u => rw [namesIn_append_cons (h c rfl), namesIn_cons (h c rfl)]

theorem namesIn_of_isBlank_append (h : Text.isBlank t = true) (u : Text) : namesIn (t ++ u) = namesIn u :=
  namesIn_append_of_forall (fun c hc => .inl (isNamePart_eq_false_of_isSpace (List.all_eq_true.1 h c hc))) u

/-- White space around a text holds no names. -/
theorem namesIn_trim (t : Text) : namesIn (Text.trim t) = namesIn t := by
  obtain ⟨lead, tail, hlead, htail, ht, -⟩ := Text.exists_eq_append_trim t
  have hnone : namesIn tail = [] := by
    have hblank := namesIn_of_isBlank_append htail []
    rwa [List.append_nil] at hblank
  have hapart : ∀ c ∈ tail.head?, isNamePart c = false := fun c hc =>
    isNamePart_eq_false_of_isSpace (List.all_eq_true.1 htail c (List.mem_of_mem_head? hc))
  have hnames : namesIn t = namesIn (lead ++ (Text.trim t ++ tail)) := by rw [← List.append_assoc, ← ht]
  rw [hnames, namesIn_of_isBlank_append hlead, namesIn_append hapart, hnone, List.append_nil]

theorem namesIn_trimLeft (t : Text) : namesIn (Text.trimLeft t) = namesIn t := by
  have hnames : namesIn t = namesIn (t.takeWhile Text.isSpace ++ Text.trimLeft t) := by
    rw [Text.trimLeft, List.takeWhile_append_dropWhile]
  rw [hnames, namesIn_of_isBlank_append List.all_takeWhile]

/-- A text that is a name. -/
theorem namesIn_of_forall (hc : Expression.isNameStart c = true) (ht : ∀ d ∈ c :: t, isNamePart d = true) :
    namesIn (c :: t) = [c :: t] := by
  have hpieces := Text.pieces_of_forall (p := fun c => !isNamePart c) (t := c :: t) (by simpa using ht)
  have hdigit : ¬c.isDigit = true := by
    intro hdigit
    have hrange := toNat_of_isDigit hdigit
    replace hc : (c.isUpper || c.isLower || c == '_') = true := hc
    rw [Bool.or_eq_true, Bool.or_eq_true, beq_iff_eq] at hc
    rcases hc with (hupper | hlower) | rfl
    · have hletter := Text.toNat_of_isUpper hupper
      omega
    · have hletter := Text.toNat_of_isLower hlower
      omega
    · exact absurd hdigit (by decide)
  rw [namesIn, hpieces, List.map_singleton, List.dropWhile_cons_of_neg hdigit]
  rfl

end Template

/-! ### The names among tokens -/

namespace Expression

variable {t rest : Text} {token : Token}

open Template (namesIn namesIn_append namesIn_append_cons namesIn_append_of_forall namesIn_cons namesIn_of_forall
  namesIn_trimLeft)

theorem isNamePart_of_isNameStart {c : Char} (h : isNameStart c = true) : Template.isNamePart c = true := by
  rw [isNameStart, Bool.or_eq_true] at h
  rw [Template.isNamePart, Char.isAlphanum, Bool.or_eq_true, Bool.or_eq_true]
  exact h.imp_left .inl

/-- A numeral is made of digits and points. -/
theorem of_numeral? {n : Text} (h : numeral? t = some (n, rest)) :
    t = n ++ rest ∧ ∀ c ∈ n, Text.isDigit c = true ∨ c = '.' := by
  have hwhole : t = t.takeWhile Text.isDigit ++ t.dropWhile Text.isDigit := List.takeWhile_append_dropWhile.symm
  have hdigits : ∀ u : Text, ∀ c ∈ u.takeWhile Text.isDigit, Text.isDigit c = true ∨ c = '.' := fun u c hc =>
    .inl (List.all_eq_true.1 List.all_takeWhile c hc)
  rw [numeral?] at h
  split at h
  · next after hbefore hafter =>
    dsimp only at h
    split at h
    · cases h
    · obtain ⟨rfl, rfl⟩ := Prod.mk.inj (Option.some.inj h)
      refine ⟨?_, List.forall_mem_cons.2 ⟨.inr rfl, hdigits after⟩⟩
      rw [hwhole, hbefore, hafter, List.cons_append, List.takeWhile_append_dropWhile]
      rfl
  · cases h
  · next after hafter _ =>
    obtain ⟨rfl, rfl⟩ := Prod.mk.inj (Option.some.inj h)
    refine ⟨?_, List.forall_mem_append.2 ⟨hdigits t, List.forall_mem_cons.2 ⟨.inr rfl, hdigits after⟩⟩⟩
    rw [List.append_assoc, List.cons_append, List.takeWhile_append_dropWhile, ← hafter]
    exact hwhole
  · obtain ⟨rfl, rfl⟩ := Prod.mk.inj (Option.some.inj h)
    exact ⟨hwhole, hdigits t⟩

/-- What is left of a quoted text ends with its quote. -/
theorem of_closing? {quote : Char} {body : Text} (h : closing? quote t = some (body, rest)) :
    ∃ inside, t = inside ++ quote :: rest := by
  fun_induction closing? quote t generalizing body with
  | case1 => cases h
  | case2 => cases h
  | case3 c after _ ih =>
    obtain ⟨⟨body', rest'⟩, hbody', heq⟩ := Option.map_eq_some_iff.1 h
    obtain ⟨-, rfl⟩ := Prod.mk.inj heq
    obtain ⟨inside, rfl⟩ := ih hbody'
    exact ⟨'\\' :: c :: inside, rfl⟩
  | case4 c after _ hquote =>
    obtain ⟨-, rfl⟩ := Prod.mk.inj (Option.some.inj h)
    exact ⟨[], by rw [beq_iff_eq.1 hquote]; rfl⟩
  | case5 => cases h
  | case6 c after _ _ _ ih =>
    obtain ⟨⟨body', rest'⟩, hbody', heq⟩ := Option.map_eq_some_iff.1 h
    obtain ⟨-, rfl⟩ := Prod.mk.inj heq
    obtain ⟨inside, rfl⟩ := ih hbody'
    exact ⟨c :: inside, rfl⟩

/-- Signs belong to no name. -/
theorem of_sign? {c : Char} (h : sign? c = some token) : Template.isNamePart c = false ∧ ∀ name, token ≠ .name name := by
  unfold sign? at h
  split at h <;> cases h <;> exact ⟨by decide, nofun⟩

/-- There are no names in a numeral. -/
theorem namesIn_of_numeral? {n : Text} (h : numeral? t = some (n, rest)) : namesIn t = namesIn rest := by
  obtain ⟨rfl, hnumeral⟩ := of_numeral? h
  refine namesIn_append_of_forall (fun c hc => ?_) rest
  cases hpart : Template.isNamePart c with
  | false => exact .inl rfl
  | true =>
    rcases hnumeral c hc with hdigit | rfl
    · exact .inr (Template.isDigit_of_isNamePart hpart hdigit)
    · exact absurd hpart (by decide)

/-- The names behind a quoted text are names in the text as a whole. -/
theorem namesIn_of_closing? {quote : Char} {body : Text} (hquote : Template.isNamePart quote = false)
    (h : closing? quote t = some (body, rest)) : namesIn rest ⊆ namesIn (quote :: t) := by
  obtain ⟨inside, rfl⟩ := of_closing? h
  rw [← List.cons_append, namesIn_append_cons hquote]
  exact List.subset_append_right _ _

/-- A name and the names behind it are names in the text, the name itself if there is no dot in it. -/
theorem namesIn_of_isNameStart {c : Char} (hstart : isNameStart c = true) (t : Text) :
    namesIn (t.dropWhile isNamePart) ⊆ namesIn (c :: t) ∧
      ('.' ∉ c :: t.takeWhile isNamePart → c :: t.takeWhile isNamePart ∈ namesIn (c :: t)) := by
  have hwhole : c :: t = (c :: t.takeWhile isNamePart) ++ t.dropWhile isNamePart := by
    rw [List.cons_append, List.takeWhile_append_dropWhile]
  -- what follows is neither a character of the name nor a dot
  have hapart : ∀ d ∈ (t.dropWhile isNamePart).head?, Template.isNamePart d = false := by
    intro d hd
    have hhead := List.head?_dropWhile_not isNamePart t
    rw [Option.mem_def.1 hd] at hhead
    have hpart : (Template.isNamePart d || d == '.') = false := hhead
    exact (Bool.or_eq_false_iff.1 hpart).1
  have hnames : namesIn (c :: t) = namesIn (c :: t.takeWhile isNamePart) ++ namesIn (t.dropWhile isNamePart) := by
    rw [← namesIn_append hapart, ← hwhole]
  rw [hnames]
  refine ⟨List.subset_append_right _ _, fun hdot => List.mem_append_left _ ?_⟩
  have hparts : ∀ d ∈ c :: t.takeWhile isNamePart, Template.isNamePart d = true := by
    refine List.forall_mem_cons.2 ⟨isNamePart_of_isNameStart hstart, fun d hd => ?_⟩
    have hpart : isNamePart d = true := List.all_eq_true.1 List.all_takeWhile d hd
    rw [isNamePart, Bool.or_eq_true, beq_iff_eq] at hpart
    exact hpart.resolve_right fun heq => hdot (List.mem_cons_of_mem c (heq ▸ hd))
  rw [namesIn_of_forall hstart hparts]
  exact List.mem_singleton_self _

/-- The names behind a token are names in the text, and so is the token if it is a name without a dot. -/
theorem namesIn_of_token? (h : token? t = some (token, rest)) :
    namesIn rest ⊆ namesIn t ∧ ∀ name, token = .name name → '.' ∉ name → name ∈ namesIn t := by
  unfold token? at h
  split at h
  · next n after hn =>
    obtain ⟨rfl, rfl⟩ := Prod.mk.inj (Option.some.inj h)
    rw [namesIn_of_numeral? hn]
    exact ⟨List.Subset.refl _, fun _ heq => nomatch heq⟩
  · split at h
    · cases h
    · next c after _ =>
      split at h
      · next hquote =>
        obtain ⟨⟨body, after'⟩, hbody, heq⟩ := Option.map_eq_some_iff.1 h
        obtain ⟨rfl, rfl⟩ := Prod.mk.inj heq
        have hc : Template.isNamePart c = false := by
          rw [Bool.or_eq_true, beq_iff_eq, beq_iff_eq] at hquote
          rcases hquote with rfl | rfl <;> decide
        exact ⟨namesIn_of_closing? hc hbody, fun _ heq => nomatch heq⟩
      · split at h
        · next hstart =>
          obtain ⟨rfl, rfl⟩ := Prod.mk.inj (Option.some.inj h)
          obtain ⟨hrest, hfirst⟩ := namesIn_of_isNameStart hstart after
          exact ⟨hrest, fun name heq hdot => Token.name.inj heq ▸ hfirst (Token.name.inj heq ▸ hdot)⟩
        · obtain ⟨token', htoken', heq⟩ := Option.map_eq_some_iff.1 h
          obtain ⟨rfl, rfl⟩ := Prod.mk.inj heq
          obtain ⟨hc, hname⟩ := of_sign? htoken'
          rw [namesIn_cons hc]
          exact ⟨List.Subset.refl _, fun name heq => absurd heq (hname name)⟩

theorem mem_namesIn_of_tokensFrom {length fuel : Nat} {ts : List Token} (h : tokensFrom length fuel t = .ok ts)
    {name : Text} (hname : Token.name name ∈ ts) (hdot : '.' ∉ name) : name ∈ namesIn t := by
  induction fuel generalizing t ts with
  | zero =>
    obtain rfl : [] = ts := Except.ok.inj h
    cases hname
  | succ fuel ih =>
    rw [tokensFrom] at h
    rw [← namesIn_trimLeft]
    split at h
    · obtain rfl : [] = ts := Except.ok.inj h
      cases hname
    · split at h
      · cases h
      · next token rest htoken =>
        obtain ⟨us, hus, h⟩ := bind_eq_ok_iff.1 h
        obtain rfl : token :: us = ts := Except.ok.inj h
        obtain ⟨hrest, hfirst⟩ := namesIn_of_token? htoken
        rcases List.mem_cons.1 hname with heq | hname
        · exact hfirst name heq.symm hdot
        · exact hrest (ih hus hname)

/-- The names among the tokens of a text are names in the text, unless there is a dot in them. -/
theorem mem_namesIn_of_tokens {ts : List Token} (h : tokens t = .ok ts) {name : Text} (hname : Token.name name ∈ ts)
    (hdot : '.' ∉ name) : name ∈ namesIn t := mem_namesIn_of_tokensFrom h hname hdot

end Expression

/-! ### Templates -/

namespace Template

variable {t name : Text}

/-- The names of a template are those in its placeholders, but for the words that are no names. -/
theorem mem_names : name ∈ names t ↔ name ∉ reserved ∧ ∃ body, .hole body ∈ pieces t ∧ name ∈ namesIn body := by
  rw [names, Text.mem_sort, List.mem_eraseDups, List.mem_filter, List.mem_flatMap, and_comm]
  refine and_congr (by simp) ?_
  constructor
  · rintro ⟨p, hp, hname⟩
    cases p with
    | plain c => cases hname
    | hole body => exact ⟨body, hp, hname⟩
  · rintro ⟨body, hbody, hname⟩
    exact ⟨_, hbody, hname⟩

/-- A name on which a template depends. -/
inductive Matters (t name : Text) : Prop
  /-- One that is listed. -/
  | listed (h : name ∈ names t)
  /-- What stands in a placeholder as a whole. -/
  | whole {body : Text} (hbody : .hole body ∈ pieces t) (h : name = Text.trim body)
  /-- A word in a placeholder that is no name. -/
  | word {body : Text} (hbody : .hole body ∈ pieces t) (h : name ∈ namesIn body) (hreserved : name ∈ reserved)
  /-- A name with a dot in the expression of a placeholder. -/
  | dotted {body : Text} {ts : List Expression.Token} (hbody : .hole body ∈ pieces t)
    (hts : Expression.tokens (Text.trim body) = .ok ts) (h : .name name ∈ ts) (hdot : '.' ∈ name)

/-- The names in the expressions of placeholders are among those on which the template depends. -/
theorem matters_of_tokens {body : Text} {ts : List Expression.Token} (hbody : .hole body ∈ pieces t)
    (hts : Expression.tokens (Text.trim body) = .ok ts) (h : .name name ∈ ts) : Matters t name := by
  by_cases hdot : '.' ∈ name
  · exact .dotted hbody hts h hdot
  · have hname : name ∈ namesIn body := namesIn_trim body ▸ Expression.mem_namesIn_of_tokens hts h hdot
    by_cases hreserved : name ∈ reserved
    · exact .word hbody hname hreserved
    · exact .listed (mem_names.2 ⟨hreserved, body, hbody, hname⟩)

/-- Environments that agree on the names that matter make the same of a placeholder. -/
theorem fill_of_matters (h : ∀ name, Matters t name → Ordered.get? env name = Ordered.get? env' name) {body : Text}
    (hbody : .hole body ∈ pieces t) : fill env body = fill env' body := by
  have hwhole : Ordered.get? env (Text.trim body) = Ordered.get? env' (Text.trim body) := h _ (.whole hbody rfl)
  have hvalue : Expression.evaluate env (Text.trim body) = Expression.evaluate env' (Text.trim body) :=
    Expression.evaluate_congr fun ts name hts hname => h name (matters_of_tokens hbody hts hname)
  rw [fill, fill, hwhole, fillExpression, fillExpression, hvalue]

/-- A template stands for the same in environments that agree on the names that matter. -/
theorem resolve_of_matters (h : ∀ name, Matters t name → Ordered.get? env name = Ordered.get? env' name) :
    resolve env t = resolve env' t := by
  have hpieces : (pieces t).mapM (fillPiece env) = (pieces t).mapM (fillPiece env') := by
    refine mapM_congr fun p hp => ?_
    cases p with
    | plain c => rfl
    | hole body => exact fill_of_matters h hp
  rw [resolve, resolve, hpieces]

/-- A variable that does not stand in a template. -/
theorem resolve_of_matters_sum :
    let env : Environment := [("a", .int 2)]
    (∀ name, Matters "${a+1}" name → Ordered.get? env name = Ordered.get? (("b", .int 5) :: env) name) ∧
      resolve env "${a+1}" = resolve (("b", .int 5) :: env) "${a+1}" := by
  intro env
  have hbody : ∀ {body : Text}, .hole body ∈ pieces "${a+1}" → body = "a+1" := fun h =>
    Piece.hole.inj (List.mem_singleton.1 h)
  have hnames : ∀ {body : Text}, .hole body ∈ pieces "${a+1}" → "b".toList ∉ namesIn body := by
    intro body h
    rw [hbody h]
    decide
  have hother : ¬Matters "${a+1}" "b" := by
    rintro (h | ⟨hpiece, h⟩ | ⟨hpiece, h, -⟩ | ⟨-, -, -, hdot⟩)
    · obtain ⟨-, body, hpiece, h⟩ := mem_names.1 h
      exact hnames hpiece h
    · rw [hbody hpiece] at h
      exact absurd h (by decide)
    · exact hnames hpiece h
    · exact absurd hdot (by decide)
  have hagree : ∀ name, Matters "${a+1}" name → Ordered.get? env name = Ordered.get? (("b", .int 5) :: env) name := by
    intro name hname
    have hne : name ≠ "b" := fun heq => hother (heq ▸ hname)
    exact ((Ordered.get?_cons "b" (.int 5) env name).trans (if_neg hne)).symm
  exact ⟨hagree, resolve_of_matters hagree⟩

/-- A word that is no name, and a name that is none of an expression: both are variables all the same. -/
theorem resolve_unlisted :
    (∀ name ∈ names "${true}", Ordered.get? ([] : Environment) name = Ordered.get? [("true", .text "x")] name) ∧
      resolve [] "${true}" = .ok "${true}" ∧ resolve [("true", .text "x")] "${true}" = .ok "x" ∧
    (∀ name ∈ names "${my-var}", Ordered.get? ([] : Environment) name = Ordered.get? [("my-var", .text "x")] name) ∧
      resolve [] "${my-var}" = .ok "${my-var}" ∧ resolve [("my-var", .text "x")] "${my-var}" = .ok "x" := by
  refine ⟨fun name h => ?_, rfl, rfl, fun name h => ?_, rfl, rfl⟩
  · obtain ⟨hreserved, body, hbody, hname⟩ := mem_names.1 h
    obtain rfl : body = "true" := Piece.hole.inj (List.mem_singleton.1 hbody)
    obtain rfl : name = "true" := List.mem_singleton.1 hname
    exact absurd hreserved (by decide)
  · obtain ⟨-, body, hbody, hname⟩ := mem_names.1 h
    obtain rfl : body = "my-var" := Piece.hole.inj (List.mem_singleton.1 hbody)
    have hnames : namesIn "my-var" = ["my".toList, "var".toList] := rfl
    rw [hnames, List.mem_cons, List.mem_singleton] at hname
    rcases hname with rfl | rfl <;> rfl

end Template

end PageQuery
