import PageQuery.Proofs.Validation.Summary

namespace PageQuery.Validation

/-!
# Valid queries

A query is checked apart from being parsed: schemes, question marks and regular expressions are looked for
in other ways. Of the queries in which nothing is wrong those are parsed in which no word in front of a colon
is written with other characters than lower-case letters, and in which what looks like the body of a regular
expression hides no question mark where parameters are to be separated.

* `exists_parseSegment_eq_ok_iff`: what keeps a segment from being parsed;
* `exists_detectScheme_eq_ok_iff`: how schemes are told where nothing is wrong with them;
* `hidesMark_of_hasStrayMark`: where nothing is wrong with question marks, stray ones are hidden;
* `parse_of_isValid`: which of the valid queries are parsed.
-/

open Query (FormatError Scheme Segment)

/-! ### Reading a segment -/

/-- The parameters that a segment is read with, given what follows its scheme. -/
def parametersOf (body : Text) : List (Text × Text) :=
  Query.splitParams ((Query.cutParams 0 body).2.getD [])

/-- Whether a segment with a scheme has a question mark where parameters are to be separated. -/
def hasStrayMark (t : Text) : Bool :=
  match Query.detectScheme t with
  | .ok (_, body) => (parametersOf body).any fun (key, value) => Query.hasStrayMark key value
  | .error _ => false

/-- Parameters are gathered unless one of them has a stray question mark. -/
theorem exists_gatherParams_eq_ok_iff (source : Text) (params : Ordered (List Text))
    (pairs : List (Text × Text)) :
    (∃ gathered, Query.gatherParams source params pairs = .ok gathered) ↔
      ∀ x ∈ pairs, Query.hasStrayMark x.1 x.2 = false := by
  induction pairs generalizing params with
  | nil => exact iff_of_true ⟨params, rfl⟩ (by simp)
  | cons x pairs ih =>
    obtain ⟨key, value⟩ := x
    rw [Query.gatherParams, List.forall_mem_cons]
    cases h : Query.hasStrayMark key value with
    | true => simp
    | false => simpa using ih _

/-- A segment is parsed if its scheme is told and no question mark is stray. -/
theorem exists_parseSegment_eq_ok_iff {t : Text} (ht : Text.trim t = t) :
    (∃ s, Query.parseSegment t true false = .ok s) ↔
      (∃ x, Query.detectScheme t = .ok x) ∧ hasStrayMark t = false := by
  rw [hasStrayMark, Query.parseSegment, ht]
  cases Query.detectScheme t with
  | error e => simp [bind, Except.bind]
  | ok x =>
    obtain ⟨scheme, body⟩ := x
    have hgather := exists_gatherParams_eq_ok_iff t [] (parametersOf body)
    simp only [bind, Except.bind, pure, Except.pure, parametersOf] at hgather ⊢
    simp only [Except.ok.injEq, exists_eq', true_and, List.any_eq_false, Bool.not_eq_true]
    rw [← hgather]
    cases Query.gatherParams t [] (Query.splitParams ((Query.cutParams 0 body).2.getD [])) <;> simp

/-- A segment among tokens has no white space around it. -/
theorem trim_of_mem_plain_tokens {t u : Text}
    (hu : u ∈ (Query.tokens t).filterMap Query.Lexeme.plain?) : Text.trim u = u := by
  obtain ⟨l, hl, hplain⟩ := List.mem_filterMap.1 hu
  obtain ⟨l', -, hl'⟩ := List.mem_filterMap.1 hl
  cases l' with
  | separator s =>
    obtain rfl : Query.Lexeme.separator s = l := by simpa [Query.Lexeme.trimmed?] using hl'
    cases hplain
  | plain v =>
    simp only [Query.Lexeme.trimmed?] at hl'
    split at hl'
    · cases hl'
    · obtain rfl := Option.some.inj hl'
      obtain rfl := Option.some.inj hplain
      exact Text.trim_trim v

/-! ### Schemes -/

/-- Whether a segment starts with a word and a colon where the word is not written in lower-case letters
    and no pseudo-class follows. -/
def hasStrangeScheme (t : Text) : Bool :=
  match Query.schemeWord? t with
  | some (word, rest) => !word.all isLowerLetter && !Query.startsPseudoClass rest
  | none => false

/-- The names of the schemes are written in lower-case letters. -/
theorem isLowerLetter_of_ofName? {word : Text} {scheme : Scheme} (h : Scheme.ofName? word = some scheme) :
    word.all isLowerLetter = true := by
  obtain rfl : scheme.name = word := by simpa using List.find?_some h
  cases scheme <;> decide

/-- The names of the schemes are listed. -/
theorem contains_schemeNames (word : Text) :
    schemeNames.contains word = (Scheme.ofName? word).isSome := by
  rw [schemeNames, Scheme.ofName?, Bool.eq_iff_iff]
  simp [List.find?_isSome]

/-- A word in front of a colon is not empty, and stands in front of it. -/
theorem eq_of_schemeWord?_eq_some {t word rest : Text} (h : Query.schemeWord? t = some (word, rest)) :
    word ≠ [] ∧ t = word ++ ':' :: rest := by
  cases t with
  | nil => cases h
  | cons c t =>
    simp only [Query.schemeWord?] at h
    split at h
    · split at h
      · next after hafter =>
        obtain ⟨rfl, rfl⟩ : _ = word ∧ _ = rest := by simpa using h
        refine ⟨List.cons_ne_nil _ _, ?_⟩
        rw [List.cons_append, ← hafter, List.takeWhile_append_dropWhile]
      · cases h
    · cases h

/-- Where nothing is wrong with a word of lower-case letters in front of a colon, it is a scheme or a
    pseudo-class follows. -/
theorem scheme_of_checkScheme_eq_nil {p : Placed} (h : checkScheme p = []) {word rest : Text}
    (hp : p.text = word ++ ':' :: rest) (hne : word ≠ []) (hword : word.all isLowerLetter = true) :
    (Scheme.ofName? word).isSome = true ∨ Query.startsPseudoClass rest = true := by
  have htake : p.text.takeWhile isLowerLetter = word := by
    rw [hp, List.takeWhile_append_of_pos (List.all_eq_true.1 hword)]
    simp [show isLowerLetter ':' = false from rfl]
  have hdrop : p.text.drop word.length = ':' :: rest := by rw [hp, List.drop_left]
  have hempty : word.isEmpty = false := by simpa using hne
  simp only [checkScheme, htake, hdrop, hempty] at h
  split at h
  · next hfound => rwa [contains_schemeNames, Bool.or_eq_true] at hfound
  · cases h

/-- Where nothing is wrong with the scheme of a segment it is told, unless it is strange. -/
theorem exists_detectScheme_eq_ok_iff {p : Placed} (h : checkScheme p = []) :
    (∃ x, Query.detectScheme p.text = .ok x) ↔ hasStrangeScheme p.text = false := by
  rw [Query.detectScheme, hasStrangeScheme]
  cases hword : Query.schemeWord? p.text with
  | none => simp
  | some x =>
    obtain ⟨word, rest⟩ := x
    obtain ⟨hne, hp⟩ := eq_of_schemeWord?_eq_some hword
    cases hscheme : Scheme.ofName? word with
    | some scheme => simp [isLowerLetter_of_ofName? hscheme, hscheme]
    | none =>
      cases hpseudo : Query.startsPseudoClass rest with
      | true => simp [hscheme, hpseudo]
      | false =>
        -- such a word would have been found wrong in lower-case letters
        have hupper : word.all isLowerLetter = false := by
          rw [← Bool.not_eq_true]
          intro hlower
          rcases scheme_of_checkScheme_eq_nil h hp hne hlower with hs | hs
          · rw [hscheme] at hs; cases hs
          · rw [hpseudo] at hs; cases hs
        simp [hscheme, hpseudo, hupper]

/-! ### Question marks -/

/-- Whether a question mark behind the first one of a segment stands in what looks like the body of a
    regular expression. -/
def hidesMark (t : Text) : Bool :=
  match (Text.cut '?' t).2 with
  | none => false
  | some body =>
    body.zipIdx.any fun (c, i) => c == '?' && isMasked (regexpBody.all body) i

/-- The parameters are cut out of a text at a question mark. -/
theorem eq_of_cutParams_eq_some {depth : Nat} {t before rest : Text}
    (h : Query.cutParams depth t = (before, some rest)) : t = before ++ '?' :: rest := by
  fun_induction Query.cutParams depth t generalizing before with
  | case1 => simp at h
  | case2 depth t before' found hrec ih =>
    obtain ⟨rfl, rfl⟩ : _ = before ∧ found = some rest := by simpa using h
    simpa using ih hrec
  | case3 depth c t _ hmark =>
    obtain ⟨rfl, rfl⟩ : [] = before ∧ t = rest := by simpa using h
    obtain ⟨rfl, -⟩ : c = '?' ∧ depth = 0 := by simpa using hmark
    rfl
  | case4 depth c t _ _ before' found hrec ih =>
    obtain ⟨rfl, rfl⟩ : c :: before' = before ∧ found = some rest := by simpa using h
    rw [ih hrec, List.cons_append]

/-- The characters of the pieces that parameters are cut into are those of the text. -/
theorem mem_of_mem_paramPieces {current t piece : Text} (h : piece ∈ Query.paramPieces current t)
    {c : Char} (hc : c ∈ piece) : c ∈ current ∨ c ∈ t := by
  fun_induction Query.paramPieces current t with
  | case1 current | case2 current =>
    obtain rfl := List.mem_singleton.1 h
    simpa [or_comm] using hc
  | case3 current d rest ih =>
    have hread := ih h
    grind
  | case4 current rest key value _ _ ih =>
    rcases List.mem_cons.1 h with rfl | h
    · exact .inl (List.mem_reverse.1 hc)
    · exact .inr (List.mem_cons_of_mem _ ((ih h).resolve_left List.not_mem_nil))
  | case5 current rest key value _ _ ih | case6 current d rest _ _ _ ih =>
    have hread := ih h
    grind

/-- The characters of a key and its value are those of the text. -/
theorem mem_of_mem_keyValue {t : Text} {c : Char}
    (h : c ∈ (Query.keyValue t).1 ∨ c ∈ (Query.keyValue t).2) : c ∈ t := by
  simp only [Query.keyValue] at h
  cases hcut : Text.cut '=' t with
  | mk key value =>
    rw [hcut] at h
    cases value with
    | none =>
      rw [← Text.eq_of_cut_eq_none hcut]
      simpa using h
    | some value =>
      rw [Text.eq_of_cut_eq_some hcut]
      simp only [Option.getD_some] at h
      simpa using h.imp_right Or.inr

/-- The characters of the parameters of a text are those of the text. -/
theorem mem_of_mem_splitParams {t key value : Text} (h : (key, value) ∈ Query.splitParams t) {c : Char}
    (hc : c ∈ key ∨ c ∈ value) : c ∈ t := by
  obtain ⟨piece, hpiece, heq⟩ := List.mem_map.1 h
  obtain ⟨rfl, rfl⟩ : Text.trim (Query.keyValue piece).1 = key ∧ (Query.keyValue piece).2 = value := by
    simpa using heq
  have hmem : c ∈ piece :=
    mem_of_mem_keyValue (hc.imp_left fun hkey => (Text.trim_infix _).mem hkey)
  exact (mem_of_mem_paramPieces (List.mem_filter.1 hpiece).1 hmem).resolve_left List.not_mem_nil

/-- What follows the scheme of a segment stands at the end of it. -/
theorem suffix_of_detectScheme {t : Text} {scheme : Scheme} {body : Text}
    (h : Query.detectScheme t = .ok (scheme, body)) : body <:+ t := by
  rw [Query.detectScheme] at h
  split at h
  · cases h; exact List.suffix_rfl
  · next word rest hword =>
    split at h
    · obtain rfl : rest = body := by simpa using (Prod.mk.inj (Except.ok.inj h)).2
      rw [(eq_of_schemeWord?_eq_some hword).2]
      exact (List.suffix_cons ':' rest).trans (List.suffix_append word _)
    · split at h
      · cases h; exact List.suffix_rfl
      · cases h

/-- A stray question mark of a segment stands behind another one. -/
theorem exists_cut_of_hasStrayMark {t : Text} (h : hasStrayMark t = true) :
    ∃ path body, Text.cut '?' t = (path, some body) ∧ '?' ∈ body := by
  rw [hasStrayMark] at h
  split at h
  · next scheme body hbody =>
    obtain ⟨⟨key, value⟩, hparam, hstray⟩ := List.any_eq_true.1 h
    have hmark : '?' ∈ key ∨ '?' ∈ value := by
      simp only [Query.hasStrayMark, Bool.or_eq_true, Bool.and_eq_true, List.contains_iff_mem] at hstray
      exact hstray.imp_right And.right
    have hmem := mem_of_mem_splitParams hparam hmark
    cases hcut : Query.cutParams 0 body with
    | mk before params =>
      rw [hcut] at hmem
      cases params with
      | none => cases hmem
      | some params =>
        -- the mark that opens the parameters is the first one of the text or stands behind it
        obtain ⟨lead, rfl⟩ := suffix_of_detectScheme hbody
        rw [eq_of_cutParams_eq_some hcut, ← List.append_assoc]
        obtain ⟨path, rest, hfirst, hrest⟩ := Text.exists_cut_eq_some '?' (lead ++ before) params
        exact ⟨path, rest, hfirst, hrest.mem hmem⟩
  · cases h

/-- Where nothing is wrong with the question marks of a segment, a stray one is hidden. -/
theorem hidesMark_of_hasStrayMark {p : Placed} (h : checkParameters p = [])
    (hstray : hasStrayMark p.text = true) : hidesMark p.text = true := by
  obtain ⟨path, body, hcut, hmem⟩ := exists_cut_of_hasStrayMark hstray
  obtain ⟨i, hi, hmark⟩ := List.mem_iff_getElem.1 hmem
  have hplace : ('?', i) ∈ body.zipIdx := by
    rw [List.mem_zipIdx_iff_getElem?, List.getElem?_eq_getElem hi, hmark]
  simp only [checkParameters, hcut, List.map_eq_nil_iff, List.filter_eq_nil_iff] at h
  have hmasked : isMasked (regexpBody.all body) i = true := by simpa using h _ hplace
  rw [hidesMark, hcut]
  exact List.any_eq_true.2 ⟨_, hplace, by simpa using hmasked⟩

/-! ### Whole queries -/

/-- Where nothing is wrong with a query, nothing is wrong with the scheme and the parameters of any
    segment. -/
theorem checks_of_isValid {t : Text} (h : (validate t).isValid = true) {p : Placed}
    (hp : p ∈ segmentsOf t) : checkScheme p = [] ∧ checkParameters p = [] := by
  have herrors : (validate t).errors = [] := List.isEmpty_iff.1 h
  have hsegment := List.flatMap_eq_nil_iff.1 (List.append_eq_nil_iff.1 herrors).1 p hp
  exact List.append_eq_nil_iff.1 (List.append_eq_nil_iff.1 hsegment).1

/-- A valid query is parsed if none of its segments has a strange scheme or a stray question mark, and a
    question mark is stray only where it is hidden. -/
theorem parse_of_isValid {t : Text} (h : (validate t).isValid = true) :
    ((∃ q, Query.parse t = .ok q) ↔
      ∀ p ∈ segmentsOf t, hasStrangeScheme p.text = false ∧ hasStrayMark p.text = false) ∧
      ∀ p ∈ segmentsOf t, hasStrayMark p.text = true → hidesMark p.text = true := by
  constructor
  · rw [Query.exists_parse_eq_ok_iff, ← map_text_segmentsOf, List.forall_mem_map]
    refine forall₂_congr fun p hp => ?_
    have htrim : Text.trim p.text = p.text :=
      trim_of_mem_plain_tokens (map_text_segmentsOf t ▸ List.mem_map_of_mem hp)
    rw [exists_parseSegment_eq_ok_iff htrim, exists_detectScheme_eq_ok_iff (checks_of_isValid h hp).1]
  · exact fun p hp hstray => hidesMark_of_hasStrayMark (checks_of_isValid h hp).2 hstray

/-- A valid query of two segments: a regular expression with a question mark in it, and a pseudo-class. -/
theorem parse_of_isValid_regexp :
    ∃ t : Text, t = "html:p?regexp=/a?b/x/ ++ li:first-child@text".toList ∧
      (validate t).isValid = true ∧
      (∀ p ∈ segmentsOf t, hasStrangeScheme p.text = false ∧ hasStrayMark p.text = false) ∧
      ∃ q, Query.parse t = .ok q := by
  have hvalid : (validate "html:p?regexp=/a?b/x/ ++ li:first-child@text".toList).isValid = true := rfl
  have hplain : ∀ p ∈ segmentsOf "html:p?regexp=/a?b/x/ ++ li:first-child@text".toList,
      hasStrangeScheme p.text = false ∧ hasStrayMark p.text = false := by decide +kernel
  exact ⟨_, rfl, hvalid, hplain, (parse_of_isValid hvalid).1.2 hplain⟩

/-- There are valid queries that are not parsed: a word in capitals in front of a colon is not checked, and
    in what looks like the body of a regular expression a question mark is hidden in the name that a value
    is saved under. -/
theorem isValid_and_parse_eq_error :
    ((validate "JSON:items".toList).isValid = true ∧
      Query.parse "JSON:items".toList = .error (.unsupportedScheme "JSON" "JSON:items")) ∧
    (validate "json:a?save=regexp:/x?/".toList).isValid = true ∧
      Query.parse "json:a?save=regexp:/x?/".toList = .error (.repeatedMark "json:a?save=regexp:/x?/") :=
  ⟨⟨rfl, rfl⟩, rfl, rfl⟩

end PageQuery.Validation
