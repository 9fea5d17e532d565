import PageQuery.Proofs.Except
import PageQuery.Proofs.Query.Stages

namespace PageQuery.Query

/-!
# Parsing the stages of a query

* `stages_faithful`: the stages of a text make it up, hold no array pipe, have its tokens, and are never
  refused for an array pipe;
* `parse_join`: two queries with an array pipe between them are parsed to the stages of both.
-/

/-! ### No array pipe inside a chain -/

/-- A separator among the pieces of a text is listed. -/
theorem mem_of_separator_mem {seps : List Text} (hseps : [] ∉ seps) {t s : Text}
    (h : .separator s ∈ split seps t) : s ∈ seps := by
  induction t using lexing hseps with
  | nil => simp at h
  | character c t hc ih =>
    refine ih ?_
    rw [split_cons hc] at h
    revert h
    cases split seps t with
    | nil => simp [attach]
    | cons l ls => cases l <;> simp [attach]
  | separator r t hr hl ih =>
    rw [split_append (fun e => hseps (e ▸ hr)) hl] at h
    rcases List.mem_cons.1 h with h | h
    · exact Lexeme.separator.inj h ▸ hr
    · exact ih h

/-- The separators among the tokens of a text are those among its pieces. -/
theorem separator_mem_tokens_iff {t s : Text} : .separator s ∈ tokens t ↔ .separator s ∈ split operators t := by
  rw [tokens, List.mem_filterMap]
  constructor
  · rintro ⟨l, hl, hs⟩
    cases l with
    | separator r => exact Option.some.inj hs ▸ hl
    | plain p =>
      simp only [Lexeme.trimmed?] at hs
      split at hs <;> simp at hs
  · exact fun h => ⟨_, h, rfl⟩

/-- A separator among the tokens of a text is an operator. -/
theorem operator_of_mem_tokens {t op : Text} (h : .separator op ∈ tokens t) : op ∈ operators :=
  mem_of_separator_mem nil_notMem_operators (separator_mem_tokens_iff.1 h)

/-- Without an array pipe among them, the operators among tokens are the three of chains. -/
theorem operator_of_chain {t op : Text} (ht : .separator arrayPipeMark ∉ tokens t) (h : .separator op ∈ tokens t) :
    op = fallbackMark ∨ op = joinMark ∨ op = pipeMark := by
  have hne : op ≠ arrayPipeMark := fun e => ht (e ▸ h)
  have hop := operator_of_mem_tokens h
  simp only [operators, List.mem_cons, List.not_mem_nil, or_false] at hop
  rcases hop with h | h | h | h
  · exact .inl h
  · exact .inr (.inl h)
  · exact absurd h hne
  · exact .inr (.inr h)

/-- The operators among the tokens of a stage are none but the three of chains. -/
theorem operator_of_token {t u op : Text} (hu : u ∈ stageTexts t) (h : .separator op ∈ tokens u) :
    op = fallbackMark ∨ op = joinMark ∨ op = pipeMark :=
  operator_of_chain (mt separator_mem_tokens_iff.1 (arrayPipe_notMem_split hu)) h

/-- A segment is never refused for an array pipe. -/
theorem parseSegment_ne_nested (t : Text) (required piped : Bool) (source : Text) :
    parseSegment t required piped ≠ .error (.nestedArrayPipe source) := by
  have hscheme : ∀ t, detectScheme t ≠ .error (.nestedArrayPipe source) := by
    intro t h
    unfold detectScheme at h
    split at h
    · cases h
    · split at h
      · cases h
      · split at h <;> cases h
  have hparams : ∀ params pairs, gatherParams t params pairs ≠ .error (.nestedArrayPipe source) := by
    intro params pairs
    induction pairs generalizing params with
    | nil => simp [gatherParams]
    | cons p pairs ih =>
      rw [gatherParams]
      split
      · simp
      · exact ih _
  -- the steps of a segment fail for its scheme or for its parameters only
  intro h
  rw [parseSegment] at h
  rcases bind_eq_error_iff.1 h with h | ⟨_, -, h⟩
  · exact hscheme _ h
  · rcases bind_eq_error_iff.1 h with h | ⟨_, -, h⟩
    · exact hparams _ _ h
    · cases h

/-- Tokens are refused for an array pipe only if an operator is none of the three of chains. -/
theorem parseTokens_ne_nested {ls : List Lexeme}
    (hls : ∀ op, .separator op ∈ ls → op = fallbackMark ∨ op = joinMark ∨ op = pipeMark)
    (t source : Text) (required piped : Bool) :
    parseTokens t required piped ls ≠ .error (.nestedArrayPipe source) := by
  induction ls generalizing required piped with
  | nil => simp [parseTokens]
  | cons l ls ih =>
    have ih := ih fun op h => hls op (List.mem_cons_of_mem _ h)
    cases l with
    | separator op =>
      rw [parseTokens]
      rcases hls op List.mem_cons_self with rfl | rfl | rfl
      · exact ih _ _
      · exact ih _ _
      · exact ih _ _
    | plain p =>
      intro h
      rw [parseTokens] at h
      rcases bind_eq_error_iff.1 h with h | ⟨_, -, h⟩
      · exact parseSegment_ne_nested _ _ _ _ h
      · rcases bind_eq_error_iff.1 h with h | ⟨_, -, h⟩
        · exact ih _ _ h
        · cases h

/-- A query is never refused for an array pipe inside a chain. -/
theorem parse_ne_nested (t source : Text) : parse t ≠ .error (.nestedArrayPipe source) := by
  intro h
  rcases bind_eq_error_iff.1 h with h | ⟨_, -, h⟩
  · obtain ⟨u, hu, h⟩ := exists_of_mapM_eq_error h
    exact parseTokens_ne_nested (fun op hop => operator_of_token hu hop) u source true false h
  · cases h

/-- The stages of a text joined by array pipes give the text back. None of them holds an array pipe, and
    their tokens with array pipes between are the tokens of the text, so that there is one stage more than
    there are tokens that are array pipes, and no chain is ever refused for one. -/
theorem stages_faithful (t : Text) :
    Text.join arrayPipeMark (stageTexts t) = t ∧
      (∀ u ∈ stageTexts t, ¬ arrayPipeMark <:+: u) ∧
      tokens t = [.separator arrayPipeMark].intercalate ((stageTexts t).map tokens) ∧
      (∀ source, parse t ≠ .error (.nestedArrayPipe source)) ∧
      (stageTexts t).length = ((tokens t).map Lexeme.text).count arrayPipeMark + 1 := by
  refine ⟨?_, fun u hu => arrayPipe_not_infix hu, tokens_eq_intercalate t, parse_ne_nested t,
    length_stageTexts t⟩
  rw [stageTexts, join_gatherStages, split_text nil_notMem_operators]

/-! ### Blanks around a stage -/

/-- No operator holds a blank. -/
theorem blank_notMem_operator : ∀ s ∈ operators, ' ' ∉ s := by decide

/-- No operator reaches over a blank. -/
theorem leading?_append_blank (t w : Text) :
    leading? operators (t ++ ' ' :: w) = leading? operators t := by
  have hstart : ∀ s ∈ operators, (s <+: t ++ ' ' :: w ↔ s <+: t) := by
    intro s hs
    constructor
    · intro h
      -- a prefix that is longer than `t` would hold the blank
      rcases List.prefix_or_prefix_of_prefix h (List.prefix_append t (' ' :: w)) with hst | ⟨r, rfl⟩
      · exact hst
      · cases r with
        | nil => simp
        | cons c r =>
          obtain ⟨rfl, -⟩ : c = ' ' ∧ _ := by
            simpa [List.prefix_append_right_inj, List.cons_prefix_cons] using h
          exact absurd (by simp) (blank_notMem_operator _ hs)
    · exact fun h => h.trans (List.prefix_append _ _)
  cases h : leading? operators t with
  | none =>
    exact leading?_eq_none.2 fun s hs hp => leading?_eq_none.1 h s hs ((hstart s hs).1 hp)
  | some s =>
    cases h' : leading? operators (t ++ ' ' :: w) with
    | none =>
      have hs := leading?_eq_some h
      exact absurd ((hstart s hs.1).2 hs.2) (leading?_eq_none.1 h' s hs.1)
    | some r =>
      have hr := leading?_eq_some h'
      have := leading?_some_of_prefixed (List.prefix_append t _) ((hstart r hr.1).1 hr.2) h'
      exact this.symm.trans h

/-- A blank put before pieces changes no token. -/
theorem filterMap_trimmed?_attach (ls : List Lexeme) :
    (attach ' ' ls).filterMap Lexeme.trimmed? = ls.filterMap Lexeme.trimmed? := by
  cases ls with
  | nil => rfl
  | cons l ls =>
    cases l with
    | separator s => rfl
    | plain t => simp only [attach, List.filterMap_cons, Lexeme.trimmed?,
      Text.trim_cons (c := ' ') (by rfl)]

/-- A blank in front of a text changes no token. -/
theorem tokens_cons_blank (t : Text) : tokens (' ' :: t) = tokens t := by
  have hnone : leading? operators (' ' :: t) = none := leading?_append_blank [] t
  rw [tokens, split_cons hnone, filterMap_trimmed?_attach, tokens]

/-- A blank behind a text stands behind its last stretch, or is a stretch of its own. -/
theorem split_concat_blank (t : Text) :
    split operators (t ++ [' ']) = split operators t ++ [.plain [' ']] ∨
      ∃ ls p, split operators t = ls ++ [.plain p] ∧
        split operators (t ++ [' ']) = ls ++ [.plain (p ++ [' '])] := by
  induction t using lexing nil_notMem_operators with
  | nil => exact .inl rfl
  | character c t h ih =>
    have h' : leading? operators (c :: (t ++ [' '])) = none :=
      (leading?_append_blank (c :: t) []).trans h
    rw [List.cons_append, split_cons h', split_cons h]
    rcases ih with ih | ⟨ls, p, ih, ih'⟩
    · rw [ih]
      cases hs : split operators t with
      | nil => exact .inr ⟨[], [c], rfl, rfl⟩
      | cons l ls => cases l <;> exact .inl rfl
    · rw [ih, ih']
      cases ls with
      | nil => exact .inr ⟨[], c :: p, rfl, rfl⟩
      | cons l ls =>
        cases l with
        | separator s => exact .inr ⟨.plain [c] :: .separator s :: ls, p, rfl, rfl⟩
        | plain q => exact .inr ⟨.plain (c :: q) :: ls, p, rfl, rfl⟩
  | separator s t hs h ih =>
    have hnil : s ≠ [] := fun e => nil_notMem_operators (e ▸ hs)
    have h' : leading? operators (s ++ (t ++ [' '])) = some s := by
      rw [← List.append_assoc]
      exact (leading?_append_blank (s ++ t) []).trans h
    rw [List.append_assoc, split_append hnil h', split_append hnil h]
    rcases ih with ih | ⟨ls, p, ih, ih'⟩
    · exact .inl (by rw [ih]; rfl)
    · exact .inr ⟨.separator s :: ls, p, by rw [ih]; rfl, by rw [ih']; rfl⟩

/-- A blank behind a text changes no token. -/
theorem tokens_concat_blank (t : Text) : tokens (t ++ [' ']) = tokens t := by
  rcases split_concat_blank t with h | ⟨ls, p, h, h'⟩
  · rw [tokens, h, List.filterMap_append, tokens]
    exact List.append_nil _
  · simp only [tokens, h, h', List.filterMap_append, List.filterMap_cons, List.filterMap_nil,
      Lexeme.trimmed?, Text.trim_concat (c := ' ') (by rfl)]

/-- The stages of two texts with an array pipe between them: those of both, where the last of the first
    has a blank behind it and the first of the second a blank before it. -/
theorem stageTexts_join (a b : Text) :
    ∃ us u v vs, stageTexts a = us ++ [u] ∧ stageTexts b = v :: vs ∧
      stageTexts (a ++ ' ' :: (arrayPipeMark ++ ' ' :: b)) =
        us ++ [u ++ [' ']] ++ (' ' :: v) :: vs := by
  obtain ⟨v, vs, hb⟩ := stageTexts_eq_cons b
  have hb' : stageTexts (' ' :: b) = (' ' :: v) :: vs :=
    stageTexts_cons (leading?_append_blank [] b) hb
  -- the last stage of `a` is named first, since it is the one that grows along the induction
  suffices h : ∃ us u, stageTexts a = us ++ [u] ∧
      stageTexts (a ++ ' ' :: (arrayPipeMark ++ ' ' :: b)) = us ++ (u ++ [' ']) :: (' ' :: v) :: vs by
    obtain ⟨us, u, ha, h⟩ := h
    exact ⟨us, u, v, vs, ha, hb, by rw [h]; simp⟩
  induction a using lexing nil_notMem_operators with
  | nil =>
    refine ⟨[], [], rfl, ?_⟩
    exact stageTexts_cons (leading?_append_blank [] _) ((stageTexts_arrayPipe _).trans (by rw [hb']))
  | character c t h ih =>
    obtain ⟨us, u, ht, ih⟩ := ih
    have h' : leading? operators (c :: (t ++ ' ' :: (arrayPipeMark ++ ' ' :: b))) = none :=
      (leading?_append_blank (c :: t) _).trans h
    cases us with
    | nil => exact ⟨[], c :: u, stageTexts_cons h ht, stageTexts_cons h' ih⟩
    | cons w us => exact ⟨(c :: w) :: us, u, stageTexts_cons h ht, stageTexts_cons h' ih⟩
  | separator s t hs h ih =>
    obtain ⟨us, u, ht, ih⟩ := ih
    have h' : leading? operators (s ++ (t ++ ' ' :: (arrayPipeMark ++ ' ' :: b))) = some s := by
      rw [← List.append_assoc]
      exact (leading?_append_blank (s ++ t) _).trans h
    rw [List.append_assoc]
    by_cases hne : s = arrayPipeMark
    · subst hne
      exact ⟨[] :: us, u, by rw [stageTexts_arrayPipe, ht]; rfl, by rw [stageTexts_arrayPipe, ih]; rfl⟩
    · cases us with
      | nil =>
        refine ⟨[], s ++ u, stageTexts_operator hne h ht, ?_⟩
        rw [stageTexts_operator hne h' ih]
        simp
      | cons w us =>
        exact ⟨(s ++ w) :: us, u, stageTexts_operator hne h ht, stageTexts_operator hne h' ih⟩

/-! ### Two queries joined -/

/-- The source of a chain matters for errors only. -/
theorem parseTokens_source {t r : Text} {ls : List Lexeme} {required piped : Bool} {ss : List Segment}
    (h : parseTokens t required piped ls = .ok ss) : parseTokens r required piped ls = .ok ss := by
  induction ls generalizing required piped ss with
  | nil => exact h
  | cons l ls ih =>
    cases l with
    | separator op =>
      rw [parseTokens] at h ⊢
      by_cases hfallback : op = fallbackMark
      · rw [if_pos hfallback] at h ⊢
        exact ih h
      · rw [if_neg hfallback] at h ⊢
        by_cases hjoin : op = joinMark
        · rw [if_pos hjoin] at h ⊢
          exact ih h
        · rw [if_neg hjoin] at h ⊢
          by_cases hpipe : op = pipeMark
          · rw [if_pos hpipe] at h ⊢
            exact ih h
          · rw [if_neg hpipe] at h
            cases h
    | plain p =>
      rw [parseTokens] at h ⊢
      obtain ⟨s, hs, h⟩ := bind_eq_ok_iff.1 h
      obtain ⟨rest, hrest, h⟩ := bind_eq_ok_iff.1 h
      exact bind_eq_ok_iff.2 ⟨s, hs, bind_eq_ok_iff.2 ⟨rest, ih hrest, h⟩⟩

/-- Two queries with an array pipe between them are parsed to the stages of both. -/
theorem parse_join {a b : Text} {p q : Query} (ha : parse a = .ok p) (hb : parse b = .ok q) :
    parse (a ++ " >>> " ++ b) = .ok ⟨p.stages ++ q.stages, a ++ " >>> " ++ b⟩ := by
  obtain ⟨us, u, v, vs, hua, hvb, hjoin⟩ := stageTexts_join a b
  obtain ⟨ps, hps, hp⟩ := bind_eq_ok_iff.1 ha
  obtain ⟨qs, hqs, hq⟩ := bind_eq_ok_iff.1 hb
  obtain rfl : ⟨ps, a⟩ = p := Except.ok.inj hp
  obtain rfl : ⟨qs, b⟩ = q := Except.ok.inj hq
  rw [hua] at hps
  rw [hvb] at hqs
  obtain ⟨ps, ss, hinit, hss, rfl⟩ := mapM_append_eq_ok_iff.1 hps
  obtain ⟨s, none, hs, hnone, rfl⟩ := mapM_cons_eq_ok_iff.1 hss
  obtain rfl : [] = none := Except.ok.inj hnone
  obtain ⟨r, rs, hr, hrs, rfl⟩ := mapM_cons_eq_ok_iff.1 hqs
  -- the two stages at the boundary have a blank more and the same tokens
  have hlast : parseChain (u ++ [' ']) = .ok s := by
    rw [parseChain, tokens_concat_blank]
    exact parseTokens_source hs
  have hfirst : parseChain (' ' :: v) = .ok r := by
    rw [parseChain, tokens_cons_blank]
    exact parseTokens_source hr
  have htext : a ++ " >>> " ++ b = a ++ ' ' :: (arrayPipeMark ++ ' ' :: b) := by
    simp [arrayPipeMark]
  rw [parse, htext, hjoin]
  refine bind_eq_ok_iff.2 ⟨(ps ++ [s]) ++ r :: rs, ?_, rfl⟩
  exact mapM_append_eq_ok_iff.2 ⟨_, _,
    mapM_append_eq_ok_iff.2 ⟨_, _, hinit, mapM_cons_eq_ok_iff.2 ⟨_, _, hlast, rfl, rfl⟩, rfl⟩,
    mapM_cons_eq_ok_iff.2 ⟨_, _, hfirst, hrs, rfl⟩, rfl⟩

end PageQuery.Query
