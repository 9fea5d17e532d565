import PageQuery.Query.Parser
import PageQuery.Proofs.Query.Lexing

namespace PageQuery.Query

/-!
# Stages of a query text

A query text is lexed as a whole to find its array pipes, and then each part between them again. The two
readings agree.

* `split_eq_intercalate`: the pieces of a text are those of its stages with array pipes between;
* `arrayPipe_mem_split`: an array pipe is read in every text that holds one;
* `tokens_eq_intercalate`: the tokens of a text are those of its stages with array pipes between;
* `arrayPipe_not_infix`: no stage holds an array pipe.
-/

/-! ### Operators -/

theorem nil_notMem_operators : [] ∉ operators := by decide

/-- The array pipe is read wherever it stands. -/
theorem leading?_arrayPipe (t : Text) :
    leading? operators (arrayPipeMark ++ t) = some arrayPipeMark := rfl

/-- Where an array pipe stands no other operator is read. -/
theorem eq_arrayPipe_of_prefixed {t s : Text} (h : leading? operators t = some s)
    (hp : arrayPipeMark <+: t) : s = arrayPipeMark := by
  obtain ⟨u, rfl⟩ := hp
  rw [leading?_arrayPipe] at h
  exact (Option.some.inj h).symm

/-- An array pipe starts with its own character. -/
theorem arrayPipe_not_prefixed {c : Char} (hc : c ≠ '>') (t : Text) : ¬ arrayPipeMark <+: c :: t := by
  intro h
  exact hc (List.cons_prefix_cons.1 h).1.symm

/-- What starts at neither of the first two characters stands behind them. -/
theorem infix_of_not_prefixed {p t : Text} {c d : Char} (hfirst : ¬ p <+: c :: d :: t)
    (hsecond : ¬ p <+: d :: t) (h : p <:+: c :: d :: t) : p <:+: t :=
  (List.infix_cons_iff.1 ((List.infix_cons_iff.1 h).resolve_left hfirst)).resolve_left hsecond

/-- An array pipe in a text behind another operator stands behind that operator. -/
theorem arrayPipe_infix_of_append {s t : Text} (hs : s ∈ operators)
    (h : leading? operators (s ++ t) = some s) (hne : s ≠ arrayPipeMark)
    (hp : arrayPipeMark <:+: s ++ t) : arrayPipeMark <:+: t := by
  have hfirst : ¬ arrayPipeMark <+: s ++ t := fun hp => hne (eq_arrayPipe_of_prefixed h hp)
  simp only [operators, List.mem_cons, List.not_mem_nil, or_false] at hs
  rcases hs with rfl | rfl | rfl | rfl
  · -- `||` and `++` share no character with the array pipe
    exact infix_of_not_prefixed hfirst (arrayPipe_not_prefixed (by decide) t) hp
  · exact infix_of_not_prefixed hfirst (arrayPipe_not_prefixed (by decide) t) hp
  · exact absurd rfl hne
  · -- an array pipe at the second character would reach back to the first
    have hsecond : ¬ arrayPipeMark <+: '>' :: t := by
      rintro ⟨u, hu⟩
      obtain rfl : '>' :: '>' :: u = t := List.cons.inj hu |>.2
      exact hfirst ⟨'>' :: u, rfl⟩
    exact infix_of_not_prefixed hfirst hsecond hp

/-- An array pipe is read in every text that holds one. -/
theorem arrayPipe_mem_split {t : Text} (hp : arrayPipeMark <:+: t) :
    .separator arrayPipeMark ∈ split operators t := by
  induction t using lexing nil_notMem_operators with
  | nil => simp [arrayPipeMark] at hp
  | character c t h ih =>
    rw [split_cons h]
    have hstart : ¬ arrayPipeMark <+: c :: t :=
      leading?_eq_none.1 h _ (by decide)
    have hmem := ih ((List.infix_cons_iff.1 hp).resolve_left hstart)
    revert hmem
    cases split operators t with
    | nil => simp
    | cons l ls => cases l <;> simp [attach]
  | separator s t hs h ih =>
    rw [split_append (fun e => nil_notMem_operators (e ▸ hs)) h]
    by_cases hne : s = arrayPipeMark
    · exact hne ▸ List.mem_cons_self
    · exact List.mem_cons_of_mem _ (ih (arrayPipe_infix_of_append hs h hne hp))

/-! ### Gathering pieces into stages -/

/-- An array pipe opens a stage. -/
theorem gatherStages_arrayPipe (ls : List Lexeme) :
    gatherStages (.separator arrayPipeMark :: ls) = [] :: gatherStages ls := by
  rw [gatherStages, if_pos rfl]

/-- Any other operator goes to the first stage. -/
theorem gatherStages_operator {s u : Text} {ls : List Lexeme} {us : List Text}
    (hs : s ≠ arrayPipeMark) (h : gatherStages ls = u :: us) :
    gatherStages (.separator s :: ls) = (s ++ u) :: us := by
  rw [gatherStages, if_neg hs, h]

/-- A stretch of text goes to the first stage. -/
theorem gatherStages_plain {t u : Text} {ls : List Lexeme} {us : List Text}
    (h : gatherStages ls = u :: us) : gatherStages (.plain t :: ls) = (t ++ u) :: us := by
  rw [gatherStages, h]

/-- There is always a stage. -/
theorem gatherStages_eq_cons (ls : List Lexeme) : ∃ u us, gatherStages ls = u :: us := by
  induction ls with
  | nil => exact ⟨[], [], rfl⟩
  | cons l ls ih =>
    obtain ⟨u, us, h⟩ := ih
    cases l with
    | plain t => exact ⟨_, _, gatherStages_plain h⟩
    | separator s =>
      by_cases hs : s = arrayPipeMark
      · exact ⟨_, _, hs ▸ gatherStages_arrayPipe ls⟩
      · exact ⟨_, _, gatherStages_operator hs h⟩

/-- A character put before pieces is put before their first stage. -/
theorem gatherStages_attach {c : Char} {ls : List Lexeme} {u : Text} {us : List Text}
    (h : gatherStages ls = u :: us) : gatherStages (attach c ls) = (c :: u) :: us := by
  cases ls with
  | nil =>
    rw [attach, gatherStages_plain h]
    · rfl
    · simp
  | cons l ls =>
    cases l with
    | separator s => exact gatherStages_plain h
    | plain t =>
      obtain ⟨v, vs, hv⟩ := gatherStages_eq_cons ls
      rw [gatherStages_plain hv, List.cons.injEq] at h
      rw [attach, gatherStages_plain hv, ← h.1, ← h.2]
      rfl

/-- The stages joined by array pipes make up the text of the pieces. -/
theorem join_gatherStages (ls : List Lexeme) :
    Text.join arrayPipeMark (gatherStages ls) = ls.flatMap Lexeme.text := by
  -- what stands before the first stage's end can be taken out of the join
  have hhead : ∀ (t u : Text) (us : List Text),
      Text.join arrayPipeMark ((t ++ u) :: us) = t ++ Text.join arrayPipeMark (u :: us) := by
    intro t u us
    cases us <;> simp [Text.join]
  induction ls with
  | nil => simp [gatherStages, Text.join]
  | cons l ls ih =>
    obtain ⟨u, us, h⟩ := gatherStages_eq_cons ls
    cases l with
    | plain t =>
      rw [gatherStages_plain h, hhead, ← h, ih]
      rfl
    | separator s =>
      by_cases hs : s = arrayPipeMark
      · subst hs
        rw [gatherStages_arrayPipe, List.flatMap_cons, ← ih, h]
        simp [Text.join, Lexeme.text]
      · rw [gatherStages_operator hs h, hhead, ← h, ih]
        rfl

/-! ### The stages of a text -/

/-- There is always a stage. -/
theorem stageTexts_eq_cons (t : Text) : ∃ u us, stageTexts t = u :: us :=
  gatherStages_eq_cons _

/-- A character that starts no operator goes to the first stage. -/
theorem stageTexts_cons {c : Char} {t u : Text} {us : List Text}
    (hc : leading? operators (c :: t) = none) (h : stageTexts t = u :: us) :
    stageTexts (c :: t) = (c :: u) :: us := by
  rw [stageTexts, split_cons hc, gatherStages_attach h]

/-- An array pipe ends the first stage. -/
theorem stageTexts_arrayPipe (t : Text) : stageTexts (arrayPipeMark ++ t) = [] :: stageTexts t := by
  rw [stageTexts, split_append (by decide) (leading?_arrayPipe t), gatherStages_arrayPipe, stageTexts]

/-- Any other operator goes to the first stage. -/
theorem stageTexts_operator {s t u : Text} {us : List Text} (hne : s ≠ arrayPipeMark)
    (hs : leading? operators (s ++ t) = some s) (h : stageTexts t = u :: us) :
    stageTexts (s ++ t) = (s ++ u) :: us := by
  have hnil : s ≠ [] := fun e => nil_notMem_operators (e ▸ (leading?_eq_some hs).1)
  rw [stageTexts, split_append hnil hs, gatherStages_operator hne h]

/-- The first stage is a prefix of the text. -/
theorem stageTexts_head_prefixed {t u : Text} {us : List Text} (h : stageTexts t = u :: us) : u <+: t := by
  have hj : Text.join arrayPipeMark (stageTexts t) = t := by
    rw [stageTexts, join_gatherStages, split_text nil_notMem_operators]
  rw [h] at hj
  cases us with
  | nil => exact ⟨[], by simpa [Text.join] using hj⟩
  | cons v vs => exact ⟨_, by simpa [Text.join] using hj⟩

/-- A character put before two rows of pieces, of which the second starts with no stretch of text. -/
theorem attach_append {c : Char} {ls ms : List Lexeme}
    (hms : ∀ t ns, ms ≠ .plain t :: ns) : attach c (ls ++ ms) = attach c ls ++ ms := by
  cases ls with
  | cons l ls => cases l <;> rfl
  | nil =>
    cases ms with
    | nil => rfl
    | cons m ms =>
      cases m with
      | separator s => rfl
      | plain t => exact absurd rfl (hms t ms)

/-- The pieces of a text are those of its stages with array pipes between. -/
theorem split_eq_intercalate (t : Text) :
    split operators t =
      [.separator arrayPipeMark].intercalate ((stageTexts t).map (split operators)) := by
  induction t using lexing nil_notMem_operators with
  | nil => simp [stageTexts, gatherStages]
  | character c t h ih =>
    obtain ⟨u, us, hu⟩ := stageTexts_eq_cons t
    -- the first stage is lexed like the text it is taken from: nothing new is read at its start
    have hcu : leading? operators (c :: u) = none :=
      leading?_none_of_prefixed ((List.prefix_cons_inj c).2 (stageTexts_head_prefixed hu)) h
    rw [split_cons h, ih, hu, stageTexts_cons h hu, List.map_cons, List.map_cons, split_cons hcu]
    cases us with
    | nil => simp
    | cons v vs =>
      -- what follows the first stage is an array pipe, so the character stays in the first stage
      simp only [List.map_cons, List.intercalate_cons_cons, List.append_assoc]
      exact attach_append (by simp)
  | separator s t hs h ih =>
    have hnil : s ≠ [] := fun e => nil_notMem_operators (e ▸ hs)
    obtain ⟨u, us, hu⟩ := stageTexts_eq_cons t
    rw [split_append hnil h, ih]
    by_cases hne : s = arrayPipeMark
    · subst hne
      simp [stageTexts_arrayPipe, hu]
    · have hsu : leading? operators (s ++ u) = some s :=
        leading?_some_of_prefixed ((List.prefix_append_right_inj s).2 (stageTexts_head_prefixed hu))
          (List.prefix_append s u) h
      rw [stageTexts_operator hne h hu, hu, List.map_cons, List.map_cons, split_append hnil hsu]
      cases us <;> simp

/-! ### Array pipes between the stages -/

section Intercalate

variable {α β : Type}

/-- What is picked out of rows with a separator between is picked out of each. -/
theorem filterMap_intercalate (f : α → Option β) (sep : List α) (rows : List (List α)) :
    (sep.intercalate rows).filterMap f =
      (sep.filterMap f).intercalate (rows.map (·.filterMap f)) := by
  induction rows with
  | nil => rfl
  | cons r rows ih =>
    cases rows with
    | nil => simp
    | cons r' rows =>
      simp only [List.map_cons, List.intercalate_cons_cons, List.filterMap_append] at ih ⊢
      rw [ih]

/-- Rows with a separator between hold it once less than there are rows, besides what they hold
    themselves. -/
theorem count_intercalate [BEq α] [LawfulBEq α] (a : α) (rows : List (List α)) (h : rows ≠ []) :
    ([a].intercalate rows).count a + 1 = rows.flatten.count a + rows.length := by
  induction rows with
  | nil => exact absurd rfl h
  | cons r rows ih =>
    cases rows with
    | nil => simp
    | cons r' rows =>
      have ih := ih (by simp)
      simp only [List.intercalate_cons_cons, List.count_append, List.flatten_cons, List.length_cons,
        List.count_singleton_self] at ih ⊢
      omega

end Intercalate

/-- There is one stage more than there are array pipes among the pieces. -/
theorem length_gatherStages (ls : List Lexeme) :
    (gatherStages ls).length = ls.count (.separator arrayPipeMark) + 1 := by
  induction ls with
  | nil => rfl
  | cons l ls ih =>
    obtain ⟨u, us, h⟩ := gatherStages_eq_cons ls
    rw [h] at ih
    cases l with
    | plain t =>
      rw [gatherStages_plain h]
      simpa using ih
    | separator s =>
      by_cases hs : s = arrayPipeMark
      · subst hs
        rw [gatherStages_arrayPipe, h]
        simpa using ih
      · rw [gatherStages_operator hs h]
        have hl : Lexeme.separator s ≠ .separator arrayPipeMark := by simpa using hs
        simpa [List.count_cons_of_ne hl] using ih

/-- No array pipe is read in a stage. -/
theorem arrayPipe_notMem_split {t u : Text} (hu : u ∈ stageTexts t) :
    .separator arrayPipeMark ∉ split operators u := by
  obtain ⟨v, vs, hv⟩ := stageTexts_eq_cons t
  have hlen : (stageTexts t).length = _ := length_gatherStages (split operators t)
  have hcount := count_intercalate (.separator arrayPipeMark)
    ((stageTexts t).map (split operators)) (by simp [hv])
  -- the pieces hold one array pipe less than there are stages, so that none is left for the stages
  rw [← split_eq_intercalate, List.length_map, hlen] at hcount
  have hzero : ((stageTexts t).map (split operators)).flatten.count (.separator arrayPipeMark) = 0 := by
    omega
  intro hmem
  exact List.count_eq_zero.1 hzero (List.mem_flatten.2 ⟨_, List.mem_map_of_mem hu, hmem⟩)

/-- No stage holds an array pipe. -/
theorem arrayPipe_not_infix {t u : Text} (hu : u ∈ stageTexts t) : ¬ arrayPipeMark <:+: u :=
  fun hp => arrayPipe_notMem_split hu (arrayPipe_mem_split hp)

/-- The tokens of a text are those of its stages with array pipes between. -/
theorem tokens_eq_intercalate (t : Text) :
    tokens t = [.separator arrayPipeMark].intercalate ((stageTexts t).map tokens) := by
  rw [tokens, split_eq_intercalate, filterMap_intercalate, List.map_map]
  rfl

/-- A token stands inside the text. -/
theorem token_infix {t : Text} {l : Lexeme} (h : l ∈ tokens t) : l.text <:+: t := by
  obtain ⟨m, hm, hl⟩ := List.mem_filterMap.1 h
  have hmt : m.text <:+: t := by
    have := List.infix_of_mem_flatten (List.mem_map_of_mem (f := Lexeme.text) hm)
    rwa [← List.flatMap_def, split_text nil_notMem_operators] at this
  cases m with
  | separator s =>
    obtain rfl : .separator s = l := Option.some.inj hl
    exact hmt
  | plain p =>
    have hp : Lexeme.plain (Text.trim p) = l := by
      simp only [Lexeme.trimmed?] at hl
      split at hl
      · cases hl
      · exact Option.some.inj hl
    exact hp ▸ (Text.trim_infix p).trans hmt

/-- There is one stage more than there are tokens that are array pipes. -/
theorem length_stageTexts (t : Text) :
    (stageTexts t).length = ((tokens t).map Lexeme.text).count arrayPipeMark + 1 := by
  obtain ⟨v, vs, hv⟩ := stageTexts_eq_cons t
  have hcount := count_intercalate arrayPipeMark
    ((stageTexts t).map fun u => (tokens u).map Lexeme.text) (by simp [hv])
  have htokens : (tokens t).map Lexeme.text =
      [arrayPipeMark].intercalate ((stageTexts t).map fun u => (tokens u).map Lexeme.text) := by
    rw [tokens_eq_intercalate, ← List.filterMap_eq_map, filterMap_intercalate]
    simp [Lexeme.text, Function.comp_def]
  -- a token of a stage is no array pipe, since it would stand inside the stage
  have hzero : ((stageTexts t).map fun u => (tokens u).map Lexeme.text).flatten.count arrayPipeMark
      = 0 := by
    refine List.count_eq_zero.2 fun hmem => ?_
    obtain ⟨texts, htexts, hmem⟩ := List.mem_flatten.1 hmem
    obtain ⟨u, hu, rfl⟩ := List.mem_map.1 htexts
    obtain ⟨l, hl, hlm⟩ := List.mem_map.1 hmem
    exact arrayPipe_not_infix hu (hlm ▸ token_infix hl)
  rw [← htokens, List.length_map] at hcount
  omega

end PageQuery.Query
