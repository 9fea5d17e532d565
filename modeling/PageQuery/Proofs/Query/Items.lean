import PageQuery.Proofs.Query.Bodies

namespace PageQuery.Query

/-!
# Entries of a transform parameter

A `transform` value is cut at its semicolons, and the pieces of a regular expression are put together again, as long
as its body is not closed. A value that was joined from whole entries has whole entries; one that is read only up to
an ampersand in a body ends with an entry that is not closed.

* `glue`, `splitUnescapedFrom_append`, `splitUnescaped_append`: pieces between separators, and what they make together;
* `gatherTransforms_unfinished`: pieces of a body that is not closed stay together;
* `IsItem`, `exists_gatherTransforms_item`: what an entry is written as, and that it is read as whole entries;
* `isCompleteRegexp_of_mem_splitTransforms`, `exists_getLast?_splitTransforms`: the entries of a joined value, and of
  what stands in front of an ampersand in it.
-/

/-! ### Pieces between semicolons -/

/-- Pieces put together again, with a semicolon in front of each. -/
def glue (pieces : List Text) : Text := pieces.flatMap (';' :: ·)

@[simp]
theorem glue_nil : glue [] = [] := rfl

@[simp]
theorem glue_cons (t : Text) (pieces : List Text) : glue (t :: pieces) = ';' :: (t ++ glue pieces) := rfl

@[simp]
theorem glue_append (ts us : List Text) : glue (ts ++ us) = glue ts ++ glue us := List.flatMap_append

/-- A text has a first piece, and is its pieces put together again. -/
theorem exists_splitUnescapedFrom_eq (sep : Char) (escaped : Bool) (t : Text) :
    ∃ first others, splitUnescapedFrom sep escaped t = first :: others ∧
      t = first ++ others.flatMap (sep :: ·) := by
  induction t generalizing escaped with
  | nil => exact ⟨[], [], rfl, rfl⟩
  | cons c t ih =>
    rw [splitUnescapedFrom]
    split
    · next hsep =>
      obtain ⟨first, others, hsplit, rfl⟩ := ih false
      have hc : c = sep := (by simpa using hsep : c = sep ∧ _).1
      exact ⟨[], first :: others, by rw [hsplit], by rw [hc, List.nil_append, List.flatMap_cons, List.cons_append]⟩
    · obtain ⟨first, others, hsplit, rfl⟩ := ih (c == '\\')
      exact ⟨c :: first, others, by rw [hsplit], rfl⟩

/-- The first two pieces of a text stand at its start. -/
theorem prefixed_of_splitUnescaped {sep : Char} {t first second : Text} {others : List Text}
    (h : splitUnescaped sep t = first :: second :: others) : first ++ sep :: second <+: t := by
  obtain ⟨_, _, hsplit, ht⟩ := exists_splitUnescapedFrom_eq sep false t
  obtain ⟨rfl, rfl⟩ := List.cons.inj (hsplit.symm.trans h)
  rw [ht, List.flatMap_cons, List.cons_append, ← List.cons_append, ← List.append_assoc]
  exact List.prefix_append _ _

/-- A separator behind a text that does not end with a backslash separates. -/
theorem splitUnescapedFrom_append {sep : Char} {escaped : Bool} {t : Text} (hopen : t = [] → escaped = false)
    (hlast : t.getLast? ≠ some '\\') (u : Text) :
    splitUnescapedFrom sep escaped (t ++ sep :: u) =
      splitUnescapedFrom sep escaped t ++ splitUnescaped sep u := by
  induction t generalizing escaped with
  | nil =>
    rw [hopen rfl]
    simp [splitUnescapedFrom, splitUnescaped]
  | cons c t ih =>
    have hlast' : t.getLast? ≠ some '\\' := by
      cases t with
      | nil => simp
      | cons d t => rwa [List.getLast?_cons_cons] at hlast
    rw [List.cons_append, splitUnescapedFrom, splitUnescapedFrom]
    split
    · rw [ih (fun _ => rfl) hlast', List.cons_append]
    · have hbar : t = [] → (c == '\\') = false := by
        rintro rfl
        simpa using hlast
      rw [ih hbar hlast']
      obtain ⟨first, others, hsplit, -⟩ := exists_splitUnescapedFrom_eq sep (c == '\\') t
      rw [hsplit]
      rfl

/-- Characters that are neither separators nor backslashes stand in front of the first piece. -/
theorem splitUnescaped_append {sep : Char} {t u first : Text} {others : List Text}
    (ht : ∀ c ∈ t, c ≠ sep ∧ c ≠ '\\') (hu : splitUnescaped sep u = first :: others) :
    splitUnescaped sep (t ++ u) = (t ++ first) :: others := by
  induction t with
  | nil => exact hu
  | cons c t ih =>
    obtain ⟨⟨hsep, hbar⟩, ht⟩ := List.forall_mem_cons.1 ht
    have hrest : splitUnescapedFrom sep false (t ++ u) = (t ++ first) :: others := ih ht
    have hnotBar : (c == '\\') = false := by simpa using hbar
    rw [splitUnescaped, List.cons_append, splitUnescapedFrom, if_neg (by simp [hsep]), hnotBar, hrest]
    rfl

/-- Without backslashes all separators separate. -/
theorem splitUnescaped_of_notMem {sep : Char} {t : Text} (h : '\\' ∉ t) : splitUnescaped sep t = Text.split sep t := by
  induction t with
  | nil => rfl
  | cons c t ih =>
    obtain ⟨hbar, ht⟩ := not_or.1 (mt List.mem_cons.2 h)
    have hnotBar : (c == '\\') = false := beq_eq_false_iff_ne.2 fun heq => hbar heq.symm
    have hrest : splitUnescapedFrom sep false t = Text.pieces (· == sep) t := ih ht
    rw [splitUnescaped, splitUnescapedFrom, hnotBar, hrest, Text.split, Text.pieces]
    by_cases hc : c = sep
    · simp [hc]
    · exact (if_neg (by simp [hc])).trans (if_neg (by simp [hc])).symm

/-! ### Marked bodies -/

theorem isCompleteRegexp_mark (b : Text) : isCompleteRegexp (regexpMark ++ b) = isCompleteBody b := by
  rw [isCompleteRegexp, Text.after?_eq_some_iff.2 rfl]

/-- White space can only be trimmed from the end of a marked body. -/
theorem trim_mark (q : Text) : Text.trim (regexpMark ++ '/' :: q) = regexpMark ++ '/' :: Text.trimRight q :=
  Text.trim_append_cons rfl regexpMark q

/-- Nothing can be trimmed from a marked body that ends with a slash. -/
theorem trim_mark_concat (q : Text) :
    Text.trim (regexpMark ++ '/' :: (q ++ ['/'])) = regexpMark ++ '/' :: (q ++ ['/']) := by
  rw [trim_mark, Text.trimRight, Text.dropEndWhile_append_cons rfl]
  rfl

theorem isCompleteRegexp_of_not_startsWith {t : Text} (h : Text.startsWith regexpMark t = false) :
    isCompleteRegexp t = true := by
  have hnone : Text.after? regexpMark t = none := by simpa [Text.startsWith] using h
  rw [isCompleteRegexp, hnone]

/-- The first piece of a marked body starts with the mark and the slash. -/
theorem splitUnescaped_mark {q first : Text} {others : List Text} (h : splitUnescaped ';' q = first :: others) :
    splitUnescaped ';' (regexpMark ++ '/' :: q) = (regexpMark ++ '/' :: first) :: others := by
  have hplain : ∀ c ∈ regexpMark ++ ['/'], c ≠ ';' ∧ c ≠ '\\' := Text.forall_mem_of_all rfl
  simpa using splitUnescaped_append hplain h

/-! ### Gathering -/

/-- As long as an expression is not closed, pieces are added to it. -/
theorem gatherTransforms_open {t : Text} {pieces more : List Text}
    (h : ∀ ps, ps <+: pieces → isCompleteRegexp (t ++ glue ps) = false) :
    gatherTransforms (some t) (pieces ++ more) = gatherTransforms (some (t ++ glue pieces)) more := by
  induction pieces generalizing t with
  | nil => simp
  | cons part pieces ih =>
    have hpart : isCompleteRegexp (t ++ ';' :: part) = false := by
      simpa using h [part] ⟨pieces, rfl⟩
    have hrest : ∀ ps, ps <+: pieces → isCompleteRegexp (t ++ ';' :: part ++ glue ps) = false := by
      intro ps hps
      simpa using h (part :: ps) ((List.prefix_cons_inj part).2 hps)
    rw [List.cons_append, gatherTransforms]
    simp only [hpart, Bool.false_eq_true, if_false]
    rw [ih hrest, glue_cons, List.append_assoc, List.cons_append]

/-- A piece that closes an expression ends the entry. -/
theorem gatherTransforms_close {t part : Text} (h : isCompleteRegexp (t ++ ';' :: part) = true) (more : List Text) :
    gatherTransforms (some t) (part :: more) = (t ++ ';' :: part) :: gatherTransforms none more := by
  rw [gatherTransforms]
  simp only [h, if_true]

/-- The pieces of a body of which no beginning is closed make one expression that is open. White space in front of
    the first semicolon is lost. -/
theorem gatherTransforms_unfinished {first : Text} {pieces : List Text}
    (h : ∀ ps, ps <+: pieces → Unfinished (first ++ glue ps)) (more : List Text) :
    gatherTransforms none ((regexpMark ++ '/' :: first) :: (pieces ++ more)) =
      gatherTransforms (some (regexpMark ++ '/' :: (Text.trimRight first ++ glue pieces))) more := by
  have hfirst : Unfinished first := by simpa using h [] List.nil_prefix
  have hopen : ∀ ps, ps <+: pieces →
      isCompleteRegexp (regexpMark ++ '/' :: Text.trimRight first ++ glue ps) = false := by
    intro ps hps
    rw [List.append_assoc, isCompleteRegexp_mark, List.cons_append]
    apply isCompleteBody_of_unfinished
    cases ps with
    | nil => simpa using hfirst.trimRight
    | cons part ps => exact hfirst.trimRight_append (h _ hps)
  have hmark : Text.startsWith regexpMark (regexpMark ++ '/' :: Text.trimRight first) = true :=
    Text.startsWith_iff.2 (List.prefix_append _ _)
  have hnot : isCompleteRegexp (regexpMark ++ '/' :: Text.trimRight first) = false := by
    simpa using hopen [] List.nil_prefix
  rw [gatherTransforms]
  simp only [trim_mark, hmark, if_true, hnot, Bool.false_eq_true, if_false]
  rw [gatherTransforms_open hopen, List.append_assoc, List.cons_append]

/-! ### Items -/

/-- How an entry of a `transform` value is written: as a marked body, or as a text without ampersands and backslashes
    in which no piece between semicolons is marked. -/
inductive IsItem : Text → Prop where
  | regexp {b : Text} (hb : IsBody b) : IsItem (regexpMark ++ b)
  | plain {t : Text} (hsep : '&' ∉ t) (hbar : '\\' ∉ t)
      (hmark : ∀ piece ∈ Text.split ';' t, Text.startsWith regexpMark (Text.trim piece) = false) : IsItem t

/-- An item reads as a whole. -/
theorem IsItem.guarded {t : Text} (h : IsItem t) : Guarded [] t := by
  cases h with
  | regexp hb =>
    have hmark : ∀ c ∈ regexpMark, c ≠ '\\' ∧ c ∉ ([] : Text) := Text.forall_mem_of_all rfl
    exact (Guarded.of_forall hmark).append hb.guarded
  | plain _ hbar _ => exact .of_forall fun c hc => ⟨fun heq => hbar (heq ▸ hc), List.not_mem_nil⟩

/-- A semicolon behind an item is not protected. -/
theorem IsItem.getLast?_ne {t : Text} (h : IsItem t) : t.getLast? ≠ some '\\' := by
  cases h with
  | regexp hb =>
    rw [List.getLast?_append, hb.delimited.getLast?_eq]
    simp
  | plain _ hbar _ => exact fun heq => hbar (List.mem_of_getLast? heq)

/-- In front of each semicolon that cuts the text of a body, the body is not closed. -/
theorem unfinished_of_glue {stops first u : Text} {pieces : List Text} {c : Char} (hsemicolon : ';' ∈ stops)
    (hc : c ∈ stops) (hslash : c ≠ '/') (hspace : Text.isSpace c = false)
    (hb : Delimited stops ('/' :: (first ++ glue pieces ++ c :: u))) :
    ∀ ps, ps <+: pieces → Unfinished (first ++ glue ps) := by
  rintro ps ⟨rest, rfl⟩
  cases rest with
  | nil => exact hb.unfinished hc hslash hspace (by rw [List.append_nil])
  | cons part rest =>
    exact hb.unfinished (u := part ++ glue rest ++ c :: u) hsemicolon (by decide) rfl (by simp)

namespace Delimited

variable {b first u : Text} {init : List Text}

/-- In front of each semicolon that cuts a body, the body is not closed. -/
theorem unfinished_pieces (hb : Delimited [';'] ('/' :: (first ++ glue init ++ ';' :: u))) :
    ∀ ps, ps <+: init → Unfinished (first ++ glue ps) :=
  unfinished_of_glue (by simp) (by simp) (by decide) rfl hb

/-- A closed body without the white space in front of its first semicolon is closed. -/
theorem isCompleteBody_trimmed (hb : Delimited [';'] ('/' :: (first ++ glue init ++ ';' :: u))) :
    Query.isCompleteBody ('/' :: (Text.trimRight first ++ glue init ++ ';' :: u)) = true := by
  have hfirst : Unfinished first := by simpa using hb.unfinished_pieces [] List.nil_prefix
  have hclosed := hb.isCompleteBody
  cases init with
  | nil =>
    rw [glue_nil, List.append_nil] at hclosed ⊢
    rwa [hfirst.isCompleteBody_trimRight]
  | cons part init =>
    rw [glue_cons, List.append_assoc, List.cons_append] at hclosed ⊢
    rwa [hfirst.isCompleteBody_trimRight]

/-- A body stands in one piece, or its last piece ends with its last slash. -/
theorem exists_pieces {stops : Text} (hb : Delimited stops b) :
    (∃ q, b = '/' :: (q ++ ['/']) ∧ splitUnescaped ';' (q ++ ['/']) = [q ++ ['/']]) ∨
      ∃ first init lead, b = '/' :: (first ++ glue init ++ ';' :: (lead ++ ['/'])) ∧
        splitUnescaped ';' (first ++ glue init ++ ';' :: (lead ++ ['/'])) = first :: (init ++ [lead ++ ['/']]) := by
  obtain ⟨q, rfl⟩ := hb.exists_eq_concat
  obtain ⟨first, pieces, hsplit, hjoin⟩ := exists_splitUnescapedFrom_eq ';' false (q ++ ['/'])
  rcases List.eq_nil_or_concat pieces with rfl | ⟨init, last, hpieces⟩
  · obtain rfl : q ++ ['/'] = first := by simpa using hjoin
    exact .inl ⟨q, rfl, hsplit⟩
  · obtain rfl : pieces = init ++ [last] := hpieces.trans List.concat_eq_append
    have hjoin' : q ++ ['/'] = first ++ glue init ++ ';' :: last := by
      rw [hjoin, List.flatMap_append, ← List.append_assoc]
      simp [glue]
    obtain ⟨lead, rfl⟩ : ∃ lead, last = lead ++ ['/'] := by
      have hlast := congrArg List.getLast? hjoin'
      rcases List.eq_nil_or_concat last with rfl | ⟨lead, c, hlead⟩
      · rw [List.getLast?_concat, List.getLast?_concat] at hlast
        cases hlast
      · obtain rfl : last = lead ++ [c] := hlead.trans List.concat_eq_append
        rw [← List.cons_append, ← List.append_assoc, List.getLast?_concat, List.getLast?_concat] at hlast
        cases hlast
        exact ⟨lead, rfl⟩
    rw [hjoin'] at hsplit ⊢
    exact .inr ⟨first, init, lead, rfl, hsplit⟩

end Delimited

/-- A body without the white space in front of the first semicolon that cuts it. -/
def tightened (b : Text) : Text :=
  match splitUnescaped ';' b with
  | [] => []
  | first :: pieces => Text.trimRight first ++ glue pieces

theorem tightened_slash {q first : Text} {pieces : List Text} (h : splitUnescaped ';' q = first :: pieces) :
    tightened ('/' :: q) = '/' :: (Text.trimRight first ++ glue pieces) := by
  have hplain : ∀ c ∈ (['/'] : Text), c ≠ ';' ∧ c ≠ '\\' := Text.forall_mem_of_all rfl
  have hsplit : splitUnescaped ';' ('/' :: q) = ('/' :: first) :: pieces := splitUnescaped_append hplain h
  have htrim : Text.trimRight ('/' :: first) = '/' :: Text.trimRight first :=
    Text.dropEndWhile_append_cons rfl [] first
  rw [tightened, hsplit]
  show Text.trimRight ('/' :: first) ++ glue pieces = '/' :: (Text.trimRight first ++ glue pieces)
  rw [htrim, List.cons_append]

/-- A body in one piece has nothing to lose. -/
theorem tightened_concat {q : Text} (h : splitUnescaped ';' (q ++ ['/']) = [q ++ ['/']]) :
    tightened ('/' :: (q ++ ['/'])) = '/' :: (q ++ ['/']) := by
  have htrim : Text.trimRight (q ++ ['/']) = q ++ ['/'] := Text.dropEndWhile_append_cons rfl q []
  rw [tightened_slash h, htrim, glue_nil, List.append_nil]

/-- What is read of a body is closed, and ends with a slash. -/
theorem Delimited.tightened {b : Text} (hb : Delimited [';'] b) :
    Query.isCompleteBody (tightened b) = true ∧ ∃ q, Query.tightened b = '/' :: (q ++ ['/']) := by
  rcases hb.exists_pieces with ⟨q, rfl, hsplit⟩ | ⟨first, init, lead, rfl, hsplit⟩
  · rw [tightened_concat hsplit]
    exact ⟨hb.isCompleteBody, q, rfl⟩
  · have hglue : Text.trimRight first ++ glue (init ++ [lead ++ ['/']]) =
        Text.trimRight first ++ glue init ++ ';' :: (lead ++ ['/']) := by simp
    rw [tightened_slash hsplit, hglue]
    exact ⟨hb.isCompleteBody_trimmed, Text.trimRight first ++ glue init ++ ';' :: lead, by simp⟩

/-- The pieces of a marked body make one entry. -/
theorem gatherTransforms_body {b : Text} (hb : Delimited [';'] b) (more : List Text) :
    gatherTransforms none (splitUnescaped ';' (regexpMark ++ b) ++ more) =
      (regexpMark ++ tightened b) :: gatherTransforms none more := by
  have hwhole : isCompleteRegexp (regexpMark ++ tightened b) = true :=
    (isCompleteRegexp_mark _).trans hb.tightened.1
  rcases hb.exists_pieces with ⟨q, rfl, hsplit⟩ | ⟨first, init, lead, rfl, hsplit⟩
  · -- no semicolon cuts the body
    have hmark : Text.startsWith regexpMark (regexpMark ++ '/' :: (q ++ ['/'])) = true :=
      Text.startsWith_iff.2 (List.prefix_append _ _)
    rw [tightened_concat hsplit] at hwhole ⊢
    rw [splitUnescaped_mark hsplit, List.singleton_append, gatherTransforms]
    simp only [trim_mark_concat, hmark, if_true, hwhole]
  · -- the last piece closes it
    have hentry : regexpMark ++ tightened ('/' :: (first ++ glue init ++ ';' :: (lead ++ ['/']))) =
        regexpMark ++ '/' :: (Text.trimRight first ++ glue init) ++ ';' :: (lead ++ ['/']) := by
      rw [tightened_slash hsplit]
      simp
    rw [hentry] at hwhole ⊢
    rw [splitUnescaped_mark hsplit, List.cons_append, List.append_assoc,
      gatherTransforms_unfinished hb.unfinished_pieces, List.singleton_append, gatherTransforms_close hwhole]

/-- Pieces that are not marked are entries as they stand. -/
theorem gatherTransforms_plain {pieces : List Text}
    (h : ∀ piece ∈ pieces, Text.startsWith regexpMark (Text.trim piece) = false) (more : List Text) :
    gatherTransforms none (pieces ++ more) = pieces ++ gatherTransforms none more := by
  induction pieces with
  | nil => rfl
  | cons part pieces ih =>
    obtain ⟨hpart, hpieces⟩ := List.forall_mem_cons.1 h
    rw [List.cons_append, gatherTransforms]
    simp only [hpart, Bool.false_eq_true, if_false]
    rw [ih hpieces, List.cons_append]

/-- An item is read as entries of its own, all of them whole. -/
theorem exists_gatherTransforms_item {t : Text} (h : IsItem t) (more : List Text) :
    ∃ ts, (∀ e ∈ ts, isCompleteRegexp (Text.trim e) = true) ∧
      gatherTransforms none (splitUnescaped ';' t ++ more) = ts ++ gatherTransforms none more := by
  cases h with
  | @regexp b hb =>
    have hb : Delimited [';'] b := hb.delimited.mono (by simp)
    obtain ⟨hclosed, q, hq⟩ := hb.tightened
    refine ⟨[regexpMark ++ tightened b], List.forall_mem_singleton.2 ?_, gatherTransforms_body hb more⟩
    rw [hq] at hclosed ⊢
    rwa [trim_mark_concat, isCompleteRegexp_mark]
  | plain _ hbar hmark =>
    rw [splitUnescaped_of_notMem hbar]
    refine ⟨_, fun e he => ?_, gatherTransforms_plain hmark more⟩
    exact isCompleteRegexp_of_not_startsWith (hmark e he)

/-! ### Joined values -/

/-- What stands behind an item and a semicolon is read on its own. -/
theorem exists_splitTransforms_append {t : Text} (h : IsItem t) (u : Text) :
    ∃ ts, (∀ e ∈ ts, isCompleteRegexp (Text.trim e) = true) ∧
      splitTransforms (t ++ ';' :: u) = ts ++ splitTransforms u := by
  obtain ⟨ts, hts, hgather⟩ := exists_gatherTransforms_item h (splitUnescaped ';' u)
  refine ⟨ts, hts, ?_⟩
  rw [splitTransforms, splitUnescaped, splitUnescapedFrom_append (fun _ => rfl) h.getLast?_ne]
  exact hgather

/-- All entries of a value that was joined from items are whole. -/
theorem isCompleteRegexp_of_mem_splitTransforms {items : List Text} (h : ∀ t ∈ items, IsItem t) :
    ∀ e ∈ splitTransforms (Text.join [';'] items), isCompleteRegexp (Text.trim e) = true := by
  induction items with
  | nil => exact List.forall_mem_singleton.2 rfl
  | cons t items ih =>
    obtain ⟨ht, hitems⟩ := List.forall_mem_cons.1 h
    cases items with
    | nil =>
      obtain ⟨ts, hts, hgather⟩ := exists_gatherTransforms_item ht []
      have hentries : splitTransforms (Text.join [';'] [t]) = ts := by
        simpa [splitTransforms, Text.join, gatherTransforms] using hgather
      rwa [hentries]
    | cons u items =>
      obtain ⟨ts, hts, hentries⟩ := exists_splitTransforms_append ht (Text.join [';'] (u :: items))
      rw [Text.join_cons_cons, List.singleton_append, hentries]
      exact List.forall_mem_append.2 ⟨hts, ih hitems⟩

/-- In front of an ampersand in an item the last entry is not closed. -/
theorem exists_splitTransforms_within {a u : Text} (h : IsItem (a ++ '&' :: u)) :
    ∃ e, splitTransforms a = [e] ∧ isCompleteRegexp (Text.trim e) = false := by
  generalize ht : a ++ '&' :: u = t at h
  cases h with
  | plain hsep _ _ =>
    subst ht
    exact absurd (by simp) hsep
  | @regexp b hb =>
    -- the ampersand stands behind the first slash of the body
    obtain ⟨q, rfl⟩ : ∃ q, a = regexpMark ++ '/' :: q := by
      obtain ⟨p, rfl⟩ := hb.exists_eq_concat
      have hmark : '&' ∉ regexpMark ++ ['/'] := by decide
      have hwhole : a ++ '&' :: u = (regexpMark ++ ['/']) ++ (p ++ ['/']) := by simpa using ht
      rcases List.append_eq_append_iff.1 hwhole with ⟨v, hv, hu⟩ | ⟨q, rfl, -⟩
      · cases v with
        | nil => exact ⟨[], by simpa using hv.symm⟩
        | cons c v =>
          obtain rfl : '&' = c := (List.cons.inj hu).1
          exact absurd (by simp [hv]) hmark
      · exact ⟨q, by simp⟩
    have hb : IsBody ('/' :: (q ++ '&' :: u)) := by
      have hwhole : regexpMark ++ ('/' :: (q ++ '&' :: u)) = regexpMark ++ b := by simpa using ht
      exact List.append_cancel_left hwhole ▸ hb
    obtain ⟨first, pieces, hsplit, rfl⟩ := exists_splitUnescapedFrom_eq ';' false q
    have hopen := unfinished_of_glue (by simp) (by simp) (by decide) rfl hb.delimited
    refine ⟨regexpMark ++ '/' :: (Text.trimRight first ++ glue pieces), ?_, ?_⟩
    · rw [splitTransforms, splitUnescaped_mark hsplit, ← List.append_nil pieces, gatherTransforms_unfinished hopen]
      simp [gatherTransforms]
    · rw [trim_mark, isCompleteRegexp_mark]
      apply isCompleteBody_of_unfinished
      have hfirst : Unfinished first := by simpa using hopen [] List.nil_prefix
      cases pieces with
      | nil => simpa using hfirst.trimRight.trimRight
      | cons part pieces => exact (hfirst.trimRight_append (hopen _ List.prefix_rfl)).trimRight

/-- In front of an ampersand in a value that was joined from items the last entry is not closed. -/
theorem exists_getLast?_splitTransforms {items : List Text} (h : ∀ t ∈ items, IsItem t) {a u : Text}
    (hv : Text.join [';'] items = a ++ '&' :: u) :
    ∃ e, (splitTransforms a).getLast? = some e ∧ isCompleteRegexp (Text.trim e) = false := by
  induction items generalizing a with
  | nil =>
    have hnil : ([] : Text) = a ++ '&' :: u := hv
    cases a <;> cases hnil
  | cons t items ih =>
    obtain ⟨ht, hitems⟩ := List.forall_mem_cons.1 h
    cases items with
    | nil =>
      rw [Text.join_singleton] at hv
      obtain ⟨e, hsplit, he⟩ := exists_splitTransforms_within (hv ▸ ht)
      exact ⟨e, by rw [hsplit]; rfl, he⟩
    | cons t' items =>
      rw [Text.join_cons_cons, List.singleton_append] at hv
      rcases List.append_eq_append_iff.1 hv with ⟨w, rfl, hw⟩ | ⟨w, rfl, hw⟩
      · -- the ampersand stands behind the first item
        cases w with
        | nil => cases hw
        | cons c w =>
          obtain ⟨rfl, hrest⟩ := List.cons.inj hw
          obtain ⟨e, hlast, he⟩ := ih hitems hrest
          obtain ⟨ts, -, hentries⟩ := exists_splitTransforms_append ht w
          exact ⟨e, by rw [hentries, List.getLast?_append, hlast]; rfl, he⟩
      · -- it stands in the first item
        cases w with
        | nil => cases hw
        | cons c w =>
          obtain ⟨rfl, -⟩ := List.cons.inj hw
          obtain ⟨e, hsplit, he⟩ := exists_splitTransforms_within ht
          exact ⟨e, by rw [hsplit]; rfl, he⟩

end PageQuery.Query
