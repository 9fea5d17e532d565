import PageQuery.Proofs.Query.Items

namespace PageQuery.Query

/-!
# Parameters that are written and read

The pairs of names and values that a text of parameters is joined from are found again when it is cut, although
values may hold ampersands: behind a backslash, or inside the body of a regular expression.

* `IsName`, `Carried`: names, and the values that a name can carry;
* `Steady`: values in which no ampersand separates, a condition that holds of their beginnings too;
* `paramPieces_steady`: how far one value is read;
* `splitParams_writtenParams`: a row of parameters is cut into its pairs.
-/

/-! ### Names and values -/

/-- A name: a letter of ASCII or an underscore, then letters, digits, underscores and hyphens. -/
def IsName (k : Text) : Prop :=
  ∃ c rest, k = c :: rest ∧ (c.isAlpha = true ∨ c = '_') ∧ ∀ d ∈ rest, d.isAlphanum = true ∨ d = '_' ∨ d = '-'

/-- The values that a name can carry. -/
inductive Carried : (key value : Text) → Prop where
  | body {b : Text} (h : IsBody b) : Carried "regexp" b
  | items {ts : List Text} (h : ∀ t ∈ ts, IsItem t) : Carried "transform" (Text.join [';'] ts)
  | text {k v : Text} (hregexp : k ≠ "regexp") (htransform : k ≠ "transform") (h : Guarded ['&'] v) : Carried k v

/-- A pair as it stands among parameters. -/
def writtenParam (p : Text × Text) : Text := p.1 ++ '=' :: p.2

/-- Pairs joined to a text of parameters. -/
def writtenParams (ps : List (Text × Text)) : Text := Text.join ['&'] (ps.map writtenParam)

/-- The characters of a name go on a name, and are no white space. -/
theorem IsName.forall_mem {k : Text} (h : IsName k) : ∀ c ∈ k, isNameChar c = true ∧ Text.isSpace c = false := by
  have hchar : ∀ c : Char, c.isAlphanum = true ∨ c = '_' ∨ c = '-' →
      isNameChar c = true ∧ Text.isSpace c = false := by
    rintro c (hc | rfl | rfl)
    · have hrange := Text.toNat_of_isAlphanum hc
      constructor
      · rw [isNameChar, Text.isWord, if_pos (by omega), hc]
        rfl
      · simp only [Text.isSpace, Text.inRanges, List.any_cons, List.any_nil, Bool.or_false, Bool.or_eq_false_iff,
          Bool.and_eq_false_iff, decide_eq_false_iff_not]
        omega
    · exact ⟨rfl, rfl⟩
    · exact ⟨rfl, rfl⟩
  obtain ⟨c, rest, rfl, hc, hrest⟩ := h
  refine List.forall_mem_cons.2 ⟨hchar c ?_, fun d hd => hchar d (hrest d hd)⟩
  rcases hc with hc | hc
  · exact .inl (by simp [Char.isAlphanum, hc])
  · exact .inr (.inl hc)

theorem IsName.notMem {k : Text} (h : IsName k) {c : Char} (hc : isNameChar c = false) : c ∉ k := by
  intro hmem
  rw [(h.forall_mem c hmem).1] at hc
  cases hc

theorem IsName.trim {k : Text} (h : IsName k) : Text.trim k = k :=
  Text.trim_of_forall fun c hc => (h.forall_mem c hc).2

/-- A name and an equals sign start a parameter. -/
theorem IsName.startsParam {k : Text} (h : IsName k) (t : Text) : startsParam (k ++ '=' :: t) = true := by
  have hname := h.forall_mem
  obtain ⟨c, rest, rfl, hc, -⟩ := h
  obtain ⟨-, hrest⟩ := List.forall_mem_cons.1 hname
  have hdrop : (rest ++ '=' :: t).dropWhile isNameChar = '=' :: t := by
    rw [List.dropWhile_append_of_pos fun d hd => (hrest d hd).1, List.dropWhile_cons_of_neg (by decide)]
  have hfirst : (c.isAlpha || c == '_') = true := by simpa using hc
  rw [List.cons_append, Query.startsParam, hdrop, hfirst]
  rfl

/-- A pair is cut again where it was joined. -/
theorem IsName.keyValue {k : Text} (h : IsName k) (v : Text) : keyValue (writtenParam (k, v)) = (k, v) := by
  rw [Query.keyValue, writtenParam, Text.cut_append (h.notMem (by decide))]
  rfl

/-! ### Ampersands in values -/

/-- No ampersand separates in a value: those that no backslash protects stand inside a regular expression. -/
def Steady (k v : Text) : Prop :=
  ∀ a b, v = a ++ '&' :: b → Guarded [] a → insideRegexp k a = true

/-- The beginning of a value holds no more ampersands than the value. -/
theorem Steady.of_prefix {k v w : Text} (h : Steady k v) (hw : w <+: v) : Steady k w := by
  obtain ⟨t, rfl⟩ := hw
  rintro a b rfl ha
  exact h a (b ++ t) (by simp) ha

namespace Carried

variable {k v : Text}

/-- A carried value reads as a whole. -/
theorem guarded (h : Carried k v) : Guarded [] v := by
  cases h with
  | body h => exact h.guarded
  | text _ _ h => exact h.mono (by simp)
  | @items ts h =>
    induction ts with
    | nil => exact .nil
    | cons t ts ih =>
      obtain ⟨ht, hts⟩ := List.forall_mem_cons.1 h
      cases ts with
      | nil => simpa [Text.join_singleton] using ht.guarded
      | cons u ts =>
        rw [Text.join_cons_cons]
        exact ht.guarded.append (.single (by decide) (by simp) (ih hts))

/-- At the end of a carried value no regular expression is open. -/
theorem insideRegexp_eq_false (h : Carried k v) : insideRegexp k v = false := by
  cases h with
  | body h =>
    rw [insideRegexp, if_pos rfl, isCompleteRegexp_mark, h.isCompleteBody]
    simp
  | @items ts h =>
    rw [insideRegexp, if_neg (by decide), if_pos rfl]
    cases hlast : (splitTransforms (Text.join [';'] ts)).getLast? with
    | none => rfl
    | some e => simp [isCompleteRegexp_of_mem_splitTransforms h e (List.mem_of_getLast? hlast)]
  | text hregexp htransform _ => rw [insideRegexp, if_neg hregexp, if_neg htransform]

theorem steady (h : Carried k v) : Steady k v := by
  rintro a u hv ha
  cases h with
  | text _ _ h =>
    subst hv
    exact absurd (List.mem_singleton.2 rfl) (ha.not_mem_stops h (by decide))
  | body h =>
    subst hv
    obtain ⟨q, rfl⟩ : ∃ q, a = '/' :: q := by
      obtain ⟨p, hp⟩ := h.exists_eq_concat
      cases a with
      | nil => cases hp
      | cons c q =>
        obtain ⟨rfl, -⟩ := List.cons.inj hp
        exact ⟨q, rfl⟩
    have hopen : isCompleteBody ('/' :: q) = false := isCompleteBody_of_unfinished (h.unfinished rfl)
    rw [insideRegexp, if_pos rfl, isCompleteRegexp_mark, hopen]
    rfl
  | items h =>
    obtain ⟨e, hlast, he⟩ := exists_getLast?_splitTransforms h hv
    rw [insideRegexp, if_neg (by decide), if_pos rfl, hlast]
    simp [he]

end Carried

/-! ### Reading a value -/

/-- A text is read as a whole up to its end, or up to an open backslash there. -/
theorem guarded_or_concat : (t : Text) → Guarded [] t ∨ ∃ u, Guarded [] u ∧ t = u ++ ['\\']
  | [] => .inl .nil
  | [c] => by
    by_cases hbar : c = '\\'
    · exact .inr ⟨[], .nil, by rw [hbar]; rfl⟩
    · exact .inl (.single hbar (by simp) .nil)
  | c :: d :: t => by
    by_cases hbar : c = '\\'
    · subst hbar
      rcases guarded_or_concat t with h | ⟨u, hu, rfl⟩
      · exact .inl (.escape d h)
      · exact .inr ⟨_, .escape d hu, rfl⟩
    · rcases guarded_or_concat (d :: t) with h | ⟨u, hu, heq⟩
      · exact .inl (.single hbar (by simp) h)
      · exact .inr ⟨_, .single hbar (by simp) hu, by rw [heq, List.cons_append]⟩

/-- Characters other than backslashes and ampersands are read one by one. -/
theorem paramPieces_cons {c : Char} (hbar : c ≠ '\\') (hsep : c ≠ '&') (current t : Text) :
    paramPieces current (c :: t) = paramPieces (c :: current) t := by
  rw [paramPieces]
  · rintro rfl
    exact absurd rfl hbar
  · rintro d rest rfl
    exact absurd rfl hbar
  · rintro rfl
    exact absurd rfl hsep

theorem paramPieces_append {t : Text} (h : ∀ c ∈ t, c ≠ '\\' ∧ c ≠ '&') (current u : Text) :
    paramPieces current (t ++ u) = paramPieces (t.reverse ++ current) u := by
  induction t generalizing current with
  | nil => rfl
  | cons c t ih =>
    obtain ⟨hc, ht⟩ := List.forall_mem_cons.1 h
    rw [List.cons_append, paramPieces_cons hc.1 hc.2, ih ht, List.reverse_cons, List.append_assoc,
      List.singleton_append]

/-- What has been read of a parameter, last character first. -/
def readParam (k read : Text) : Text := (writtenParam (k, read)).reverse

theorem cons_readParam (c : Char) (k read : Text) : c :: readParam k read = readParam k (read ++ [c]) := by
  simp [readParam, writtenParam]

/-- A steady value is read on as far as it reads as a whole. -/
theorem paramPieces_steady {k : Text} (hk : IsName k) {read rest : Text} (hread : Guarded [] read)
    (hrest : Guarded [] rest) (h : Steady k (read ++ rest)) (u : Text) :
    paramPieces (readParam k read) (rest ++ u) = paramPieces (readParam k (read ++ rest)) u := by
  induction hrest generalizing read with
  | nil => rw [List.append_nil, List.nil_append]
  | @escape c t _ ih =>
    have hassoc : read ++ '\\' :: c :: t = read ++ ['\\', c] ++ t := by simp
    have hpair : Guarded [] (read ++ ['\\', c]) := hread.append (.escape c .nil)
    rw [hassoc] at h ⊢
    rw [List.cons_append, List.cons_append, paramPieces, cons_readParam, cons_readParam, List.append_assoc]
    exact ih hpair h
  | @single c t hbar hstop _ ih =>
    have hassoc : read ++ c :: t = read ++ [c] ++ t := by simp
    have hone : Guarded [] (read ++ [c]) := hread.append (.single hbar hstop .nil)
    rw [hassoc] at h ⊢
    by_cases hsep : c = '&'
    · subst hsep
      have hinside : insideRegexp k read = true := h read t (by simp) hread
      have hkey : keyValue (readParam k read).reverse = (k, read) := by
        rw [readParam, List.reverse_reverse, hk.keyValue]
      rw [List.cons_append, paramPieces, hkey]
      simp only [hinside, Bool.not_true, Bool.false_and, Bool.false_eq_true, if_false, cons_readParam]
      exact ih hone h
    · rw [List.cons_append, paramPieces_cons hbar hsep, cons_readParam]
      exact ih hone h

/-- A parameter is read up to its value. -/
theorem paramPieces_name {k : Text} (hk : IsName k) (v : Text) :
    paramPieces [] (writtenParam (k, v)) = paramPieces (readParam k []) v := by
  have hname : ∀ c ∈ k, c ≠ '\\' ∧ c ≠ '&' := by
    intro c hc
    refine ⟨?_, ?_⟩ <;> rintro rfl
    · exact hk.notMem (by decide) hc
    · exact hk.notMem (by decide) hc
  rw [writtenParam, paramPieces_append hname, paramPieces_cons (by decide) (by decide)]
  simp [readParam, writtenParam]

/-- The last parameter is read to its end. -/
theorem paramPieces_last {k v : Text} (hk : IsName k) (h : Steady k v) :
    paramPieces [] (writtenParam (k, v)) = [writtenParam (k, v)] := by
  rw [paramPieces_name hk]
  rcases guarded_or_concat v with hv | ⟨u, hu, rfl⟩
  · have hread := paramPieces_steady hk .nil hv h []
    rw [List.append_nil, List.nil_append] at hread
    rw [hread, paramPieces, readParam, List.reverse_reverse]
  · have hread := paramPieces_steady hk .nil hu (h.of_prefix (List.prefix_append u _)) ['\\']
    rw [List.nil_append] at hread
    rw [hread, paramPieces, cons_readParam, readParam, List.reverse_reverse]

/-- A parameter in front of another one is read up to the ampersand between them. -/
theorem paramPieces_more {k v t : Text} (hk : IsName k) (hv : Carried k v) (ht : startsParam t = true) :
    paramPieces [] (writtenParam (k, v) ++ '&' :: t) = writtenParam (k, v) :: paramPieces [] t := by
  have hwhole : writtenParam (k, v) ++ '&' :: t = writtenParam (k, v ++ '&' :: t) := by simp [writtenParam]
  have hread := paramPieces_steady hk .nil hv.guarded hv.steady ('&' :: t)
  have hkey : keyValue (readParam k v).reverse = (k, v) := by
    rw [readParam, List.reverse_reverse, hk.keyValue]
  rw [List.nil_append] at hread
  rw [hwhole, paramPieces_name hk, hread, paramPieces, hkey]
  simp only [hv.insideRegexp_eq_false, ht, Bool.not_false, Bool.and_true, if_true, readParam, List.reverse_reverse]

/-! ### Rows of parameters -/

theorem writtenParams_cons_cons (p q : Text × Text) (ps : List (Text × Text)) :
    writtenParams (p :: q :: ps) = writtenParam p ++ '&' :: writtenParams (q :: ps) := by
  simp [writtenParams, Text.join_cons_cons]

/-- A row starts with its first parameter. -/
theorem startsParam_writtenParams {p : Text × Text} (hp : IsName p.1) (ps : List (Text × Text)) :
    startsParam (writtenParams (p :: ps)) = true := by
  cases ps with
  | nil =>
    have hone : writtenParams [p] = writtenParam p := by simp [writtenParams, Text.join]
    rw [hone]
    exact hp.startsParam p.2
  | cons q ps =>
    rw [writtenParams_cons_cons, writtenParam, List.append_assoc]
    exact hp.startsParam _

/-- The parameters of a row, of which the last value may be any steady one. -/
theorem paramPieces_writtenParams {ps : List (Text × Text)} {k v : Text}
    (hps : ∀ p ∈ ps, IsName p.1 ∧ Carried p.1 p.2) (hk : IsName k) (hv : Steady k v) :
    paramPieces [] (writtenParams (ps ++ [(k, v)])) = (ps ++ [(k, v)]).map writtenParam := by
  induction ps with
  | nil => simpa [writtenParams, Text.join] using paramPieces_last hk hv
  | cons p ps ih =>
    obtain ⟨⟨hp, hcarried⟩, hps⟩ := List.forall_mem_cons.1 hps
    obtain ⟨q, qs, hrow, hq⟩ : ∃ q qs, ps ++ [(k, v)] = q :: qs ∧ IsName q.1 := by
      cases ps with
      | nil => exact ⟨(k, v), [], rfl, hk⟩
      | cons q ps => exact ⟨q, _, rfl, (hps q List.mem_cons_self).1⟩
    have hrest := ih hps
    rw [List.cons_append, hrow] at *
    rw [writtenParams_cons_cons, paramPieces_more hp hcarried (startsParam_writtenParams hq qs), hrest]
    rfl

/-- A row of parameters is cut into its pairs. -/
theorem splitParams_writtenParams {ps : List (Text × Text)} {k v : Text}
    (hps : ∀ p ∈ ps, IsName p.1 ∧ Carried p.1 p.2) (hk : IsName k) (hv : Steady k v) :
    splitParams (writtenParams (ps ++ [(k, v)])) = ps ++ [(k, v)] := by
  have hnames : ∀ p ∈ ps ++ [(k, v)], IsName p.1 :=
    List.forall_mem_append.2 ⟨fun p hp => (hps p hp).1, List.forall_mem_singleton.2 hk⟩
  have hfilter : ((ps ++ [(k, v)]).map writtenParam).filter (! ·.isEmpty) = (ps ++ [(k, v)]).map writtenParam := by
    refine List.filter_eq_self.2 fun piece hpiece => ?_
    obtain ⟨p, -, rfl⟩ := List.mem_map.1 hpiece
    simp [writtenParam]
  rw [splitParams, paramPieces_writtenParams hps hk hv, hfilter, List.map_map]
  refine (List.map_congr_left fun p hp => ?_).trans (List.map_id _)
  have hkey : keyValue (writtenParam p) = p := (hnames p hp).keyValue p.2
  simp only [Function.comp_apply, hkey, (hnames p hp).trim, id_eq]

end PageQuery.Query
