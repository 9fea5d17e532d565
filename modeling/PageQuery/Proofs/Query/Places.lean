import PageQuery.Proofs.Query.Reading

namespace PageQuery.Query

/-!
# Where the segments of a query stand

* `StandsBehind`: a segment as it stands in the text of a query, behind some pieces of it;
* `StandsBehind.prefixed`, `StandsBehind.bound`: it can be read in the text where it starts;
* `exists_first_of_parse_eq_error`: a query that is not parsed fails at the first of its segments that does;
* `source_of_parseSegment_eq_error`: the error names the text of that segment.
-/

/-! ### Segments among pieces -/

/-- The segment in a piece of a query: what stands between operators, without the white space around it, if there is
    anything else. -/
def Lexeme.segment? : Lexeme → Option Text
  | .separator _ => none
  | .plain t => if (Text.trim t).isEmpty then none else some (Text.trim t)

/-- Segments are found alike in pieces and in tokens. -/
theorem bind_plain?_trimmed? (l : Lexeme) : l.trimmed?.bind Lexeme.plain? = l.segment? := by
  cases l with
  | separator s => rfl
  | plain t => by_cases ht : (Text.trim t).isEmpty <;> simp [Lexeme.trimmed?, Lexeme.segment?, Lexeme.plain?, ht]

/-- The segments among the tokens of a query are those in its pieces. -/
theorem filterMap_plain?_tokens (q : Text) :
    (tokens q).filterMap Lexeme.plain? = (split operators q).filterMap Lexeme.segment? := by
  rw [tokens, List.filterMap_filterMap]
  exact congrArg (List.filterMap · _) (funext bind_plain?_trimmed?)

/-- A segment is found in a stretch of text, and has no white space around it. -/
theorem eq_of_segment?_eq_some {l : Lexeme} {t : Text} (h : l.segment? = some t) :
    ∃ u, l = .plain u ∧ t = Text.trim u ∧ t ≠ [] := by
  cases l with
  | separator s => cases h
  | plain u =>
    rw [Lexeme.segment?] at h
    split at h
    · cases h
    · next hu =>
      obtain rfl := Option.some.inj h
      exact ⟨u, rfl, rfl, fun hnil => hu (List.isEmpty_iff.2 hnil)⟩

/-! ### Places -/

/-- A text is a segment of a query and stands behind some of its pieces: with white space around it, it makes up
    the stretch of text that follows them, and it starts behind their text and the white space. -/
structure StandsBehind (q : Text) (before : List Lexeme) (offset : Nat) (t : Text) : Prop where
  ne_nil : t ≠ []
  trim_eq : Text.trim t = t
  exists_split : ∃ lead tail after, split operators q = before ++ .plain (lead ++ t ++ tail) :: after ∧
    Text.isBlank lead = true ∧ Text.isBlank tail = true ∧
    offset = (before.flatMap Lexeme.text).length + lead.length

/-- Behind some pieces of a query the segment in the next one stands. -/
theorem standsBehind_of_split {q u t : Text} {before after : List Lexeme}
    (h : split operators q = before ++ .plain u :: after) (hu : (Lexeme.plain u).segment? = some t) :
    StandsBehind q before ((before.flatMap Lexeme.text).length + (u.length - (Text.trimLeft u).length)) t := by
  obtain ⟨v, hv, rfl, hne⟩ := eq_of_segment?_eq_some hu
  obtain rfl : u = v := Lexeme.plain.inj hv
  obtain ⟨lead, tail, hlead, htail, hsplit, hlength⟩ := Text.exists_eq_append_trim u
  refine ⟨hne, Text.trim_trim u, lead, tail, after, ?_, hlead, htail, by rw [hlength]⟩
  rw [← hsplit, h]

namespace StandsBehind

variable {q t : Text} {before : List Lexeme} {offset : Nat}

/-- A segment can be read in the query where it starts. -/
theorem prefixed (h : StandsBehind q before offset t) : t <+: q.drop offset := by
  obtain ⟨lead, tail, after, hsplit, -, -, rfl⟩ := h.exists_split
  have hq : q = (before.flatMap Lexeme.text ++ lead) ++ (t ++ (tail ++ after.flatMap Lexeme.text)) := by
    rw [← split_text nil_notMem_operators q, hsplit, List.flatMap_append, List.flatMap_cons]
    simp [Lexeme.text]
  rw [hq, ← List.length_append, List.drop_left]
  exact List.prefix_append t _

/-- A segment ends within the query. -/
theorem bound (h : StandsBehind q before offset t) : offset + t.length ≤ q.length := by
  have hlength := h.prefixed.length_le
  have hpos := List.length_pos_iff.2 h.ne_nil
  rw [List.length_drop] at hlength
  omega

end StandsBehind

/-! ### Queries that are not parsed -/

/-- The error of a segment that is not parsed names its text. -/
theorem source_of_parseSegment_eq_error {t : Text} {e : FormatError} (ht : Text.trim t = t)
    (h : parseSegment t true false = .error e) : e.source = t := by
  have hgather : ∀ {params pairs}, gatherParams t params pairs = .error e → e.source = t := by
    intro params pairs hpairs
    induction pairs generalizing params with
    | nil => cases hpairs
    | cons x pairs ih =>
      rw [gatherParams] at hpairs
      split at hpairs
      · obtain rfl := Except.error.inj hpairs
        rfl
      · exact ih hpairs
  rw [parseSegment, ht] at h
  rcases bind_eq_error_iff.1 h with hscheme | ⟨x, -, h⟩
  · rw [detectScheme] at hscheme
    split at hscheme
    · cases hscheme
    · split at hscheme
      · cases hscheme
      · split at hscheme
        · cases hscheme
        · obtain rfl := Except.error.inj hscheme
          rfl
  · rcases bind_eq_error_iff.1 h with hparams | ⟨params, -, h⟩
    · exact hgather hparams
    · cases h

/-- A query that is not parsed fails with the error of the first of its segments that is not, over all its stages. -/
theorem exists_first_of_parse_eq_error {q : Text} {e : FormatError} (h : parse q = .error e) :
    ∃ before offset t, StandsBehind q before offset t ∧
      (∀ u ∈ before.filterMap Lexeme.segment?, ∃ s, parseSegment u true false = .ok s) ∧
      parseSegment t true false = .error e := by
  have hrow : ((split operators q).filterMap Lexeme.segment?).mapM (parseSegment · true false) = .error e := by
    rw [← filterMap_plain?_tokens, ← map_segments_parse, h]
    rfl
  obtain ⟨parsed, t, rest, hsegments, hparsed, ht⟩ := exists_first_of_mapM_eq_error hrow
  obtain ⟨before, piece, hpieces, hbefore, hrest⟩ := List.filterMap_eq_append_iff.1 hsegments
  obtain ⟨blanks, l, after, rfl, hblanks, hl, -⟩ := List.filterMap_eq_cons_iff.1 hrest
  obtain ⟨u, rfl, -, -⟩ := eq_of_segment?_eq_some hl
  have hsplit : split operators q = (before ++ blanks) ++ .plain u :: after := by
    rw [hpieces, List.append_assoc]
  refine ⟨before ++ blanks, _, t, standsBehind_of_split hsplit hl, ?_, ht⟩
  -- the pieces in between hold no segments
  have hnone : blanks.filterMap Lexeme.segment? = [] := List.filterMap_eq_nil_iff.2 hblanks
  rw [List.filterMap_append, hnone, List.append_nil, hbefore]
  exact hparsed

end PageQuery.Query
