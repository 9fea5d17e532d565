import Mathlib.Data.List.Infix
import PageQuery.Proofs.Number.Digits
import PageQuery.Proofs.Query.Places
import PageQuery.Validation.Check
import PageQuery.Validation.Report

namespace PageQuery.Validation

/-!
# Places in a query

The segments that are checked are told with their numbers and with the places where they start. What is found at a
place of a segment is found in the query behind its start.

A report shows the query on a line of its own, or what stands around a place if the query is long, and a mark on
the next line. The mark starts under the place.

* `IsListed`: a segment among pieces, with its number and its place, and `isListed_of_getElem?_stretches`;
* `standsBehind_of_mem_segmentsOf`: a checked segment is one of the query, and stands where it is said to;
* `prefixed_of_segment`, `suffixed_of_segment`, `getElem?_of_segment`: what stands at a place of a segment;
* `window`: from where to where a query is shown;
* `ShowsAt`: a line that shows a place of a query at a column;
* `showsAt_shownLine`: the place is shown where the mark starts;
* `split_text`: the lines of a finding in words.
-/

open Query (Lexeme StandsBehind)

/-! ### Segments -/

/-- Some pieces, of which the first starts at a place, hold a segment with a number at a place: it is the segment in
    one of the pieces, counted among the segments and placed behind the text of the pieces before it. -/
def IsListed (ls : List Lexeme) (start i offset : Nat) (t : Text) : Prop :=
  ∃ before u after, ls = before ++ .plain u :: after ∧ (Lexeme.plain u).segment? = some t ∧
    offset = start + ((before.flatMap Lexeme.text).length + (u.length - (Text.trimLeft u).length)) ∧
    (before.filterMap Lexeme.segment?).length = i

/-- One more piece in front moves a segment behind its text, and is counted if it holds a segment itself. -/
theorem IsListed.cons {l : Lexeme} {ls : List Lexeme} {start i offset : Nat} {t : Text}
    (h : IsListed ls (start + l.text.length) i offset t) :
    IsListed (l :: ls) start (i + l.segment?.toList.length) offset t := by
  obtain ⟨before, u, after, rfl, hu, rfl, rfl⟩ := h
  refine ⟨l :: before, u, after, rfl, hu, ?_, ?_⟩
  · rw [List.flatMap_cons, List.length_append]
    omega
  · cases hl : l.segment? with
    | none => rw [List.filterMap_cons_none hl]; rfl
    | some v => rw [List.filterMap_cons_some hl]; rfl

/-- The stretches of text that are told among pieces are the segments in them. -/
theorem isListed_of_getElem?_stretches {ls : List Lexeme} {start i offset : Nat} {t : Text}
    (h : (stretches start ls)[i]? = some (offset, t)) : IsListed ls start i offset t := by
  induction ls generalizing start i with
  | nil => cases h
  | cons l ls ih =>
    cases l with
    | separator op => exact (ih h).cons (l := .separator op)
    | plain v =>
      by_cases hv : (Text.trim v).isEmpty
      · have hsegment : (Lexeme.plain v).segment? = none := by simp [Lexeme.segment?, hv]
        have hrest : (stretches (start + v.length) ls)[i]? = some (offset, t) := by simpa [stretches, hv] using h
        have hlisted := (ih hrest).cons (l := .plain v)
        rwa [hsegment] at hlisted
      · have hsegment : (Lexeme.plain v).segment? = some (Text.trim v) := by simp [Lexeme.segment?, hv]
        have hhere : stretches start (.plain v :: ls) =
            (start + (v.length - (Text.trimLeft v).length), Text.trim v) ::
              stretches (start + v.length) ls := by simp [stretches, hv]
        rw [hhere] at h
        cases i with
        | zero =>
          obtain ⟨rfl, rfl⟩ : start + (v.length - (Text.trimLeft v).length) = offset ∧ Text.trim v = t := by
            simpa using h
          exact ⟨[], v, ls, rfl, hsegment, by simp, rfl⟩
        | succ i =>
          have hlisted := (ih h).cons (l := .plain v)
          rwa [hsegment] at hlisted

/-- A segment that is checked stands in the query where it is said to start, and has the number that it is said to
    have. -/
theorem standsBehind_of_mem_segmentsOf {q : Text} {p : Placed} (hp : p ∈ segmentsOf q) :
    ∃ before, StandsBehind q before p.offset p.text ∧ (before.filterMap Lexeme.segment?).length = p.index := by
  obtain ⟨⟨⟨offset, t⟩, i⟩, hmem, rfl⟩ := List.mem_map.1 hp
  obtain ⟨before, u, after, hsplit, hu, rfl, hcount⟩ :=
    isListed_of_getElem?_stretches (List.mem_zipIdx_iff_getElem?.1 hmem)
  refine ⟨before, ?_, hcount⟩
  have hstands := Query.standsBehind_of_split hsplit hu
  rwa [← Nat.zero_add (_ + _)] at hstands

section

variable {q t w : Text} {offset i : Nat}

/-- What stands at a place of a segment stands behind its start. -/
theorem prefixed_of_segment (ht : t <+: q.drop offset) (hw : w <+: t.drop i) : w <+: q.drop (offset + i) := by
  rw [← List.drop_drop]
  exact hw.trans (ht.drop i)

/-- What stands in front of a place of a segment stands behind its start. -/
theorem suffixed_of_segment (ht : t <+: q.drop offset) (hw : w <:+ t.take i) (hi : i ≤ t.length) :
    w <:+ q.take (offset + i) := by
  have htake : t.take i = (q.drop offset).take i := by
    obtain ⟨rest, hrest⟩ := ht
    rw [← hrest, List.take_append_of_le_length hi]
  rw [List.take_add, ← htake]
  exact hw.trans (List.suffix_append _ _)

/-- The character at a place of a segment stands behind its start. -/
theorem getElem?_of_segment {c : Char} (ht : t <+: q.drop offset) (hc : t[i]? = some c) :
    q[offset + i]? = some c := by
  obtain ⟨rest, hrest⟩ := ht
  obtain ⟨hi, -⟩ := List.getElem?_eq_some_iff.1 hc
  rw [← List.getElem?_drop, ← hrest, List.getElem?_append_left hi, hc]

end

/-! ### Windows -/

/-- From where to where a query is shown for a place in it. -/
def window (q : Text) (i : Nat) : Nat × Nat :=
  if 2 * radius < q.length then (min (i - radius) q.length, min (i + radius) q.length) else (0, q.length)

/-- A window ends within the query, and the place is in it, unless it is the end of the query. -/
theorem window_bounds {q : Text} {i : Nat} (hi : i ≤ q.length) :
    (window q i).1 ≤ i ∧ i ≤ (window q i).2 ∧ (window q i).2 ≤ q.length ∧
      (i < q.length → i < (window q i).2) := by
  have hradius : 0 < radius := by decide
  unfold window
  split
  · dsimp only
    omega
  · dsimp only
    omega

/-- The dots in front of a window that does not start with the query. -/
def leadOf (q : Text) (i : Nat) : Text := if 0 < (window q i).1 then "..." else []

/-- The dots behind a window that does not end with the query. -/
def tailOf (q : Text) (i : Nat) : Text := if (window q i).2 < q.length then "..." else []

/-- The line that shows a query for a place in it. -/
def shownLine (q : Text) (i : Nat) : Text :=
  "Query: " ++ leadOf q i ++ Text.slice (window q i).1 (window q i).2 q ++ tailOf q i

/-- The column at which the mark for a place starts. -/
def markColumn (q : Text) (i : Nat) : Nat := 7 + (leadOf q i).length + (i - (window q i).1)

/-- A snippet is the line that shows the query, with the mark on the next line. -/
theorem snippet_eq (q : Text) (i : Nat) (pointer : Text) :
    snippet q i pointer = shownLine q i ++ '\n' :: (List.replicate (markColumn q i) ' ' ++ pointer) := by
  have hlines : snippet q i pointer =
      shownLine q i ++ ('\n' :: List.replicate (markColumn q i) ' ') ++ pointer := rfl
  rw [hlines, List.append_assoc, List.cons_append]

/-! ### Places on a line -/

/-- A line shows a place of a query at a column: in front of it stands the end of what the query has before the
    place, and at it the start of what the query has there. What is left out on either side is marked by dots, and
    behind the place only if something is shown there. -/
def ShowsAt (q : Text) (i : Nat) (shown : Text) (column : Nat) : Prop :=
  ∃ lead before after tail : Text,
    shown = "Query: ".toList ++ lead ++ before ++ after ++ tail ∧
    column = ("Query: ".toList ++ lead ++ before).length ∧
    before <:+ q.take i ∧ after <+: q.drop i ∧
    (lead = [] ∧ before = q.take i ∨ lead = "...".toList) ∧
    (tail = [] ∧ after = q.drop i ∨ tail = "...".toList ∧ after ≠ [])

namespace ShowsAt

variable {q shown : Text} {i column : Nat}

/-- At the column stands the character that stands at the place. -/
theorem getElem?_eq (h : ShowsAt q i shown column) (hi : i < q.length) : shown[column]? = q[i]? := by
  obtain ⟨lead, before, after, tail, rfl, rfl, -, hafter, -, htail⟩ := h
  obtain ⟨c, rest, hdrop⟩ : ∃ c rest, q.drop i = c :: rest :=
    List.exists_cons_of_ne_nil fun hnil => by
      have hlength := congrArg List.length hnil
      rw [List.length_drop, List.length_nil] at hlength
      omega
  have hplace : q[i]? = some c := by
    rw [← List.head?_drop, hdrop, List.head?_cons]
  -- something of the query is shown behind the place
  obtain ⟨shown, rfl⟩ : ∃ shown, after = c :: shown := by
    have hne : after ≠ [] := by
      rcases htail with ⟨-, rfl⟩ | ⟨-, hne⟩
      · rw [hdrop]
        exact List.cons_ne_nil c rest
      · exact hne
    obtain ⟨d, shown, rfl⟩ := List.exists_cons_of_ne_nil hne
    rw [hdrop, List.cons_prefix_cons] at hafter
    exact ⟨shown, by rw [hafter.1]⟩
  rw [hplace, List.append_assoc _ (c :: shown), List.getElem?_append_right (Nat.le_refl _), Nat.sub_self]
  rfl

/-- The end of the query is shown at the end of the line. -/
theorem eq_length (h : ShowsAt q q.length shown column) : column = shown.length := by
  obtain ⟨lead, before, after, tail, rfl, rfl, -, hafter, -, htail⟩ := h
  rw [List.drop_length, List.prefix_nil] at hafter
  subst hafter
  rcases htail with ⟨rfl, -⟩ | ⟨-, hne⟩
  · rw [List.append_nil, List.append_nil]
  · exact absurd rfl hne

end ShowsAt

/-- Of a stretch of text that a place is in, part stands before the place and part behind it. -/
theorem slice_eq_append {start stop i : Nat} (q : Text) (hstart : start ≤ i) (hstop : i ≤ stop) :
    Text.slice start stop q = (q.take i).drop start ++ (q.drop i).take (stop - i) := by
  have hsize : stop - start = (i - start) + (stop - i) := by omega
  have hplace : (q.drop start).drop (i - start) = q.drop i := by
    rw [List.drop_drop, Nat.add_sub_cancel' hstart]
  rw [Text.slice, hsize, List.take_add, hplace, List.drop_take]

/-- A place is shown where its mark starts. -/
theorem showsAt_shownLine {q : Text} {i : Nat} (hi : i ≤ q.length) :
    ShowsAt q i (shownLine q i) (markColumn q i) := by
  obtain ⟨hstart, hstop, hend, hinside⟩ := window_bounds hi
  refine ⟨leadOf q i, (q.take i).drop (window q i).1, (q.drop i).take ((window q i).2 - i), tailOf q i,
    ?_, ?_, List.drop_suffix _ _, List.take_prefix _ _, ?_, ?_⟩
  · unfold shownLine
    rw [slice_eq_append q hstart hstop]
    simp only [List.append_assoc]
  · have hword : "Query: ".toList.length = 7 := by decide
    rw [markColumn, List.length_append, List.length_append, hword, List.length_drop, List.length_take,
      Nat.min_eq_left hi]
  · rw [leadOf]
    split
    · exact .inr rfl
    · next hzero =>
      rw [Nat.eq_zero_of_not_pos hzero, List.drop_zero]
      exact .inl ⟨rfl, rfl⟩
  · rw [tailOf]
    split
    · next hcut =>
      refine .inr ⟨rfl, fun hnil => ?_⟩
      have hlength := congrArg List.length hnil
      rw [List.length_take, List.length_drop, List.length_nil] at hlength
      omega
    · refine .inl ⟨rfl, List.take_of_length_le ?_⟩
      rw [List.length_drop]
      omega

/-- A query on one line is shown on one line. -/
theorem notMem_shownLine {q : Text} (hq : '\n' ∉ q) (i : Nat) : '\n' ∉ shownLine q i := by
  have hslice : '\n' ∉ Text.slice (window q i).1 (window q i).2 q := fun hmem =>
    hq (List.mem_of_mem_drop (List.mem_of_mem_take hmem))
  have hlead : '\n' ∉ leadOf q i := by
    rw [leadOf]
    split <;> decide
  have htail : '\n' ∉ tailOf q i := by
    rw [tailOf]
    split <;> decide
  have hword : '\n' ∉ "Query: ".toList := by decide
  unfold shownLine
  simp only [List.mem_append, hslice, hlead, htail, hword, or_self, not_false_eq_true]

/-! ### Findings in words -/

/-- The first line of a finding in words. -/
def headline (severity : Severity) (f : Finding) : Text :=
  severity.word ++ " at position " ++ Text.ofNat f.position ++
    (match f.part with
      | some i => " (in query part " ++ Text.ofNat (i + 1) ++ ")"
      | none => []) ++ ": " ++ f.message

theorem notMem_ofNat (n : Nat) : '\n' ∉ Text.ofNat n := fun hmem => by
  have hdigit := Numeral.isDigit_of_mem_ofNat hmem
  revert hdigit
  decide

/-- The first line of a finding is one line if its message is. -/
theorem notMem_headline {f : Finding} (hf : '\n' ∉ f.message) (severity : Severity) :
    '\n' ∉ headline severity f := by
  have hword : '\n' ∉ severity.word := by cases severity <;> decide
  have hposition := notMem_ofNat f.position
  cases hpart : f.part with
  | none => simp [headline, hpart, hword, hposition, hf]
  | some i => simp [headline, hpart, hword, hposition, hf, notMem_ofNat (i + 1)]

/-- A finding in words has a headline, an empty line, the line that shows the query, and the line with the mark. -/
theorem split_text {q : Text} {f : Finding} (hq : '\n' ∉ q) (hf : '\n' ∉ f.message) (severity : Severity) :
    ∃ rest, Text.split '\n' (f.text severity q) =
      headline severity f :: [] :: shownLine q f.position ::
        (List.replicate (markColumn q f.position) ' ' ++ severity.pointer) :: rest := by
  let others : List Text := [f.suggestion, f.example_].filter fun t => !t.isEmpty
  have hmark : '\n' ∉ List.replicate (markColumn q f.position) ' ' ++ severity.pointer := by
    have hpointer : '\n' ∉ severity.pointer := by cases severity <;> decide
    rw [List.mem_append, not_or]
    exact ⟨fun hmem => absurd (List.eq_of_mem_replicate hmem) (by decide), hpointer⟩
  have htext : f.text severity q = headline severity f ++ '\n' :: ([] ++ '\n' :: (shownLine q f.position ++
      '\n' :: ((List.replicate (markColumn q f.position) ' ' ++ severity.pointer) ++
        '\n' :: Text.join ['\n'] ([] :: others)))) := by
    show Text.join ['\n'] (headline severity f :: [] :: snippet q f.position severity.pointer :: [] :: others) = _
    rw [Text.join_cons_cons, Text.join_cons_cons, Text.join_cons_cons, snippet_eq]
    simp only [List.append_assoc, List.cons_append, List.nil_append]
  refine ⟨Text.split '\n' (Text.join ['\n'] ([] :: others)), ?_⟩
  rw [htext, Text.split_append_cons (notMem_headline hf severity), Text.split_append_cons List.not_mem_nil,
    Text.split_append_cons (notMem_shownLine hq f.position), Text.split_append_cons hmark]

end PageQuery.Validation
