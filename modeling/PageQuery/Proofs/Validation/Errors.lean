import PageQuery.Proofs.Validation.Places

namespace PageQuery.Validation

/-!
# Where errors stand

* `Complaint`: what is wrong with a query, in words and as what stands where it is found;
* `Located`: an error that stands within a segment;
* `located_checkScheme`, `located_checkParameters`, `located_checkVariables`: the errors of segments;
* `isRun_of_mem_operatorRuns`: runs of operator characters are found whole;
* `position_le_of_mem_errors`, `exists_complaint_of_mem_errors`, `exists_segment_of_mem_errors`: the errors of a query;
* `errors_located`: all errors of a query, in the query and in print.
-/

open Query (Lexeme StandsBehind)

/-! ### Complaints -/

/-- A text starts at a place of a query and is a whole run of characters of operators. -/
def IsRun (q : Text) (i : Nat) (run : Text) : Prop :=
  run ≠ [] ∧ run.all isOperatorChar = true ∧
    ∃ before after, q = before ++ run ++ after ∧ before.length = i ∧
      before.getLast?.any isOperatorChar = false ∧ after.head?.any isOperatorChar = false

/-- What is wrong with a query. -/
inductive Complaint where
  | unknownScheme (word : Text)
  | missingColon (word : Text)
  | repeatedMark
  | openPlaceholder
  | unknownOperator (run : Text)

namespace Complaint

/-- A complaint in words. -/
def message : Complaint → Text
  | .unknownScheme word => "Invalid scheme \"" ++ word ++ "\""
  | .missingColon word => "Missing \":\" after scheme \"" ++ word ++ "\""
  | .repeatedMark => "Multiple \"?\" found in parameters. Use \"&\" to separate parameters"
  | .openPlaceholder => "Unmatched \"$\x7b\" in variable syntax"
  | .unknownOperator run => "Invalid operator \"" ++ run ++ "\""

/-- Whether what is complained about stands at a place of a query. A missing colon is missed behind the word. -/
def StandsAt (q : Text) (i : Nat) : Complaint → Prop
  | .unknownScheme word => word ++ [':'] <+: q.drop i
  | .missingColon word => word ≠ [] ∧ word <:+ q.take i
  | .repeatedMark => q[i]? = some '?'
  | .openPlaceholder => ['$', '\x7b'] <+: q.drop i
  | .unknownOperator run => IsRun q i run

/-- What the words of a complaint start with. -/
def opening : Complaint → Text
  | .unknownScheme _ => "Invalid s"
  | .missingColon _ => "Missing \""
  | .repeatedMark => "Multiple "
  | .openPlaceholder => "Unmatched"
  | .unknownOperator _ => "Invalid o"

theorem take_message (k : Complaint) : k.message.take 9 = k.opening := by
  cases k <;> rfl

/-- The words of a complaint tell which one it is. -/
theorem message_injective {k k' : Complaint} (h : k.message = k'.message) : k = k' := by
  have hopening : k.opening = k'.opening := by rw [← take_message, ← take_message, h]
  have hquoted : ∀ {lead word word' : Text}, lead ++ word ++ "\"".toList = lead ++ word' ++ "\"".toList →
      word = word' := fun heq => List.append_cancel_left (List.append_cancel_right heq)
  cases k with
  | unknownScheme word =>
    cases k' with
    | unknownScheme word' => rw [hquoted h]
    | _ => exact absurd hopening (by dsimp only [opening]; decide)
  | missingColon word =>
    cases k' with
    | missingColon word' => rw [hquoted h]
    | _ => exact absurd hopening (by dsimp only [opening]; decide)
  | repeatedMark =>
    cases k' with
    | repeatedMark => rfl
    | _ => exact absurd hopening (by dsimp only [opening]; decide)
  | openPlaceholder =>
    cases k' with
    | openPlaceholder => rfl
    | _ => exact absurd hopening (by dsimp only [opening]; decide)
  | unknownOperator run =>
    cases k' with
    | unknownOperator run' => rw [hquoted h]
    | _ => exact absurd hopening (by dsimp only [opening]; decide)

/-- The words of a complaint about a query on one line are on one line. -/
theorem notMem_message {q : Text} {i : Nat} {k : Complaint} (hq : '\n' ∉ q) (h : k.StandsAt q i) :
    '\n' ∉ k.message := by
  have hquoted : ∀ {lead word : Text}, '\n' ∉ lead → '\n' ∉ word → '\n' ∉ lead ++ word ++ "\"".toList := by
    intro lead word hlead hword
    have hquote : '\n' ∉ "\"".toList := by decide
    simp only [List.mem_append, hlead, hword, hquote, or_self, not_false_eq_true]
  cases k with
  | unknownScheme word =>
    refine hquoted (by decide) fun hmem => hq ?_
    exact List.mem_of_mem_drop (h.mem (List.mem_append_left _ hmem))
  | missingColon word => exact hquoted (by decide) fun hmem => hq (List.mem_of_mem_take (h.2.mem hmem))
  | repeatedMark | openPlaceholder =>
    show '\n' ∉ String.toList _
    decide
  | unknownOperator run =>
    obtain ⟨-, -, before, after, rfl, -⟩ := h
    exact hquoted (by decide) fun hmem => hq (List.mem_append_left _ (List.mem_append_right _ hmem))

end Complaint

/-! ### Errors of segments -/

/-- An error tells of a segment, stands within it, and complains about what stands there. -/
structure Located (q : Text) (p : Placed) (f : Finding) : Prop where
  part_eq : f.part = some p.index
  offset_le : p.offset ≤ f.position
  le_stop : f.position ≤ p.offset + p.text.length
  stands : ∃ k : Complaint, f.message = k.message ∧ k.StandsAt q f.position

section

variable {q : Text} {p : Placed} {f : Finding}

/-- Errors about schemes stand at the scheme, or behind the word that may be one. -/
theorem located_checkScheme (hp : p.text <+: q.drop p.offset) (hf : f ∈ checkScheme p) : Located q p f := by
  have hword : p.text.takeWhile isLowerLetter <+: p.text := List.takeWhile_prefix _
  have hsplit : p.text = p.text.takeWhile isLowerLetter ++ p.text.drop (p.text.takeWhile isLowerLetter).length :=
    (List.prefix_iff_eq_append.1 hword).symm
  unfold checkScheme at hf
  dsimp only at hf
  split at hf
  · cases hf
  · next rest hempty hrest =>
    split at hf
    · cases hf
    · obtain rfl := List.mem_singleton.1 hf
      refine ⟨rfl, Nat.le_refl _, Nat.le_add_right _ _, .unknownScheme _, rfl, ?_⟩
      have hcolon : p.text.takeWhile isLowerLetter ++ [':'] <+: p.text.drop 0 := by
        refine ⟨rest, ?_⟩
        rw [hrest] at hsplit
        rw [List.append_assoc, List.singleton_append, ← hsplit, List.drop_zero]
      exact prefixed_of_segment hp hcolon
  · next hempty _ =>
    split at hf
    · cases hf
    · obtain rfl := List.mem_singleton.1 hf
      have hlength := hword.length_le
      refine ⟨rfl, Nat.le_add_right _ _, Nat.add_le_add_left hlength _, .missingColon _, rfl, ?_, ?_⟩
      · intro hnil
        rw [hnil] at hempty
        cases hempty
      · refine suffixed_of_segment hp ?_ hlength
        rw [← List.prefix_iff_eq_take.1 hword]

/-- Errors about question marks stand at one of them. -/
theorem located_checkParameters (hp : p.text <+: q.drop p.offset) (hf : f ∈ checkParameters p) :
    Located q p f := by
  unfold checkParameters at hf
  cases hcut : Text.cut '?' p.text with
  | mk path body =>
    rw [hcut] at hf
    cases body with
    | none => cases hf
    | some body =>
      obtain ⟨⟨c, i⟩, hmem, rfl⟩ := List.mem_map.1 hf
      obtain ⟨hplace, hmark⟩ := List.mem_filter.1 hmem
      obtain rfl : c = '?' := by
        rw [Bool.and_eq_true, beq_iff_eq] at hmark
        exact hmark.1
      have hbody : body[i]? = some '?' := List.mem_zipIdx_iff_getElem?.1 hplace
      have hsplit := Text.eq_of_cut_eq_some hcut
      -- the marks that are counted stand behind the first one
      have htext : p.text[path.length + 1 + i]? = some '?' := by
        rw [hsplit, Nat.add_assoc, List.getElem?_append_right (Nat.le_add_right _ _), Nat.add_sub_cancel_left,
          Nat.add_comm 1 i, List.getElem?_cons_succ, hbody]
      obtain ⟨hbound, -⟩ := List.getElem?_eq_some_iff.1 htext
      have hposition : p.offset + path.length + 1 + i = p.offset + (path.length + 1 + i) := by omega
      refine ⟨rfl, ?_, ?_, .repeatedMark, rfl, ?_⟩
      · show p.offset ≤ p.offset + path.length + 1 + i
        omega
      · show p.offset + path.length + 1 + i ≤ p.offset + p.text.length
        omega
      · show q[p.offset + path.length + 1 + i]? = some '?'
        rw [hposition]
        exact getElem?_of_segment hp htext

/-- The placeholder that is found to be open starts where it is said to. -/
theorem prefixed_of_openPlace? {t rest : Text} {depth outer i j : Nat} (hrest : t.drop i = rest)
    (houter : depth ≠ 0 → ['$', '\x7b'] <+: t.drop outer) (h : openPlace? depth outer i rest = some j) :
    ['$', '\x7b'] <+: t.drop j := by
  -- while a placeholder is open, the place that is kept is the start of the outermost one
  fun_induction openPlace? depth outer i rest with
  | case1 => cases h
  | case2 depth outer i hdepth =>
    obtain rfl := Option.some.inj h
    exact houter hdepth
  | case3 depth outer i rest ih =>
    refine ih ?_ (fun _ => ?_) h
    · rw [← List.drop_drop, hrest]
      rfl
    · split
      · exact ⟨rest, hrest.symm⟩
      · next hdepth => exact houter hdepth
  | case4 depth outer i c rest _ ih =>
    refine ih ?_ (fun hdepth => houter ?_) h
    · rw [← List.drop_drop, hrest]
      rfl
    · rintro rfl
      split at hdepth <;> exact hdepth rfl

/-- Errors about placeholders stand at the start of one. -/
theorem located_checkVariables (hp : p.text <+: q.drop p.offset) (hf : f ∈ checkVariables p) :
    Located q p f := by
  unfold checkVariables at hf
  split at hf
  · cases hf
  · next i hopen =>
    obtain rfl := List.mem_singleton.1 hf
    have hstart : ['$', '\x7b'] <+: p.text.drop i :=
      prefixed_of_openPlace? List.drop_zero (fun h => absurd rfl h) hopen
    have hlength := hstart.length_le
    rw [List.length_drop] at hlength
    refine ⟨rfl, Nat.le_add_right _ _, Nat.add_le_add_left ?_ _, .openPlaceholder, rfl,
      prefixed_of_segment hp hstart⟩
    change 2 ≤ p.text.length - i at hlength
    omega

end

/-! ### Errors about operators -/

/-- Behind the characters that are taken none is left to be taken. -/
theorem drop_takeWhile (p : Char → Bool) (t : Text) :
    ∃ rest, t = t.takeWhile p ++ rest ∧ t.drop (t.takeWhile p).length = rest ∧ rest.head?.any p = false := by
  have hsplit : t = t.takeWhile p ++ t.dropWhile p := List.takeWhile_append_dropWhile.symm
  have hdrop : ∀ {taken rest : Text}, t = taken ++ rest → t.drop taken.length = rest := by
    rintro taken rest rfl
    exact List.drop_left
  refine ⟨t.dropWhile p, hsplit, hdrop hsplit, ?_⟩
  · have hhead := List.head?_dropWhile_not p t
    revert hhead
    cases (t.dropWhile p).head? with
    | none => exact fun _ => rfl
    | some c => exact id

/-- Runs of operator characters are found whole, if the search does not start inside of one. -/
theorem isRun_of_mem_operatorRuns {q t run : Text} {i fuel : Nat} {prev next : Option Char} (before : Text)
    (last : Option Char) (hq : q = before ++ t)
    (hstart : before.getLast?.any isOperatorChar = false ∨ t.head?.any isOperatorChar = false)
    (h : (i, prev, run, next) ∈ operatorRuns last before.length fuel t) : IsRun q i run := by
  -- a run is passed over as a whole, so that the search never goes on from inside of one
  induction fuel generalizing before t last with
  | zero => cases h
  | succ fuel ih =>
    cases t with
    | nil => cases h
    | cons c t =>
      rw [operatorRuns] at h
      split at h
      · next hc =>
        obtain ⟨rest, ht, hdrop, hrest⟩ := drop_takeWhile isOperatorChar t
        have hq' : q = (before ++ c :: t.takeWhile isOperatorChar) ++ rest := by
          rw [hq, List.append_assoc, List.cons_append, ← ht]
        simp only [List.length_cons, Nat.add_sub_cancel, hdrop] at h
        rcases List.mem_cons.1 h with h | h
        · obtain ⟨rfl, -, rfl, -⟩ : i = before.length ∧ prev = last ∧ run = c :: t.takeWhile isOperatorChar ∧
            next = rest.head? := by simpa using h
          have hbefore : before.getLast?.any isOperatorChar = false :=
            hstart.resolve_right fun hhead => by simp [hc] at hhead
          exact ⟨List.cons_ne_nil _ _, by simp [hc], before, rest, hq', rfl, hbefore, hrest⟩
        · refine ih _ (c :: t.takeWhile isOperatorChar).getLast? hq' (.inr hrest) ?_
          rwa [List.length_append, List.length_cons]
      · next hc =>
        refine ih (t := t) (before ++ [c]) (some c) ?_ (.inl ?_) ?_
        · rw [hq, List.append_assoc, List.singleton_append]
        · rw [List.getLast?_concat, Option.any_some]
          exact Bool.eq_false_iff.2 hc
        · rwa [List.length_append, List.length_singleton]

/-- Errors about operators stand at a run of operator characters that is none. -/
theorem exists_of_mem_checkOperators {q : Text} {f : Finding} (hf : f ∈ checkOperators q) :
    f.part = none ∧ ∃ run, f.message = (Complaint.unknownOperator run).message ∧ IsRun q f.position run := by
  obtain ⟨⟨i, prev, run, next⟩, hmem, rfl⟩ := List.mem_map.1 hf
  refine ⟨rfl, run, rfl, ?_⟩
  exact isRun_of_mem_operatorRuns [] none rfl (.inl rfl) (List.mem_filter.1 hmem).1

/-! ### All errors -/

/-- An error of a query is one of a segment, or one about operators. -/
theorem cases_of_mem_errors {q : Text} {f : Finding} (hf : f ∈ (validate q).errors) :
    (∃ p ∈ segmentsOf q, Located q p f) ∨
      f.part = none ∧ ∃ run, f.message = (Complaint.unknownOperator run).message ∧ IsRun q f.position run := by
  have herrors : (validate q).errors =
      (segmentsOf q).flatMap (fun p => checkScheme p ++ checkParameters p ++ checkVariables p) ++
        checkOperators q := rfl
  rw [herrors, List.mem_append, List.mem_flatMap] at hf
  refine hf.imp ?_ exists_of_mem_checkOperators
  rintro ⟨p, hp, hf⟩
  obtain ⟨before, hstands, -⟩ := standsBehind_of_mem_segmentsOf hp
  refine ⟨p, hp, ?_⟩
  rw [List.mem_append, List.mem_append] at hf
  rcases hf with (hf | hf) | hf
  · exact located_checkScheme hstands.prefixed hf
  · exact located_checkParameters hstands.prefixed hf
  · exact located_checkVariables hstands.prefixed hf

/-- A run ends within the query. -/
theorem IsRun.le_length {q run : Text} {i : Nat} (h : IsRun q i run) : i ≤ q.length := by
  obtain ⟨-, -, before, after, rfl, rfl, -⟩ := h
  simp only [List.length_append]
  omega

section

variable {q : Text} {f : Finding}

/-- Errors stand within the query, or at its end. -/
theorem position_le_of_mem_errors (hf : f ∈ (validate q).errors) : f.position ≤ q.length := by
  rcases cases_of_mem_errors hf with ⟨p, hp, hlocated⟩ | ⟨-, run, -, hrun⟩
  · obtain ⟨before, hstands, -⟩ := standsBehind_of_mem_segmentsOf hp
    exact hlocated.le_stop.trans hstands.bound
  · exact hrun.le_length

/-- Errors complain about what stands at their place. -/
theorem exists_complaint_of_mem_errors (hf : f ∈ (validate q).errors) :
    ∃ k : Complaint, f.message = k.message ∧ k.StandsAt q f.position := by
  rcases cases_of_mem_errors hf with ⟨p, -, hlocated⟩ | ⟨-, run, hmessage, hrun⟩
  · exact hlocated.stands
  · exact ⟨.unknownOperator run, hmessage, hrun⟩

/-- Errors that tell of a segment stand within it, or at its end. -/
theorem exists_segment_of_mem_errors (hf : f ∈ (validate q).errors) {i : Nat} (hi : f.part = some i) :
    ∃ before offset t, StandsBehind q before offset t ∧ (before.filterMap Lexeme.segment?).length = i ∧
      offset ≤ f.position ∧ f.position ≤ offset + t.length := by
  rcases cases_of_mem_errors hf with ⟨p, hp, hlocated⟩ | ⟨hpart, -⟩
  · obtain ⟨before, hstands, hindex⟩ := standsBehind_of_mem_segmentsOf hp
    obtain rfl : p.index = i := Option.some.inj (hlocated.part_eq.symm.trans hi)
    exact ⟨before, p.offset, p.text, hstands, hindex, hlocated.offset_le, hlocated.le_stop⟩
  · rw [hpart] at hi
    cases hi

end

/-- Every error of a query is a complaint about something that stands at its place. If it tells of a segment, it
    stands within that segment or at its end. In print, the fourth line of the error has a mark that starts under
    the place on the third line, which shows the query. -/
theorem errors_located {q : Text} {f : Finding} (hf : f ∈ (validate q).errors) :
    f.position ≤ q.length ∧
      (∃ k : Complaint, f.message = k.message) ∧
      (∀ k : Complaint, f.message = k.message → k.StandsAt q f.position) ∧
      (∀ i, f.part = some i → ∃ before offset t, StandsBehind q before offset t ∧
        (before.filterMap Lexeme.segment?).length = i ∧ offset ≤ f.position ∧
        f.position ≤ offset + t.length) ∧
      ('\n' ∉ q → ∃ headline shown column rest,
        Text.split '\n' (f.text .error q) =
          headline :: [] :: shown :: (List.replicate column ' ' ++ "^^^".toList) :: rest ∧
        ShowsAt q f.position shown column ∧
        (f.position < q.length → shown[column]? = q[f.position]?) ∧
        (f.position = q.length → column = shown.length)) := by
  have hbound := position_le_of_mem_errors hf
  obtain ⟨k, hk, hstands⟩ := exists_complaint_of_mem_errors hf
  -- in print the place is all that counts, whatever the error is about
  refine ⟨hbound, ⟨k, hk⟩, fun k' hk' => ?_, fun i hi => exists_segment_of_mem_errors hf hi, fun hq => ?_⟩
  · rwa [← Complaint.message_injective (hk.symm.trans hk')]
  · have hmessage : '\n' ∉ f.message := hk ▸ Complaint.notMem_message hq hstands
    obtain ⟨rest, hlines⟩ := split_text hq hmessage .error
    have hshows := showsAt_shownLine hbound
    refine ⟨_, _, _, rest, hlines, hshows, hshows.getElem?_eq, fun hend => ?_⟩
    rw [hend] at hshows ⊢
    exact hshows.eq_length

/-- The second question mark of the second segment. -/
theorem errors_located_mark :
    ∃ f : Finding, f ∈ (validate "html:h1 ++ json:a?b=1?c").errors ∧ f.position = 21 ∧ f.part = some 1 ∧
      Complaint.repeatedMark.StandsAt "html:h1 ++ json:a?b=1?c" f.position ∧
      ∃ headline shown column rest,
        Text.split '\n' (f.text .error "html:h1 ++ json:a?b=1?c") =
          headline :: [] :: shown :: (List.replicate column ' ' ++ "^^^".toList) :: rest ∧
        shown[column]? = some '?' := by
  obtain ⟨f, hf, hposition, hpart, hmessage⟩ : ∃ f : Finding, (validate "html:h1 ++ json:a?b=1?c").errors = [f] ∧
      f.position = 21 ∧ f.part = some 1 ∧ f.message = Complaint.repeatedMark.message := ⟨_, rfl, rfl, rfl, rfl⟩
  have hmem : f ∈ (validate "html:h1 ++ json:a?b=1?c").errors := hf ▸ List.mem_singleton_self f
  obtain ⟨-, -, hstands, -, hprint⟩ := errors_located hmem
  obtain ⟨headline, shown, column, rest, hlines, -, hcolumn, -⟩ := hprint (by decide)
  have hmark := hstands _ hmessage
  refine ⟨f, hmem, hposition, hpart, hmark, headline, shown, column, rest, hlines, ?_⟩
  rw [hcolumn (by rw [hposition]; decide)]
  exact hmark

end PageQuery.Validation
