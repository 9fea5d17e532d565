import Mathlib.Tactic.Choose
import PageQuery.Proofs.Path.Heritable
import PageQuery.Proofs.Path.Parts

namespace PageQuery.Path

/-!
# Alternatives in a path

A part of a path lists keys. With commas between them the results of all of them are joined, with bars the first that
leads somewhere counts, and one with a mark behind it always does. What follows in the path is done for each of them on
its own.

* `Choice`: a key in such a list, with a mark or without;
* `firstOf`: what a list with bars comes to;
* `alternatives_union`, `alternatives_first`: the results that are gathered from left to right;
* `data_alternatives`: both forms, in a path that goes on.
-/

/-- A key in a list of alternatives, which may be marked as one that always counts. -/
structure Choice where
  key : Text
  marked : Bool
  deriving Repr, DecidableEq

/-- How a choice is written. -/
def Choice.text (c : Choice) : Text := if c.marked then c.key ++ ['!'] else c.key

/-- The results of the first choice that has any, and after them those of the later choices with a mark. -/
def firstOf (results : Choice → Results) : List Choice → Results
  | [] => []
  | c :: cs => if results c = [] then firstOf results cs else results c ++ (cs.filter (·.marked)).flatMap results

/-- Without marks, the first results that are not empty are all there is. -/
theorem firstOf_of_unmarked (results : Choice → Results) {cs : List Choice} (h : ∀ c ∈ cs, c.marked = false) :
    firstOf results cs = ((cs.map results).find? (!·.isEmpty)).getD [] := by
  induction cs with
  | nil => rfl
  | cons c cs ih =>
    obtain ⟨-, hcs⟩ := List.forall_mem_cons.1 h
    have hnone : cs.filter (·.marked) = [] := List.filter_eq_nil_iff.2 fun d hd => by simp [hcs d hd]
    rw [firstOf, ih hcs, hnone, List.map_cons, List.find?_cons]
    cases hresults : results c with
    | nil => rfl
    | cons v vs => exact List.append_nil _

/-! ### Choices as texts -/

/-- A choice is written without separators, wildcards or white space at its ends. -/
theorem Choice.text_spec {c : Choice} (h : IsPart c.key) :
    (Query.Unseparated Query.wildcards c.text ∧ c.text ≠ [] ∧ Text.trim c.text = c.text) ∧ isWild c.text = false ∧
      '/' ∉ c.text := by
  have hplain : ∀ d ∈ ("/|,&*?" : Text), d ∉ c.text := by
    intro d hd
    rw [Choice.text]
    split
    · have hmark : d ≠ '!' := by
        rintro rfl
        exact absurd hd (by decide)
      simpa [hmark] using h.plain d hd
    · exact h.plain d hd
  have hne : c.text ≠ [] := by
    rw [Choice.text]
    split
    · simp
    · exact h.ne_nil
  have htrim : Text.trim c.text = c.text := by
    rw [Choice.text]
    split
    · rw [Text.trim_append_cons rfl, (Text.trimLeft_and_trimRight_of_trim h.trim_eq).1]
      rfl
    · exact h.trim_eq
  have hwild : isWild c.text = false := by
    rw [isWild, Bool.or_eq_false_iff]
    simpa using And.intro (hplain '*' (by decide)) (hplain '?' (by decide))
  refine ⟨⟨fun d hd hmem => ?_, hne, htrim⟩, hwild, hplain '/' (by decide)⟩
  obtain rfl | rfl | rfl : d = '|' ∨ d = ',' ∨ d = '&' := by simpa [Query.wildcards] using hmem
  all_goals exact hplain _ (by decide) hd

/-! ### Gathering results -/

section

variable {go : Text → Except Numeral.Error (List Value)} {results : Choice → Results} {found : Results}
  {required : Bool}

/-- A choice that is required adds its results. -/
theorem alternatives_choice {c : Choice} (h : IsAlternative c.key) (hgo : go c.key = .ok (results c))
    (hcounts : found = [] ∨ required = true ∨ c.marked = true) (keys : List Text) :
    alternatives go found required (c.text :: keys) =
      alternatives go (found ++ results c) (required || c.marked) keys := by
  rw [Choice.text]
  cases hmarked : c.marked with
  | true =>
    rw [if_pos rfl, h.alternatives_marked, hgo, Bool.or_true]
    rfl
  | false =>
    have hnot : ¬(found ≠ [] ∧ required = false) := by
      rintro ⟨hfound, hrequired⟩
      simp [hfound, hrequired, hmarked] at hcounts
    rw [if_neg Bool.false_ne_true, h.alternatives_cons, if_neg hnot, hgo, Bool.or_false]
    rfl

/-- A choice that is neither required nor needed adds nothing. -/
theorem alternatives_unneeded {c : Choice} (h : IsAlternative c.key) (hmarked : c.marked = false) (hfound : found ≠ [])
    (keys : List Text) : alternatives go found false (c.text :: keys) = alternatives go found false keys := by
  rw [Choice.text, hmarked, if_neg Bool.false_ne_true, h.alternatives_cons, if_pos ⟨hfound, rfl⟩]

/-- Behind a comma, all choices add their results. -/
theorem alternatives_commas {cs : List Choice} (h : ∀ c ∈ cs, IsAlternative c.key ∧ go c.key = .ok (results c)) :
    alternatives go found required (cs.flatMap fun c => [[','], c.text]) = .ok (found ++ cs.flatMap results) := by
  induction cs generalizing found required with
  | nil => rw [List.flatMap_nil, alternatives, List.flatMap_nil, List.append_nil]
  | cons c cs ih =>
    obtain ⟨⟨hkey, hgo⟩, hcs⟩ := List.forall_mem_cons.1 h
    rw [List.flatMap_cons, List.cons_append, List.singleton_append, alternatives_comma,
      alternatives_choice hkey hgo (.inr (.inl rfl)), ih hcs, List.flatMap_cons, List.append_assoc]

/-- Behind a bar, the choices with a mark add their results if there are some already. -/
theorem alternatives_bars {cs : List Choice} (h : ∀ c ∈ cs, IsAlternative c.key ∧ go c.key = .ok (results c))
    (hfound : found ≠ []) :
    alternatives go found required (cs.flatMap fun c => [['|'], c.text]) =
      .ok (found ++ (cs.filter (·.marked)).flatMap results) := by
  induction cs generalizing found required with
  | nil => rw [List.flatMap_nil, alternatives, List.filter_nil, List.flatMap_nil, List.append_nil]
  | cons c cs ih =>
    obtain ⟨⟨hkey, hgo⟩, hcs⟩ := List.forall_mem_cons.1 h
    rw [List.flatMap_cons, List.cons_append, List.singleton_append, alternatives_bar]
    cases hmarked : c.marked with
    | true =>
      have hmore : found ++ results c ≠ [] := fun hnil => hfound (List.append_eq_nil_iff.1 hnil).1
      rw [alternatives_choice hkey hgo (.inr (.inr hmarked)), ih hcs hmore, List.filter_cons_of_pos hmarked,
        List.flatMap_cons, List.append_assoc]
    | false =>
      rw [alternatives_unneeded hkey hmarked hfound, ih hcs hfound, List.filter_cons_of_neg (by simp [hmarked])]

/-- Choices with commas between them come to the results of all. -/
theorem alternatives_union {c : Choice} {cs : List Choice}
    (h : ∀ d ∈ c :: cs, IsAlternative d.key ∧ go d.key = .ok (results d)) :
    alternatives go [] true (c.text :: cs.flatMap fun d => [[','], d.text]) = .ok ((c :: cs).flatMap results) := by
  obtain ⟨⟨hkey, hgo⟩, hcs⟩ := List.forall_mem_cons.1 h
  rw [alternatives_choice hkey hgo (.inl rfl), alternatives_commas hcs, List.nil_append, List.flatMap_cons]

/-- Choices with bars between them come to the first results, and to those of the later choices with a mark. -/
theorem alternatives_first {c : Choice} {cs : List Choice}
    (h : ∀ d ∈ c :: cs, IsAlternative d.key ∧ go d.key = .ok (results d)) :
    alternatives go [] required (c.text :: cs.flatMap fun d => [['|'], d.text]) = .ok (firstOf results (c :: cs)) := by
  induction cs generalizing c required with
  | nil =>
    obtain ⟨hkey, hgo⟩ := List.forall_mem_singleton.1 h
    rw [alternatives_choice hkey hgo (.inl rfl), List.flatMap_nil, alternatives, firstOf]
    split
    · next hnil => rw [hnil]; rfl
    · simp
  | cons d cs ih =>
    obtain ⟨⟨hkey, hgo⟩, hcs⟩ := List.forall_mem_cons.1 h
    rw [alternatives_choice hkey hgo (.inl rfl), List.nil_append, firstOf]
    split
    · next hnil =>
      rw [hnil, List.flatMap_cons, List.cons_append, List.singleton_append, alternatives_bar]
      exact ih hcs
    · next hfound => exact alternatives_bars hcs hfound

end

/-! ### In a path -/

/-- A part that is joined from choices leads on from each of them. -/
theorem walk_choices {sep : Char} (hsep : sep = '|' ∨ sep = ',') {c : Choice} {cs : List Choice}
    (h : ∀ d ∈ c :: cs, IsPart d.key) (rest : List Text) (v : Value) :
    walk (Text.join [sep] ((c :: cs).map Choice.text) :: rest) v =
      alternatives (fun key => step v key >>= walk rest) [] true
        (c.text :: cs.flatMap fun d => [[sep], d.text]) := by
  have htexts : ∀ t ∈ (c :: cs).map Choice.text,
      (Query.Unseparated Query.wildcards t ∧ t ≠ [] ∧ Text.trim t = t) ∧ isWild t = false :=
    List.forall_mem_map.2 fun d hd => ⟨(Choice.text_spec (h d hd)).1, (Choice.text_spec (h d hd)).2.1⟩
  have hmem : [sep] ∈ Query.alternatives ∧ Text.isSpace sep = false := by
    rcases hsep with rfl | rfl <;> decide
  have hpieces : piecesOf Query.alternatives (Text.join [sep] (c.text :: cs.map Choice.text)) =
      c.text :: cs.flatMap fun d => [[sep], d.text] := by
    rw [piecesOf_join_trimmed single_alternatives hmem.1 hmem.2, List.flatMap_map]
    intro t ht
    obtain ⟨⟨hunseparated, htrimmed⟩, -⟩ := htexts t ht
    exact ⟨fun d hd hd' => hunseparated d hd (List.mem_of_mem_take (i := 2) hd'), htrimmed⟩
  rw [List.map_cons, walk_cons, expand_join hsep v htexts]
  exact congrArg (alternatives _ [] true) hpieces

/-- The parts of a path that starts with choices. -/
theorem parts_choices {sep : Char} (hsep : sep = '|' ∨ sep = ',') {cs : List Choice} (hne : cs ≠ [])
    (h : ∀ c ∈ cs, IsPart c.key) {rest : Text} (hrest : rest = [] ∨ ['/'] <+: rest) :
    parts (Text.join [sep] (cs.map Choice.text) ++ rest) = Text.join [sep] (cs.map Choice.text) :: parts rest := by
  obtain ⟨c, cs, rfl⟩ := List.exists_cons_of_ne_nil hne
  have hspec := fun d hd => Choice.text_spec (h d hd)
  rw [List.map_cons]
  refine parts_append (fun hslash => ?_) ?_ hrest
  · have hsep' : '/' ≠ sep := by
      rcases hsep with rfl | rfl <;> decide
    rw [← flatten_pieces, List.mem_flatten] at hslash
    obtain ⟨t, ht, hslash⟩ := hslash
    rcases List.mem_cons.1 ht with rfl | ht
    · exact (hspec c List.mem_cons_self).2.2 hslash
    · obtain ⟨u, hu, ht⟩ := List.mem_flatMap.1 ht
      obtain ⟨d, hd, rfl⟩ := List.mem_map.1 hu
      rcases List.mem_cons.1 ht with rfl | ht
      · exact hsep' (List.mem_singleton.1 hslash)
      · rw [List.mem_singleton.1 ht] at hslash
        exact (hspec d (List.mem_cons_of_mem c hd)).2.2 hslash
  · obtain ⟨u, hu⟩ := Text.exists_join_cons [sep] c.text (cs.map Choice.text)
    rw [hu]
    exact List.append_ne_nil_of_left_ne_nil (hspec c List.mem_cons_self).1.2.1 u

/-- In data, a part that lists keys with commas between them comes to the results that the path has with each of the
    keys in its place, one after the other. With bars between them it comes to the first of these results that are not
    empty, followed by those of the later keys with a mark; without marks that is nothing more than the first results
    that are not empty, or none. -/
theorem data_alternatives {d : Value} (hd : d.IsJson) {cs : List Choice} (hne : cs ≠ [])
    (hcs : ∀ c ∈ cs, IsPart c.key) {rest : Text} (hrest : rest = [] ∨ ['/'] <+: rest) :
    ∃ results : Choice → Results,
      (∀ c ∈ cs, data d (c.key ++ rest) = .ok (results c)) ∧
      data d (Text.join [','] (cs.map Choice.text) ++ rest) = .ok (cs.flatMap results) ∧
      data d (Text.join ['|'] (cs.map Choice.text) ++ rest) = .ok (firstOf results cs) ∧
      ((∀ c ∈ cs, c.marked = false) → firstOf results cs = ((cs.map results).find? (!·.isEmpty)).getD []) := by
  choose found hfound using fun path => exists_data hd path
  have hgo : ∀ c ∈ cs, IsAlternative c.key ∧ (step d c.key >>= walk (parts rest)) = .ok (found (c.key ++ rest)) := by
    intro c hc
    have hpart := hcs c hc
    have hdata := hfound (c.key ++ rest)
    rw [data_eq_walk, parts_append hpart.slash_notMem hpart.ne_nil hrest,
      walk_of_expand (hpart.expand_eq d) hpart.isAlternative] at hdata
    exact ⟨hpart.isAlternative, hdata⟩
  obtain ⟨c, cs, rfl⟩ := List.exists_cons_of_ne_nil hne
  refine ⟨fun c => found (c.key ++ rest), fun c _ => hfound _, ?_, ?_, firstOf_of_unmarked _⟩
  · rw [data_eq_walk, parts_choices (.inr rfl) hne hcs hrest, walk_choices (.inr rfl) hcs]
    exact alternatives_union hgo
  · rw [data_eq_walk, parts_choices (.inl rfl) hne hcs hrest, walk_choices (.inl rfl) hcs]
    exact alternatives_first hgo

/-- Of four keys, the first leads to nothing, the second and third to one value each, and the last, which is marked, to
    a list. -/
theorem data_alternatives_marked :
    ∃ d : Value, d = .map [(.text "a", .null), (.text "b", .map [(.text "x", .int 1)]),
        (.text "c", .map [(.text "x", .int 2)]), (.text "d", .map [(.text "x", .list [.int 3, .int 4])])] ∧
      d.IsJson ∧ (∀ c ∈ [Choice.mk "a" false, ⟨"b", false⟩, ⟨"c", false⟩, ⟨"d", true⟩], IsPart c.key) ∧
      data d "a,b,c,d!/x" = .ok [.int 1, .int 2, .int 3, .int 4] ∧
      data d "a|b|c|d!/x" = .ok [.int 1, .int 3, .int 4] := by
  refine ⟨_, rfl, ?_⟩
  generalize hd : Value.map _ = d
  have hjson : d.IsJson := by
    have hx : ∀ v : Value, v.IsJson → (Value.map [(.text "x", v)]).IsJson := fun v hv =>
      .map (List.forall_mem_singleton.2 ⟨_, rfl⟩) (List.forall_mem_singleton.2 hv)
    subst hd
    refine .map ?_ ?_ <;> simp only [List.forall_mem_cons]
    · exact ⟨⟨_, rfl⟩, ⟨_, rfl⟩, ⟨_, rfl⟩, ⟨_, rfl⟩, List.forall_mem_nil _⟩
    · refine ⟨.scalar trivial, hx _ (.scalar trivial), hx _ (.scalar trivial), hx _ (.list ?_), List.forall_mem_nil _⟩
      exact List.forall_mem_cons.2 ⟨.scalar trivial, List.forall_mem_singleton.2 (.scalar trivial)⟩
  have hcs : ∀ c ∈ [Choice.mk "a" false, ⟨"b", false⟩, ⟨"c", false⟩, ⟨"d", true⟩], IsPart c.key := by
    simp only [List.forall_mem_cons]
    refine ⟨?_, ?_, ?_, ?_, List.forall_mem_nil _⟩ <;>
      exact ⟨by decide, Text.forall_mem_of_all (by decide), rfl, by decide, by decide⟩
  obtain ⟨results, hone, hunion, hfirst, -⟩ := data_alternatives hjson (List.cons_ne_nil _ _) hcs
    (.inr ⟨"x", rfl⟩ : ("/x" : Text) = [] ∨ ['/'] <+: "/x")
  have ha : results ⟨"a", false⟩ = [] := Except.ok.inj ((hone _ (by simp)).symm.trans (by subst hd; rfl))
  have hb : results ⟨"b", false⟩ = [.int 1] := Except.ok.inj ((hone _ (by simp)).symm.trans (by subst hd; rfl))
  have hc : results ⟨"c", false⟩ = [.int 2] := Except.ok.inj ((hone _ (by simp)).symm.trans (by subst hd; rfl))
  have hmarked : results ⟨"d", true⟩ = [.int 3, .int 4] :=
    Except.ok.inj ((hone _ (by simp)).symm.trans (by subst hd; rfl))
  refine ⟨hjson, hcs, hunion.trans ?_, hfirst.trans ?_⟩
  · rw [List.flatMap_cons, List.flatMap_cons, List.flatMap_cons, List.flatMap_singleton, ha, hb, hc, hmarked]
    rfl
  · rw [firstOf, ha, if_pos rfl, firstOf, hb, if_neg (List.cons_ne_nil _ _)]
    show Except.ok ([.int 1] ++ [Choice.mk "d" true].flatMap results) = _
    rw [List.flatMap_singleton, hmarked]
    rfl

end PageQuery.Path
