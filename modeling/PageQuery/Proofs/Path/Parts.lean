import PageQuery.Path.Data
import PageQuery.Proofs.Except
import PageQuery.Proofs.Query.Lexing

namespace PageQuery

/-!
# The parts of a path and the keys that they list

A path is cut at its slashes, a part of it at the separators between keys, and each key may have a mark behind it. What
has none of these characters is read as it stands.

* `Path.parts_append`: the parts of a path that starts with a known part;
* `Path.piecesOf_join`: the pieces of a part that is joined from texts;
* `Path.IsAlternative`, `Path.IsPart`: keys that are read as they stand among others, and as parts of a path;
* `Path.alternatives_key`: what one key adds to the results;
* `Path.walk_of_expand`: a part that is one key.
-/

namespace Text

variable {t : Text}

/-- A text ends with a character if that is its last one. -/
theorem endsWith_singleton_iff {c : Char} : endsWith [c] t = true ↔ t.getLast? = some c := by
  rw [endsWith, startsWith_iff, List.reverse_singleton, List.getLast?_eq_head?_reverse]
  cases t.reverse <;> simp [eq_comm]

/-- A trimmed text has nothing to be trimmed at either end. -/
theorem trimLeft_and_trimRight_of_trim (h : trim t = t) : trimLeft t = t ∧ trimRight t = t := by
  have hsuffix : trimLeft t <:+ t := List.dropWhile_suffix _
  have hright : trimRight (trimLeft t) = t := h
  have hlength : t.length ≤ (trimLeft t).length := by
    have hle := (dropEndWhile_prefixed isSpace (trimLeft t)).length_le
    rwa [← trimRight, hright] at hle
  have hleft : trimLeft t = t := hsuffix.eq_of_length_le hlength
  exact ⟨hleft, by rwa [hleft] at hright⟩

end Text

namespace Path

/-! ### The parts of a path -/

/-- The parts of a path. -/
def parts (path : Text) : List Text := (Text.split '/' path).filter fun p => !p.isEmpty

theorem data_eq_walk (v : Value) (path : Text) : data v path = walk (parts path) v := rfl

theorem parts_slash (rest : Text) : parts ('/' :: rest) = parts rest := rfl

/-- A path without slashes is one part. -/
theorem parts_of_notMem {part : Text} (hslash : '/' ∉ part) (hne : part ≠ []) : parts part = [part] := by
  rw [parts, Text.split_of_notMem hslash, List.filter_cons, if_pos (by simpa using hne)]
  rfl

/-- A path that starts with a part goes on with the parts of the rest. -/
theorem parts_append {part rest : Text} (hslash : '/' ∉ part) (hne : part ≠ []) (hrest : rest = [] ∨ ['/'] <+: rest) :
    parts (part ++ rest) = part :: parts rest := by
  rcases hrest with rfl | ⟨rest, rfl⟩
  · rw [List.append_nil, parts_of_notMem hslash hne]
    rfl
  · rw [List.singleton_append, parts, Text.split_append_cons hslash, List.filter_cons, if_pos (by simpa using hne),
      parts_slash, parts]

/-- Parts that are joined are the parts of the path. -/
theorem parts_join {ps : List Text} (h : ∀ p ∈ ps, '/' ∉ p ∧ p ≠ []) : parts (Text.join ['/'] ps) = ps := by
  induction ps with
  | nil => rfl
  | cons p ps ih =>
    obtain ⟨⟨hslash, hne⟩, hps⟩ := List.forall_mem_cons.1 h
    cases ps with
    | nil => rw [Text.join_singleton, parts_of_notMem hslash hne]
    | cons q ps =>
      rw [Text.join_cons_cons, parts_append hslash hne (.inr (List.prefix_append ..)), List.singleton_append,
        parts_slash, ih hps]

/-! ### The pieces of a part -/

/-- The trimmed pieces of a part. -/
def piecesOf (seps : List Text) (part : Text) : List Text := (Query.split seps part).map fun l => Text.trim l.text

/-- The piece that a text without separators is, trimmed, unless it is empty. -/
def trimmedStretch (t : Text) : List Text := if t = [] then [] else [Text.trim t]

theorem map_trim_stretch (t : Text) :
    (Query.stretch t).map (fun l => Text.trim l.text) = trimmedStretch t := by
  cases t <;> rfl

theorem trimmedStretch_of_trim {t : Text} (hne : t ≠ []) (htrim : Text.trim t = t) : trimmedStretch t = [t] := by
  rw [trimmedStretch, if_neg hne, htrim]

section

variable {seps : List Text} {c : Char}

/-- Texts that are joined with a separator are the pieces between these separators. -/
theorem piecesOf_join (hseps : Query.Single seps) (hc : [c] ∈ seps) (hspace : Text.isSpace c = false) {t : Text}
    {ts : List Text} (h : ∀ u ∈ t :: ts, Query.Unseparated seps u) :
    piecesOf seps (Text.join [c] (t :: ts)) = trimmedStretch t ++ ts.flatMap fun u => [c] :: trimmedStretch u := by
  obtain ⟨ht, hts⟩ := List.forall_mem_cons.1 h
  have htrim : Text.trim [c] = [c] := Text.trim_of_forall (List.forall_mem_singleton.2 hspace)
  have hrest : ∀ u, (Query.Lexeme.separator [c] :: Query.stretch u).map (fun l => Text.trim l.text) =
      [c] :: trimmedStretch u := fun u => by
    rw [List.map_cons, map_trim_stretch, Query.Lexeme.text, htrim]
  rw [piecesOf, Query.split_join hseps hc ht hts, List.map_append, map_trim_stretch, List.map_flatMap]
  simp only [hrest]

/-- Trimmed texts that are joined are pieces as they stand. -/
theorem piecesOf_join_trimmed (hseps : Query.Single seps) (hc : [c] ∈ seps) (hspace : Text.isSpace c = false) {t : Text}
    {ts : List Text} (h : ∀ u ∈ t :: ts, Query.Unseparated seps u ∧ u ≠ [] ∧ Text.trim u = u) :
    piecesOf seps (Text.join [c] (t :: ts)) = t :: ts.flatMap fun u => [[c], u] := by
  obtain ⟨ht, hts⟩ := List.forall_mem_cons.1 h
  have hrest : ts.map (fun u => [c] :: trimmedStretch u) = ts.map fun u => [[c], u] :=
    List.map_congr_left fun u hu => by rw [trimmedStretch_of_trim (hts u hu).2.1 (hts u hu).2.2]
  rw [piecesOf_join hseps hc hspace fun u hu => (h u hu).1, trimmedStretch_of_trim ht.2.1 ht.2.2, List.flatMap_def,
    hrest, List.flatMap_def, List.singleton_append]

/-- A trimmed text without separators is one piece. -/
theorem piecesOf_unseparated (hseps : Query.Single seps) {t : Text} (ht : Query.Unseparated seps t) (hne : t ≠ [])
    (htrim : Text.trim t = t) : piecesOf seps t = [t] := by
  rw [piecesOf, Query.split_unseparated hseps ht, map_trim_stretch, trimmedStretch_of_trim hne htrim]

end

theorem single_alternatives : Query.Single Query.alternatives := by
  simp [Query.Single, Query.alternatives]

theorem single_wildcards : Query.Single Query.wildcards := by
  simp [Query.Single, Query.wildcards]

/-! ### Keys -/

/-- A key that stands for itself among alternatives: no separator stands in it, no white space at its ends, and no
    mark behind it. -/
structure IsAlternative (key : Text) : Prop where
  ne_nil : key ≠ []
  unseparated : '|' ∉ key ∧ ',' ∉ key
  trim_eq : Text.trim key = key
  unmarked : key.getLast? ≠ some '!'

/-- A key that stands for itself as a part of a path: besides, it asks for nothing by wildcards, and for nothing deep
    inside. -/
structure IsPart (key : Text) : Prop where
  ne_nil : key ≠ []
  plain : ∀ c ∈ ("/|,&*?" : Text), c ∉ key
  trim_eq : Text.trim key = key
  unmarked : key.getLast? ≠ some '!'
  shallow : ¬['.', '.'] <+: key

namespace IsAlternative

variable {key : Text}

theorem unseparated_alternatives (h : IsAlternative key) : Query.Unseparated Query.alternatives key := by
  rintro c hc hmem
  obtain rfl | rfl : c = '|' ∨ c = ',' := by simpa [Query.alternatives] using hmem
  · exact h.unseparated.1 hc
  · exact h.unseparated.2 hc

theorem ne_separator (h : IsAlternative key) : key ≠ "|" ∧ key ≠ "," := by
  constructor <;> rintro rfl
  · exact h.unseparated.1 (List.mem_singleton.2 rfl)
  · exact h.unseparated.2 (List.mem_singleton.2 rfl)

/-- The key is the only one that it lists. -/
theorem piecesOf_eq (h : IsAlternative key) : piecesOf Query.alternatives key = [key] :=
  piecesOf_unseparated single_alternatives h.unseparated_alternatives h.ne_nil h.trim_eq

/-- Without `&`, it is one piece where wildcards are looked for, too. -/
theorem piecesOf_wildcards (h : IsAlternative key) (hand : '&' ∉ key) : piecesOf Query.wildcards key = [key] := by
  refine piecesOf_unseparated single_wildcards (fun c hc hmem => ?_) h.ne_nil h.trim_eq
  obtain rfl | rfl | rfl : c = '|' ∨ c = ',' ∨ c = '&' := by simpa [Query.wildcards] using hmem
  · exact h.unseparated.1 hc
  · exact h.unseparated.2 hc
  · exact hand hc

end IsAlternative

namespace IsPart

variable {key : Text}

theorem isAlternative (h : IsPart key) : IsAlternative key where
  ne_nil := h.ne_nil
  unseparated := ⟨h.plain '|' (by decide), h.plain ',' (by decide)⟩
  trim_eq := h.trim_eq
  unmarked := h.unmarked

theorem slash_notMem (h : IsPart key) : '/' ∉ key := h.plain '/' (by decide)

theorem ne_star (h : IsPart key) : key ≠ "*" := by
  rintro rfl
  exact h.plain '*' (by decide) (List.mem_singleton.2 rfl)

theorem isWild_eq_false (h : IsPart key) : isWild key = false := by
  rw [isWild, Bool.or_eq_false_iff]
  simpa using And.intro (h.plain '*' (by decide)) (h.plain '?' (by decide))

end IsPart

/-! ### What keys add to the results -/

section

variable {go : Text → Except Numeral.Error (List Value)} {found : List Value} {required : Bool} {key : Text}
  {keys : List Text}

/-- A key without the mark behind it. -/
def bare (key : Text) : Text := if Text.endsWith ['!'] key then key.dropLast else key

theorem alternatives_bar :
    alternatives go found required (['|'] :: keys) = alternatives go found false keys := rfl

theorem alternatives_comma :
    alternatives go found required ([','] :: keys) = alternatives go found true keys := rfl

/-- A key that is required, by itself or by what stands in front of it, or for which there is nothing yet, adds its
    results. Any other is passed over. -/
theorem alternatives_key (hbar : key ≠ ['|']) (hcomma : key ≠ [',']) :
    alternatives go found required (key :: keys) =
      if found ≠ [] ∧ (required || Text.endsWith ['!'] key) = false then alternatives go found false keys
      else go (bare key) >>= fun more =>
        alternatives go (found ++ more) (required || Text.endsWith ['!'] key) keys := by
  have hnot : (key == ("|" : Text)) = false ∧ (key == ("," : Text)) = false :=
    ⟨beq_eq_false_iff_ne.2 hbar, beq_eq_false_iff_ne.2 hcomma⟩
  have hmark : Text.endsWith ("!" : Text) key = Text.endsWith ['!'] key := rfl
  rw [alternatives, hnot.1, hnot.2, hmark, bare]
  cases Text.endsWith ['!'] key <;> cases required <;> cases found <;> rfl

/-- A key without a mark adds its results if it is required, or if there is nothing yet. -/
theorem IsAlternative.alternatives_cons (h : IsAlternative key) :
    alternatives go found required (key :: keys) =
      if found ≠ [] ∧ required = false then alternatives go found false keys
      else go key >>= fun more => alternatives go (found ++ more) required keys := by
  have hmark : Text.endsWith ['!'] key = false := by
    rw [← Bool.not_eq_true, Text.endsWith_singleton_iff]
    exact h.unmarked
  rw [alternatives_key h.ne_separator.1 h.ne_separator.2, bare, hmark, Bool.or_false, if_neg Bool.false_ne_true]

/-- A key with a mark adds its results whatever stands in front of it. -/
theorem IsAlternative.alternatives_marked (h : IsAlternative key) :
    alternatives go found required ((key ++ ['!']) :: keys) =
      go key >>= fun more => alternatives go (found ++ more) true keys := by
  have hmark : Text.endsWith ['!'] (key ++ ['!']) = true := by
    rw [Text.endsWith_singleton_iff, List.getLast?_concat]
  have hne : ∀ c, key ++ ['!'] ≠ [c] := fun c heq => h.ne_nil (List.append_eq_singleton_iff.1 heq |>.elim
    (fun hnil => hnil.1) fun hnil => absurd hnil.2 (List.cons_ne_nil _ _))
  rw [alternatives_key (hne '|') (hne ','), bare, hmark, Bool.or_true, if_pos rfl, List.dropLast_concat,
    if_neg fun hnot => Bool.noConfusion hnot.2]

end

/-! ### What parts lead to -/

/-- The pieces that a part is joined from. -/
theorem flatten_pieces (c : Char) (t : Text) (ts : List Text) :
    (t :: ts.flatMap fun u => [[c], u]).flatten = Text.join [c] (t :: ts) := by
  induction ts generalizing t with
  | nil => rw [List.flatMap_nil, List.flatten_singleton, Text.join_singleton]
  | cons u ts ih =>
    rw [Text.join_cons_cons, ← ih u]
    rfl

/-- What asks for nothing by wildcards stays. -/
theorem expandKey_of_tame (es : Entries) {key : Text} (h : isWild key = false) : expandKey es key = .ok key := by
  rw [expandKey, h, Bool.not_false, Bool.or_true, if_pos rfl]

/-- A part in which nothing asks for keys by wildcards lists the keys that it is joined from. -/
theorem expand_join {c : Char} (hc : c = '|' ∨ c = ',') (v : Value) {t : Text} {ts : List Text}
    (h : ∀ u ∈ t :: ts, (Query.Unseparated Query.wildcards u ∧ u ≠ [] ∧ Text.trim u = u) ∧ isWild u = false) :
    expand v (Text.join [c] (t :: ts)) = .ok (Text.join [c] (t :: ts)) := by
  cases v with
  | map es =>
    have hmem : [c] ∈ Query.wildcards := by
      rcases hc with rfl | rfl <;> decide
    have hplain : Text.isSpace c = false ∧ isWild [c] = false := by
      rcases hc with rfl | rfl <;> decide
    have hstays : ∀ p ∈ t :: ts.flatMap (fun u => [[c], u]), expandKey es p = pure p := by
      obtain ⟨ht, hts⟩ := List.forall_mem_cons.1 h
      refine List.forall_mem_cons.2 ⟨expandKey_of_tame es ht.2, fun p hp => ?_⟩
      obtain ⟨u, hu, hp⟩ := List.mem_flatMap.1 hp
      rcases List.mem_cons.1 hp with rfl | hp
      · exact expandKey_of_tame es hplain.2
      · rw [List.mem_singleton.1 hp]
        exact expandKey_of_tame es (hts u hu).2
    show (piecesOf Query.wildcards (Text.join [c] (t :: ts))).mapM (expandKey es) >>= _ = _
    rw [piecesOf_join_trimmed single_wildcards hmem hplain.1 fun u hu => (h u hu).1, mapM_congr hstays, List.mapM_pure,
      ← flatten_pieces, List.map_id']
    rfl
  | _ => rfl

/-- A part that is one piece and stays is not replaced. -/
theorem expand_of_one {part : Text} (hone : piecesOf Query.wildcards part = [part])
    (hstays : ∀ es, expandKey es part = .ok part) (v : Value) : expand v part = .ok part := by
  cases v with
  | map es =>
    show (piecesOf Query.wildcards part).mapM (expandKey es) >>= _ = _
    rw [hone, List.mapM_cons, hstays]
    exact congrArg Except.ok List.flatten_singleton
  | _ => rfl

/-- A key that stands for itself is not replaced. -/
theorem IsPart.expand_eq {key : Text} (h : IsPart key) (v : Value) : expand v key = .ok key :=
  expand_of_one (h.isAlternative.piecesOf_wildcards (h.plain '&' (by decide)))
    (fun es => expandKey_of_tame es h.isWild_eq_false) v

theorem walk_cons (part : Text) (rest : List Text) (v : Value) :
    walk (part :: rest) v = expand v part >>= fun keys =>
      alternatives (fun key => step v key >>= walk rest) [] true (piecesOf Query.alternatives keys) := rfl

/-- A part that is one key leads on from what the value has under the key. -/
theorem walk_of_expand {part : Text} {v : Value} (hexpand : expand v part = .ok part) (h : IsAlternative part)
    (rest : List Text) : walk (part :: rest) v = step v part >>= walk rest := by
  rw [walk_cons, hexpand]
  show alternatives _ [] true (piecesOf Query.alternatives part) = _
  rw [h.piecesOf_eq, h.alternatives_cons, if_neg fun hnot => hnot.1 rfl]
  exact bind_pure _

/-! ### Steps -/

section

variable {key : Text}

/-- A key that asks for nothing deep inside has no pattern. -/
theorem after?_of_shallow (hshallow : ¬['.', '.'] <+: key) : Text.after? ".." key = none := by
  cases h : Text.after? ".." key with
  | none => rfl
  | some rest => exact absurd ⟨rest, (Text.after?_eq_some_iff.1 h).symm⟩ hshallow

/-- What a list has under a key that neither names the list itself nor asks for anything deep inside. -/
theorem step_list (hstar : key ≠ "*") (hshallow : ¬['.', '.'] <+: key) (vs : List Value) :
    step (.list vs) key = .ok (stepInList vs key) := by
  unfold step
  rw [if_neg hstar, after?_of_shallow hshallow]

/-- What a map has under such a key, which is no question for the keys either. -/
theorem step_map (hstar : key ≠ "*") (hshallow : ¬['.', '.'] <+: key) (hkeys : key ≠ "@keys") (es : Entries) :
    step (.map es) key = .ok ((Entries.get? es (.text key)).getD .null) := by
  unfold step
  rw [if_neg hstar, after?_of_shallow hshallow]
  exact if_neg hkeys

end

end Path

end PageQuery
