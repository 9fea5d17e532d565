import PageQuery.Proofs.Transform.Delimiters
import PageQuery.Proofs.Transform.Filters

namespace PageQuery.Transform

/-!
# Conditions as they are written

Spaces, semicolons and ampersands of a condition are written behind a backslash, and spaces stand between conditions.
What is read is cut at the spaces, then trimmed, and then the backslashes are taken away, so that a space that a
condition ends with is trimmed while it still stands behind its backslash.

* `shielded`: a text with backslashes in front of some characters;
* `replace_shielded`: backslashes in front of one character are taken away;
* `writtenFilter`: the text of a list of conditions;
* `parseFilter_writtenFilter`: what it is read as;
* `filter_roundTrip`: it is read as these conditions if none of them ends with a space.
-/

/-! ### Shielded characters -/

/-- A text with a backslash in front of each of some characters. -/
def shielded (stops t : Text) : Text := t.flatMap fun c => if c ∈ stops then ['\\', c] else [c]

section

variable {stops t : Text}

theorem shielded_cons (stops : Text) (c : Char) (t : Text) :
    shielded stops (c :: t) = (if c ∈ stops then ['\\', c] else [c]) ++ shielded stops t := List.flatMap_cons

theorem shielded_nil (stops : Text) : shielded stops [] = [] := rfl

theorem shielded_append (stops t u : Text) : shielded stops (t ++ u) = shielded stops t ++ shielded stops u :=
  List.flatMap_append

/-- No characters to be shielded. -/
theorem shielded_none (t : Text) : shielded [] t = t := by
  induction t with
  | nil => rfl
  | cons c t ih => rw [shielded_cons, ih, if_neg List.not_mem_nil, List.singleton_append]

/-- Shielding is protecting. -/
theorem guarded_shielded (ht : '\\' ∉ t) : Query.Guarded stops (shielded stops t) := by
  induction t with
  | nil => exact .nil
  | cons c t ih =>
    obtain ⟨hc, ht⟩ := not_or.1 (mt List.mem_cons.2 ht)
    rw [shielded_cons]
    split
    · exact .escape c (ih ht)
    · next hstop => exact .single (fun heq => hc heq.symm) hstop (ih ht)

/-- A shielded text ends with the same character. -/
theorem getLast?_shielded (stops t : Text) : (shielded stops t).getLast? = t.getLast? := by
  rcases List.eq_nil_or_concat t with rfl | ⟨u, c, hconcat⟩
  · rfl
  · obtain rfl : t = u ++ [c] := hconcat.trans List.concat_eq_append
    rw [shielded_append, List.getLast?_append, List.getLast?_append, shielded_cons, shielded_nil]
    split <;> rfl

/-- Taking away the backslashes in front of one character leaves those in front of the others. -/
theorem replace_shielded (stops : Text) (c : Char) (hc : c ∉ stops) (ht : '\\' ∉ t) (rest : Text) :
    Text.replace ['\\', c] [c] (shielded (c :: stops) t ++ rest) =
      shielded stops t ++ Text.replace ['\\', c] [c] rest := by
  induction t with
  | nil => rfl
  | cons d t ih =>
    obtain ⟨hd, ht⟩ := not_or.1 (mt List.mem_cons.2 ht)
    have hplain : ∀ u, Text.replace ['\\', c] [c] (d :: u) = d :: Text.replace ['\\', c] [c] u := fun u =>
      Text.replace_cons (by simp [Text.startsWith, Text.after?, hd])
    rw [shielded_cons, shielded_cons, List.append_assoc, List.append_assoc, ← ih ht]
    by_cases hdc : d = c
    · rw [if_pos (by simp [hdc]), if_neg (hdc ▸ hc), hdc]
      exact Text.replace_append (List.cons_ne_nil _ _) _
    by_cases hstop : d ∈ stops
    · -- this backslash shields another character
      have hother : Text.startsWith ['\\', c] ('\\' :: d :: (shielded (c :: stops) t ++ rest)) = false := by
        simp [Text.startsWith, Text.after?, Ne.symm hdc]
      rw [if_pos (List.mem_cons_of_mem c hstop), if_pos hstop]
      exact (Text.replace_cons hother).trans (congrArg ('\\' :: ·) (hplain _))
    · rw [if_neg (by simp [hdc, hstop]), if_neg hstop]
      exact hplain _

end

/-! ### One condition -/

/-- A condition as it is written. -/
def writtenCondition (t : Text) : Text := shielded [' ', ';', '&'] t

/-- Texts that can be told from what separates them: there is something in them, but no backslash, and no white space
    other than spaces. -/
structure IsCondition (t : Text) : Prop where
  ne_nil : t ≠ []
  bar_notMem : '\\' ∉ t
  eq_space : ∀ c ∈ t, Text.isSpace c = true → c = ' '

/-- A text without the backslashes in front of spaces, semicolons and ampersands. -/
def unshielded (t : Text) : Text := Text.replace "\\&" "&" (Text.replace "\\;" ";" (Text.replace "\\ " " " t))

/-- What a part of a filter between spaces is read as. -/
def conditionOf (part : Text) : Text := unshielded (Text.trim part)

theorem parseFilter_eq (spec : Text) :
    parseFilter spec = ((Query.splitUnescaped ' ' spec).map conditionOf).filter (! ·.isEmpty) := rfl

/-- What a condition is read as: a space at its end is trimmed, so that its backslash is left. -/
def readBack (t : Text) : Text := if t.getLast? = some ' ' then t.dropLast ++ ['\\'] else t

theorem readBack_ne_nil {t : Text} (h : t ≠ []) : readBack t ≠ [] := by
  unfold readBack
  split
  · simp
  · exact h

/-- The backslash that is left stands in no condition. -/
theorem readBack_eq_self_iff {t : Text} (h : '\\' ∉ t) : readBack t = t ↔ t.getLast? ≠ some ' ' := by
  unfold readBack
  split
  · next hlast =>
    refine iff_of_false (fun heq => h ?_) (not_not_intro hlast)
    rw [← heq]
    exact List.mem_append_right _ (List.mem_singleton_self _)
  · next hlast => exact iff_of_true rfl hlast

/-- The backslashes that have been written are taken away, whatever stands behind the condition. -/
theorem unshielded_append {t : Text} (h : '\\' ∉ t) (rest : Text) :
    unshielded (writtenCondition t ++ rest) = t ++ unshielded rest := by
  have hlast := replace_shielded [] '&' (by decide) h (Text.replace "\\;" ";" (Text.replace "\\ " " " rest))
  rw [shielded_none] at hlast
  calc unshielded (writtenCondition t ++ rest)
      = Text.replace "\\&" "&" (Text.replace "\\;" ";" (shielded [';', '&'] t ++ Text.replace "\\ " " " rest)) :=
        congrArg _ (congrArg _ (replace_shielded [';', '&'] ' ' (by decide) h rest))
    _ = Text.replace "\\&" "&" (shielded ['&'] t ++ Text.replace "\\;" ";" (Text.replace "\\ " " " rest)) :=
        congrArg _ (replace_shielded ['&'] ';' (by decide) h _)
    _ = t ++ unshielded rest := hlast

/-- A written condition does not start with white space. -/
theorem trimLeft_writtenCondition {t : Text} (h : ∀ c ∈ t, Text.isSpace c = true → c = ' ') :
    Text.trimLeft (writtenCondition t) = writtenCondition t := by
  cases t with
  | nil => rfl
  | cons c t =>
    rw [writtenCondition, shielded_cons]
    split
    · rfl
    · next hstop =>
      have hspace : ¬Text.isSpace c = true := fun hspace => hstop (h c List.mem_cons_self hspace ▸ List.mem_cons_self)
      exact List.dropWhile_cons_of_neg hspace

/-- A written condition is read as the condition, but for a space at its end. -/
theorem conditionOf_writtenCondition {t : Text} (h : IsCondition t) :
    conditionOf (writtenCondition t) = readBack t := by
  unfold readBack
  split
  · next hlast =>
    obtain ⟨u, rfl⟩ := List.getLast?_eq_some_iff.1 hlast
    have hu : ∀ c ∈ u, Text.isSpace c = true → c = ' ' := fun c hc => h.eq_space c (List.mem_append_left _ hc)
    have hbar : '\\' ∉ u := fun hmem => h.bar_notMem (List.mem_append_left _ hmem)
    have hwritten : writtenCondition (u ++ [' ']) = writtenCondition u ++ ['\\'] ++ [' '] := by
      rw [writtenCondition, shielded_append, List.append_assoc]
      rfl
    -- the space is trimmed, and the backslash in front of it is not
    rw [conditionOf, hwritten, Text.trim_concat rfl, Text.trim_append_cons rfl, trimLeft_writtenCondition hu,
      List.dropLast_concat]
    exact unshielded_append hbar ['\\']
  · next hlast =>
    have hend : (writtenCondition t).getLast?.any Text.isSpace = false := by
      rw [writtenCondition, getLast?_shielded]
      cases hc : t.getLast? with
      | none => rfl
      | some c =>
        refine Bool.eq_false_iff.2 fun hspace => hlast ?_
        rw [hc, h.eq_space c (List.mem_of_getLast? hc) hspace]
    have htrim : Text.trim (writtenCondition t) = writtenCondition t := by
      rw [Text.trim, trimLeft_writtenCondition h.eq_space]
      exact Text.dropEndWhile_eq_self_iff.2 hend
    have hwhole := unshielded_append h.bar_notMem []
    rw [List.append_nil] at hwhole
    rw [conditionOf, htrim, hwhole]
    exact List.append_nil t

/-! ### Filters -/

/-- Conditions as the text of a filter. -/
def writtenFilter (ts : List Text) : Text := Text.join [' '] (ts.map writtenCondition)

/-- A written condition is read as one. -/
theorem parseFilter_writtenCondition {t : Text} (h : IsCondition t) :
    parseFilter (writtenCondition t) = [conditionOf (writtenCondition t)] := by
  have hguarded : Query.Guarded [' '] (writtenCondition t) := (guarded_shielded h.bar_notMem).mono (by simp)
  have hsplit : Query.splitUnescaped ' ' (writtenCondition t) = [writtenCondition t] := by
    simpa [Query.splitUnescaped, Query.splitUnescapedFrom] using
      Query.splitUnescapedFrom_guarded (by decide) hguarded false []
  have hne : conditionOf (writtenCondition t) ≠ [] := conditionOf_writtenCondition h ▸ readBack_ne_nil h.ne_nil
  rw [parseFilter_eq, hsplit, List.map_singleton]
  exact List.filter_cons_of_pos (by simpa using hne)

/-- No written condition takes the space behind it. -/
theorem getLast?_writtenCondition_ne {t : Text} (h : IsCondition t) : (writtenCondition t).getLast? ≠ some '\\' := by
  rw [writtenCondition, getLast?_shielded]
  exact fun hlast => h.bar_notMem (List.mem_of_getLast? hlast)

/-- Conditions are read one by one. -/
theorem parseFilter_writtenFilter {ts : List Text} (h : ∀ t ∈ ts, IsCondition t) :
    parseFilter (writtenFilter ts) = ts.map readBack := by
  by_cases hne : ts = []
  · subst hne
    rfl
  have hjoin : parseFilter (writtenFilter ts) = (ts.map writtenCondition).map conditionOf := by
    refine Text.split_join (by simpa using hne) (List.forall_mem_map.2 fun t ht => ?_)
      (List.forall_mem_map.2 fun t ht u => ?_)
    · exact parseFilter_writtenCondition (h t ht)
    · rw [parseFilter_append (getLast?_writtenCondition_ne (h t ht)), parseFilter_writtenCondition (h t ht)]
      rfl
  rw [hjoin, List.map_map]
  exact List.map_congr_left fun t ht => conditionOf_writtenCondition (h t ht)

/-- Conditions that are written with backslashes, and with spaces between them, are read as they are if and only if none
    of them ends with a space. -/
theorem filter_roundTrip {ts : List Text} (h : ∀ t ∈ ts, IsCondition t) :
    parseFilter (writtenFilter ts) = ts ↔ ∀ t ∈ ts, t.getLast? ≠ some ' ' := by
  have hself : ∀ t ∈ ts, (readBack t = t ↔ t.getLast? ≠ some ' ') := fun t ht =>
    readBack_eq_self_iff (h t ht).bar_notMem
  rw [parseFilter_writtenFilter h]
  constructor
  · intro hmap t ht
    exact (hself t ht).1 (List.map_inj_left.1 (hmap.trans (List.map_id ts).symm) t ht)
  · intro hlast
    exact (List.map_congr_left fun t ht => (hself t ht).2 (hlast t ht)).trans (List.map_id ts)

/-- A condition that starts with a space, and one with all that has to be shielded. -/
theorem filter_roundTrip_spaces :
    (∀ t ∈ ([" a", "! b;&c", "&"] : List Text), IsCondition t) ∧
      writtenFilter [" a", "! b;&c", "&"] = ("\\ a !\\ b\\;\\&c \\&" : Text) ∧
      parseFilter "\\ a !\\ b\\;\\&c \\&" = ([" a", "! b;&c", "&"] : List Text) := by
  have hconditions : ∀ t ∈ ([" a", "! b;&c", "&"] : List Text), IsCondition t := by
    intro t ht
    have hall : ∀ t ∈ ([" a", "! b;&c", "&"] : List Text),
        t ≠ [] ∧ '\\' ∉ t ∧ (t.all fun c => !Text.isSpace c || c == ' ') = true := by decide
    obtain ⟨hne, hbar, hspace⟩ := hall t ht
    refine ⟨hne, hbar, fun c hc hblank => ?_⟩
    simpa [hblank] using List.all_eq_true.1 hspace c hc
  exact ⟨hconditions, rfl, (filter_roundTrip hconditions).2 (by decide)⟩

/-- The space that a condition ends with is lost, and its backslash stays. -/
theorem filter_not_roundTrip :
    IsCondition "a " ∧ writtenFilter ["a "] = ("a\\ " : Text) ∧ parseFilter "a\\ " = (["a\\"] : List Text) ∧
      parseFilter (writtenFilter ["a "]) ≠ (["a "] : List Text) := by
  refine ⟨⟨by decide, by decide, ?_⟩, by decide⟩
  exact Text.forall_mem_of_all (P := fun c => Text.isSpace c = true → c = ' ') rfl

end PageQuery.Transform
