import PageQuery.Proofs.Query.Items
import PageQuery.Transform.Replacement

namespace PageQuery

/-!
# Where the parts of a regular expression end

The parser looks for the slashes of a body from left to right and leaves out each character behind a backslash. The
transform cuts the body at every slash that has no backslash right in front of it. They differ where that backslash
is itself protected.

* `Query.splitUnescapedFrom_guarded`: what is cut behind a text in which all separators are protected;
* `Transform.beforeSlash`: what the parser finds in front of a slash;
* `Transform.regexp_delimited`: when pattern and replacement are what the parser finds between the slashes.
-/

/-! ### Cutting behind protected separators -/

namespace Query

variable {sep : Char}

/-- A character at which a text is not cut stands in front of the first piece. -/
theorem splitUnescapedFrom_cons {escaped : Bool} {c : Char} (h : ¬(c = sep && !escaped) = true) (t : Text) :
    splitUnescapedFrom sep escaped (c :: t) = (splitUnescapedFrom sep (c == '\\') t).modifyHead (c :: ·) := by
  obtain ⟨first, others, hsplit, -⟩ := exists_splitUnescapedFrom_eq sep (c == '\\') t
  rw [splitUnescapedFrom, if_neg h, hsplit]
  rfl

/-- Whether a character behind a text has a backslash right in front of it. -/
def endsEscaped : (escaped : Bool) → Text → Bool
  | escaped, [] => escaped
  | _, c :: t => endsEscaped (c == '\\') t

theorem endsEscaped_iff {t : Text} : endsEscaped false t = true ↔ t.getLast? = some '\\' := by
  have hcons : ∀ (c : Char) (t : Text), endsEscaped (c == '\\') t = true ↔ (c :: t).getLast? = some '\\' := by
    intro c t
    induction t generalizing c with
    | nil => simp [endsEscaped]
    | cons d t ih => rw [endsEscaped, ih, List.getLast?_cons_cons]
  cases t with
  | nil => simp [endsEscaped]
  | cons c t => exact hcons c t

/-- A text in which all separators are protected stands in front of the first piece of what follows. -/
theorem splitUnescapedFrom_guarded (hsep : sep ≠ '\\') {p : Text} (hp : Guarded [sep] p) (escaped : Bool)
    (t : Text) : splitUnescapedFrom sep escaped (p ++ t) =
      (splitUnescapedFrom sep (endsEscaped escaped p) t).modifyHead (p ++ ·) := by
  induction hp generalizing escaped with
  | nil =>
    obtain ⟨first, others, hsplit, -⟩ := exists_splitUnescapedFrom_eq sep escaped t
    rw [List.nil_append, endsEscaped, hsplit]
    rfl
  | escape c _ ih =>
    -- the backslash is no separator, and what stands behind it is none in this place
    have hbar : ¬('\\' = sep && !escaped) = true := by simp [Ne.symm hsep]
    have hbehind : ¬(c = sep && !('\\' == '\\')) = true := by simp
    rw [List.cons_append, List.cons_append, splitUnescapedFrom_cons hbar, splitUnescapedFrom_cons hbehind, ih,
      List.modifyHead_modifyHead, List.modifyHead_modifyHead]
    rfl
  | @single c p hc hstop _ ih =>
    have hne : c ≠ sep := fun heq => hstop (List.mem_singleton.2 heq)
    have hplain : ¬(c = sep && !escaped) = true := by simp [hne]
    rw [List.cons_append, splitUnescapedFrom_cons hplain, ih, List.modifyHead_modifyHead]
    rfl

/-- What is cut behind a text in which all separators are protected: at a separator behind it nothing is cut if the
    text ends with a backslash. -/
theorem exists_splitUnescaped_guarded (hsep : sep ≠ '\\') {p : Text} (hp : Guarded [sep] p) (t : Text) :
    (p.getLast? ≠ some '\\' ∧ splitUnescaped sep (p ++ sep :: t) = p :: splitUnescaped sep t) ∨
      (p.getLast? = some '\\' ∧ ∃ first others, splitUnescaped sep t = first :: others ∧
        splitUnescaped sep (p ++ sep :: t) = (p ++ sep :: first) :: others) := by
  rw [splitUnescaped, splitUnescapedFrom_guarded hsep hp]
  -- the one character in front of the separator decides, whatever protects that itself
  cases hends : endsEscaped false p with
  | false =>
    refine .inl ⟨fun hlast => ?_, ?_⟩
    · rw [endsEscaped_iff.2 hlast] at hends
      cases hends
    · simp [splitUnescapedFrom, splitUnescaped]
  | true =>
    obtain ⟨first, others, hsplit, -⟩ := exists_splitUnescapedFrom_eq sep false t
    refine .inr ⟨endsEscaped_iff.1 hends, first, others, hsplit, ?_⟩
    have hbar : (sep == '\\') = false := beq_eq_false_iff_ne.2 hsep
    rw [splitUnescapedFrom_cons (by simp), hbar, hsplit]
    rfl

end Query

namespace Transform

open Query (afterSlash? splitUnescaped Guarded)

/-! ### What stands between the slashes -/

/-- The text in front of the next slash, where a backslash protects the character after it. -/
def beforeSlash (t : Text) : Text :=
  match afterSlash? t with
  | none => []
  | some rest => t.take (t.length - (rest.length + 1))

theorem beforeSlash_append {p : Text} (hp : Guarded ['/'] p) (rest : Text) : beforeSlash (p ++ '/' :: rest) = p := by
  have hafter : afterSlash? (p ++ '/' :: rest) = some rest := Query.afterSlash?_append_of_guarded hp _
  rw [beforeSlash, hafter]
  simp

/-- A pattern with its abbreviation written out. -/
def expanded (pattern : Text) : Text := Text.replace "\\ALL" "^[\\s\\S]*$" pattern

/-- A replacement without the backslashes in front of slashes and semicolons. -/
def unescaped (replacement : Text) : Text := Text.replace "\\;" ";" (Text.replace "\\/" "/" replacement)

/-- The parts of a text between slashes that have no backslash right in front of them, if they are not empty. -/
def parts (t : Text) : List Text := (splitUnescaped '/' t).filter fun part => !part.isEmpty

theorem parseBody?_slash (q : Text) :
    parseBody? ('/' :: q) = match parts q with
      | [] => none
      | pattern :: rest => some (expanded pattern, unescaped (rest.head?.getD [])) := rfl

theorem parts_eq_cons {t part : Text} {others : List Text} (h : splitUnescaped '/' t = part :: others)
    (hne : part ≠ []) : parts t = part :: others.filter fun part => !part.isEmpty := by
  obtain ⟨c, u, rfl⟩ := List.exists_cons_of_ne_nil hne
  rw [parts, h]
  rfl

/-- What stands in front of a slash is no pattern if it ends with a backslash. -/
theorem expanded_ne (p t : Text) : expanded (p ++ '/' :: t) ≠ expanded p := by
  intro h
  -- the slash stands in no abbreviation, so that what is written out for both differs in length
  have hlength := congrArg List.length h
  rw [expanded, Text.replace_append_cons (by decide) (by decide), List.length_append, List.length_cons] at hlength
  exact absurd hlength (by rw [expanded]; omega)

/-- A slash behind a backslash is read as a slash without it. -/
theorem unescaped_ne {r : Text} (hlast : r.getLast? = some '\\') : unescaped (r ++ ['/']) ≠ unescaped r := by
  have hwith : (unescaped (r ++ ['/'])).getLast? = some '/' :=
    Text.getLast?_replace (by decide) (by decide) (Text.getLast?_replace (by decide) (by decide) (by simp))
  -- no occurrence ends with a backslash, so that this one stays where it is
  have hwithout : (unescaped r).getLast? = some '\\' :=
    Text.getLast?_replace (by decide) (by decide) (Text.getLast?_replace (by decide) (by decide) hlast)
  intro h
  rw [h, hwithout] at hwith
  cases hwith

/-- A replacement is what stands in front of the slash behind it if that is no text that ends with a backslash. -/
theorem unescaped_head_parts {r : Text} (hr : Guarded ['/'] r) :
    unescaped ((parts (r ++ ['/'])).head?.getD []) = unescaped r ↔ r.getLast? ≠ some '\\' := by
  rcases Query.exists_splitUnescaped_guarded (by decide) hr [] with
    ⟨hlast, hsplit⟩ | ⟨hlast, first, others, hnil, hsplit⟩
  · -- an empty replacement is left out, and is read as none
    refine iff_of_true ?_ hlast
    rw [parts, hsplit]
    cases r <;> rfl
  · obtain ⟨rfl, rfl⟩ : [] = first ∧ [] = others := List.cons.inj hnil
    rw [parts_eq_cons hsplit (by simp)]
    exact iff_of_false (unescaped_ne hlast) (not_not_intro hlast)

/-- The pattern and the replacement of a body that the parser takes for closed, and whose pattern is not empty, are
    what the parser finds between the slashes, if and only if neither of these ends with a backslash. -/
theorem regexp_delimited {q : Text} (hclosed : Query.isCompleteRegexp (Query.regexpMark ++ '/' :: q) = true)
    (hpattern : beforeSlash q ≠ []) :
    parseBody? ('/' :: q) =
        some (expanded (beforeSlash q), unescaped (beforeSlash ((afterSlash? q).getD []))) ↔
      (beforeSlash q).getLast? ≠ some '\\' ∧
        (beforeSlash ((afterSlash? q).getD [])).getLast? ≠ some '\\' := by
  rw [Query.isCompleteRegexp_mark] at hclosed
  obtain ⟨p, rest, hp, rfl, hrest⟩ := Query.exists_of_isCompleteBody hclosed
  have hbehind : (afterSlash? (p ++ '/' :: rest)).getD [] = rest := by
    rw [Query.afterSlash?_append_of_guarded hp]
    rfl
  rw [beforeSlash_append hp] at hpattern ⊢
  rw [hbehind, parseBody?_slash]
  rcases Query.exists_splitUnescaped_guarded (by decide) hp rest with
    ⟨hlast, hsplit⟩ | ⟨hlast, first, others, -, hsplit⟩
  · -- the pattern ends where the parser says
    rw [parts_eq_cons hsplit hpattern]
    show some (expanded p, unescaped ((parts rest).head?.getD [])) = _ ↔ _
    rw [Option.some_inj, Prod.mk.injEq, eq_self_iff_true, true_and, and_iff_right hlast]
    rcases hrest with rfl | ⟨r, hr, rfl⟩
    · exact iff_of_true rfl nofun
    · rw [beforeSlash_append hr]
      exact unescaped_head_parts hr
  · -- it goes on behind the slash
    rw [parts_eq_cons hsplit (by simp)]
    refine iff_of_false ?_ fun h => h.1 hlast
    intro h
    exact expanded_ne p first (Prod.mk.inj (Option.some.inj h)).1

/-- A slash behind a protected semicolon in the pattern, and a protected slash in the replacement. -/
theorem regexp_delimited_quoted :
    Query.isCompleteRegexp (Query.regexpMark ++ ("/a\\;/b\\/c/" : Text)) = true ∧
      parseBody? "/a\\;/b\\/c/" = some (("a\\;", "b/c") : Text × Text) := by
  have hclosed : Query.isCompleteRegexp (Query.regexpMark ++ ("/a\\;/b\\/c/" : Text)) = true := by decide
  exact ⟨hclosed, (regexp_delimited (q := "a\\;/b\\/c/") hclosed (by decide)).2 (by decide)⟩

/-- A slash behind a protected backslash ends the pattern for the parser only. -/
theorem regexp_not_delimited :
    Query.isCompleteRegexp (Query.regexpMark ++ ("/\\\\/-/" : Text)) = true ∧
      (beforeSlash "\\\\/-/", beforeSlash ((afterSlash? "\\\\/-/").getD [])) = (("\\\\", "-") : Text × Text) ∧
      parseBody? "/\\\\/-/" = some (("\\\\/-", "") : Text × Text) ∧
      parseBody? "/\\\\/-/" ≠ some (expanded "\\\\", unescaped "-") := by
  decide

end Transform

end PageQuery
