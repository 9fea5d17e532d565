import Mathlib.Computability.MyhillNerode
import Mathlib.Tactic.DeriveFintype
import PageQuery.Proofs.Query.Items

namespace PageQuery.Query

/-!
# Closed regular expressions

Whether a regular expression is closed is found by a scan that looks for one slash after the other. What the scan
accepts is a regular language.

* `IsClosed`: the texts behind the mark that are closed, by their form;
* `isCompleteBody_iff`: these are the ones that the scan accepts;
* `Stage`, `scanner`: the scan as a finite automaton;
* `Stage.closes_cons`, `evalFrom_scanner`: what one character does to what is still accepted, and what a text does;
* `isRegular_singleton_mul`: a regular language is one behind a fixed text, too;
* `isCompleteRegexp_iff`: the texts that start with the mark and are closed, and that they are a regular language.
-/

/-- A text that is closed: a pattern, or a pattern and a replacement, between slashes, with anything but slashes in
    front of the first one. -/
inductive IsClosed : Text → Prop where
  | pattern {lead p : Text} (hlead : '/' ∉ lead) (hp : Guarded ['/'] p) : IsClosed (lead ++ '/' :: (p ++ ['/']))
  | replacement {lead p r : Text} (hlead : '/' ∉ lead) (hp : Guarded ['/'] p) (hr : Guarded ['/'] r) :
    IsClosed (lead ++ '/' :: (p ++ '/' :: (r ++ ['/'])))

/-! ### The form of closed texts -/

/-- A slash that counts is found exactly behind a guarded text. -/
theorem afterSlash?_eq_some_iff {t rest : Text} :
    afterSlash? t = some rest ↔ ∃ p, Guarded ['/'] p ∧ t = p ++ '/' :: rest := by
  constructor
  · exact exists_of_afterSlash?_eq_some
  · rintro ⟨p, hp, rfl⟩
    exact afterSlash?_append_of_guarded hp _

/-- What stands in front of the first slash does not matter. -/
theorem isCompleteBody_append {lead : Text} (hlead : '/' ∉ lead) (q : Text) :
    isCompleteBody (lead ++ '/' :: q) = isCompleteBody ('/' :: q) := by
  unfold isCompleteBody
  rw [Text.cut_append hlead]
  rfl

/-- Behind the second slash of a closed text stands nothing, or a replacement and the third. -/
theorem isCompleteBody_slash (q : Text) :
    isCompleteBody ('/' :: q) = true ↔
      ∃ rest, afterSlash? q = some rest ∧ (rest = [] ∨ afterSlash? rest = some []) := by
  rw [isCompleteBody_cons]
  cases hq : afterSlash? q with
  | none => simp
  | some rest => cases rest <;> simp

theorem isCompleteBody_iff (b : Text) : isCompleteBody b = true ↔ IsClosed b := by
  constructor
  · intro h
    rcases Text.cut_cases '/' b with ⟨-, hcut⟩ | ⟨lead, q, hlead, rfl, -⟩
    · -- without a slash nothing is closed
      rw [isCompleteBody, hcut] at h
      cases h
    · rw [isCompleteBody_append hlead] at h
      obtain ⟨p, rest, hp, rfl, rfl | ⟨r, hr, rfl⟩⟩ := exists_of_isCompleteBody h
      · exact .pattern hlead hp
      · exact .replacement hlead hp hr
  · intro h
    cases h with
    | pattern hlead hp =>
      rw [isCompleteBody_append hlead, isCompleteBody_slash]
      exact ⟨[], afterSlash?_append_of_guarded hp _, .inl rfl⟩
    | replacement hlead hp hr =>
      rw [isCompleteBody_append hlead, isCompleteBody_slash]
      exact ⟨_, afterSlash?_append_of_guarded hp _, .inr (afterSlash?_append_of_guarded hr _)⟩

/-! ### The scan as an automaton -/

/-- How far a text has been read. -/
inductive Stage where
  | lead
  /-- In the pattern, perhaps right behind a backslash. -/
  | pattern (escaped : Bool)
  /-- Right behind the second slash. -/
  | closed
  /-- In the replacement, perhaps right behind a backslash. -/
  | replacement (escaped : Bool)
  /-- Right behind the third slash. -/
  | done
  | beyond
  deriving Repr, DecidableEq, Fintype

namespace Stage

/-- The stage in the replacement after a character that is not escaped. -/
def replaced (c : Char) : Stage :=
  if c = '\\' then .replacement true else if c = '/' then .done else .replacement false

/-- The stage after one more character. -/
def next : Stage → Char → Stage
  | .lead, c => if c = '/' then .pattern false else .lead
  | .pattern false, c => if c = '\\' then .pattern true else if c = '/' then .closed else .pattern false
  | .pattern true, _ => .pattern false
  | .closed, c => replaced c
  | .replacement false, c => replaced c
  | .replacement true, _ => .replacement false
  | .done, _ => .beyond
  | .beyond, _ => .beyond

/-- What closes a text of which a part has been read. -/
def Closes : Stage → Text → Prop
  | .lead, t => isCompleteBody t = true
  | .pattern false, t => isCompleteBody ('/' :: t) = true
  | .pattern true, t => isCompleteBody ('/' :: '\\' :: t) = true
  | .closed, t => t = [] ∨ afterSlash? t = some []
  | .replacement false, t => afterSlash? t = some []
  | .replacement true, t => afterSlash? ('\\' :: t) = some []
  | .done, t => t = []
  | .beyond, _ => False

/-- A character that is neither a backslash nor a slash is passed over. -/
theorem afterSlash?_cons {c : Char} (hbar : c ≠ '\\') (hslash : c ≠ '/') (t : Text) :
    afterSlash? (c :: t) = afterSlash? t :=
  afterSlash?_append_of_guarded (.single hbar (by simpa using hslash) .nil) t

theorem closes_replaced (c : Char) (t : Text) : afterSlash? (c :: t) = some [] ↔ (replaced c).Closes t := by
  unfold replaced
  by_cases hbar : c = '\\'
  · subst hbar
    exact Iff.rfl
  by_cases hslash : c = '/'
  · subst hslash
    show some t = some [] ↔ t = []
    exact Option.some_inj
  · rw [if_neg hbar, if_neg hslash, afterSlash?_cons hbar hslash]
    exact Iff.rfl

/-- One character more or less. -/
theorem closes_cons (s : Stage) (c : Char) (t : Text) : s.Closes (c :: t) ↔ (s.next c).Closes t := by
  match s with
  | .lead =>
    by_cases hslash : c = '/'
    · subst hslash
      exact Iff.rfl
    · have hsame : isCompleteBody (c :: t) = isCompleteBody t := by
        simp only [isCompleteBody, Text.cut, if_neg hslash]
        rcases Text.cut '/' t with ⟨before, _ | rest⟩ <;> rfl
      simp only [next, if_neg hslash, Closes, hsame]
  | .pattern false =>
    show isCompleteBody ('/' :: c :: t) = true ↔ _
    by_cases hbar : c = '\\'
    · subst hbar
      exact Iff.rfl
    by_cases hslash : c = '/'
    · subst hslash
      rw [isCompleteBody_slash]
      show (∃ rest, some t = some rest ∧ _) ↔ _
      simp [next, Closes]
    · simp only [next, if_neg hbar, if_neg hslash, Closes, isCompleteBody_slash, afterSlash?_cons hbar hslash]
  | .pattern true => exact Iff.rfl
  | .closed =>
    rw [Closes, or_iff_right (List.cons_ne_nil c t)]
    exact closes_replaced c t
  | .replacement false => exact closes_replaced c t
  | .replacement true => exact Iff.rfl
  | .done => exact iff_of_false (List.cons_ne_nil c t) id
  | .beyond => exact Iff.rfl

end Stage

/-- The scan: a text may end right behind the second slash or the third. -/
def scanner : DFA Char Stage where
  step := Stage.next
  start := .lead
  accept := {.closed, .done}

/-- The automaton accepts what closes a text. -/
theorem evalFrom_scanner (s : Stage) (t : Text) : scanner.evalFrom s t ∈ scanner.accept ↔ s.Closes t := by
  induction t generalizing s with
  | nil =>
    show (s = .closed ∨ s = .done) ↔ _
    match s with
    | .lead | .pattern false | .pattern true | .replacement false | .replacement true | .beyond =>
      simp [Stage.Closes, isCompleteBody, Text.cut, afterSlash?]
    | .closed | .done => simp [Stage.Closes]
  | cons c t ih =>
    rw [DFA.evalFrom_cons, ih, Stage.closes_cons]
    exact Iff.rfl

/-- The texts behind the mark that are closed. -/
def closedBodies : Language Char := {b : Text | isCompleteBody b = true}

theorem isRegular_closedBodies : closedBodies.IsRegular :=
  ⟨Stage, inferInstance, scanner, Set.ext fun t => evalFrom_scanner .lead t⟩

/-! ### Behind a mark -/

/-- A regular language stays regular behind a mark. -/
theorem isRegular_singleton_mul {L : Language Char} (hL : L.IsRegular) (mark : Text) :
    (({mark} : Language Char) * L).IsRegular := by
  have hmem : ∀ t : Text, t ∈ ({mark} : Language Char) * L ↔ ∃ u ∈ L, mark ++ u = t := by
    intro t
    rw [Language.mem_mul]
    constructor
    · rintro ⟨_, rfl, u, hu, rfl⟩
      exact ⟨u, hu, rfl⟩
    · rintro ⟨u, hu, rfl⟩
      exact ⟨mark, rfl, u, hu, rfl⟩
  -- what has been read is a part of the mark, or the mark and more, or nothing can follow it
  have hparts : (Set.image (({mark} : Language Char) * L).leftQuotient {read | read ∈ mark.inits}).Finite :=
    (List.finite_toSet _).image _
  apply Language.IsRegular.of_finite_range_leftQuotient
  apply ((hparts.union hL.finite_range_leftQuotient).insert 0).subset
  rintro _ ⟨read, rfl⟩
  by_cases hpart : read <+: mark
  · exact .inr (.inl ⟨read, (List.mem_inits read mark).2 hpart, rfl⟩)
  by_cases hmark : mark <+: read
  · obtain ⟨read, rfl⟩ := hmark
    refine .inr (.inr ⟨read, Set.ext fun t => ?_⟩)
    show read ++ t ∈ L ↔ mark ++ read ++ t ∈ ({mark} : Language Char) * L
    rw [hmem]
    simp
  · refine .inl (Set.ext fun t => iff_of_false ?_ (Language.notMem_zero t))
    intro ht
    obtain ⟨u, -, hu⟩ := (hmem _).1 ht
    have hread : read <+: mark ++ u := ⟨t, hu.symm⟩
    rcases List.prefix_or_prefix_of_prefix hread (List.prefix_append mark u) with h | h
    · exact hpart h
    · exact hmark h

/-- The texts that start with the mark of regular expressions and are closed. -/
def closedRegexps : Language Char := {v : Text | Text.startsWith regexpMark v = true ∧ isCompleteRegexp v = true}

theorem closedRegexps_eq : closedRegexps = {regexpMark} * closedBodies := by
  ext v
  rw [Language.mem_mul]
  constructor
  · rintro ⟨hv, hclosed⟩
    obtain ⟨b, rfl⟩ := Text.startsWith_iff.1 hv
    rw [isCompleteRegexp_mark] at hclosed
    exact ⟨regexpMark, rfl, b, hclosed, rfl⟩
  · rintro ⟨_, rfl, b, hb, rfl⟩
    exact ⟨Text.startsWith_iff.2 (List.prefix_append _ b), (isCompleteRegexp_mark b).trans hb⟩

/-- Of the texts that start with the mark of regular expressions, those are closed in which the mark is followed by
    anything but slashes, a slash, a pattern and a slash, and perhaps by a replacement and a slash, where patterns and
    replacements read from left to right as pairs of a backslash and any character and as single characters other
    than backslashes and slashes. These texts are a regular language. -/
theorem isCompleteRegexp_iff :
    (∀ v, Text.startsWith regexpMark v = true →
      (isCompleteRegexp v = true ↔ ∃ b, v = regexpMark ++ b ∧ IsClosed b)) ∧
      closedRegexps.IsRegular := by
  constructor
  · intro v hv
    obtain ⟨b, rfl⟩ := Text.startsWith_iff.1 hv
    rw [isCompleteRegexp_mark, isCompleteBody_iff]
    constructor
    · intro h
      exact ⟨b, rfl, h⟩
    · rintro ⟨b', heq, h⟩
      rwa [List.append_cancel_left heq]
  · rw [closedRegexps_eq]
    exact isRegular_singleton_mul isRegular_closedBodies regexpMark

/-- A space in front of the first slash, a protected slash in the pattern, and a protected backslash at the end of the
    replacement. -/
theorem isCompleteRegexp_iff_protected :
    Text.startsWith regexpMark "regexp: /a\\/;/b\\\\/".toList = true ∧
      isCompleteRegexp "regexp: /a\\/;/b\\\\/".toList = true := by
  have hmark : Text.startsWith regexpMark "regexp: /a\\/;/b\\\\/".toList = true := by decide
  have hpattern : Guarded ['/'] "a\\/;".toList :=
    .single (by decide) (by decide) (.escape '/' (.single (by decide) (by decide) .nil))
  have hreplacement : Guarded ['/'] "b\\\\".toList := .single (by decide) (by decide) (.escape '\\' .nil)
  have hlead : '/' ∉ [' '] := by decide
  exact ⟨hmark, (isCompleteRegexp_iff.1 _ hmark).2 ⟨_, by decide, .replacement hlead hpattern hreplacement⟩⟩

end PageQuery.Query
