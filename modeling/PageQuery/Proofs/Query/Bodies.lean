import PageQuery.Query.Parameters
import PageQuery.Proofs.Text

namespace PageQuery.Query

/-!
# Bodies of regular expressions among other text

A backslash protects the character after it. The body of a regular expression is closed by its second unprotected
slash, or by its third; whatever separators it holds up to there count as text.

* `Guarded`: texts in which certain characters stand behind backslashes only;
* `Delimited`: bodies that are closed, and in front of certain separators are not, and `IsBody`, where these are all
  that there are;
* `Unfinished`: what has been read of a body that is not closed yet, which `Delimited.unfinished` finds in front of
  every separator in a body;
* `Unfinished.trimRight_append`, `Unfinished.isCompleteBody_trimRight`: white space left out in front of a semicolon
  changes nothing about where the body is closed.
-/

/-! ### Protected characters -/

/-- A text that reads from left to right as pairs of a backslash and any character, and as single characters other
    than the backslash and those of `stops`. -/
inductive Guarded (stops : Text) : Text → Prop where
  | nil : Guarded stops []
  | escape (c : Char) {t : Text} (h : Guarded stops t) : Guarded stops ('\\' :: c :: t)
  | single {c : Char} {t : Text} (hc : c ≠ '\\') (hstop : c ∉ stops) (h : Guarded stops t) : Guarded stops (c :: t)

namespace Guarded

variable {stops t u : Text}

theorem append (ht : Guarded stops t) (hu : Guarded stops u) : Guarded stops (t ++ u) := by
  induction ht with
  | nil => exact hu
  | escape c _ ih => exact escape c ih
  | single hc hstop _ ih => exact single hc hstop ih

/-- Fewer characters have to be protected. -/
theorem mono {stops' : Text} (ht : Guarded stops t) (hsub : stops' ⊆ stops) : Guarded stops' t := by
  induction ht with
  | nil => exact nil
  | escape c _ ih => exact escape c ih
  | single hc hstop _ ih => exact single hc (fun h => hstop (hsub h)) ih

/-- A text without backslashes and without the characters that would have to stand behind one. -/
theorem of_forall (h : ∀ c ∈ t, c ≠ '\\' ∧ c ∉ stops) : Guarded stops t := by
  induction t with
  | nil => exact nil
  | cons c t ih =>
    obtain ⟨hc, ht⟩ := List.forall_mem_cons.1 h
    exact single hc.1 hc.2 (ih ht)

/-- Behind what reads as a whole, a character that has to be protected is not. -/
theorem not_mem_stops {c : Char} (ht : Guarded [] t) (h : Guarded stops (t ++ c :: u)) (hc : c ≠ '\\') :
    c ∉ stops := by
  induction ht with
  | nil =>
    rw [List.nil_append] at h
    cases h with
    | escape d _ => exact absurd rfl hc
    | single _ hstop _ => exact hstop
  | escape d _ ih =>
    rw [List.cons_append, List.cons_append] at h
    cases h with
    | escape _ h => exact ih h
    | single hbar _ _ => exact absurd rfl hbar
  | @single d _ hd _ _ ih =>
    rw [List.cons_append] at h
    generalize hrest : _ ++ c :: u = rest at h
    cases h with
    | escape _ _ => exact absurd rfl hd
    | single _ _ h => exact ih (hrest ▸ h)

end Guarded

/-! ### Slashes -/

/-- No slash of a guarded text counts. -/
theorem afterSlash?_append_of_guarded {p : Text} (hp : Guarded ['/'] p) (t : Text) :
    afterSlash? (p ++ t) = afterSlash? t := by
  induction hp with
  | nil => rfl
  | escape c _ ih => exact ih
  | @single c p hc hslash _ ih =>
    rw [List.cons_append, afterSlash?, if_neg (by simpa using hslash), ih]
    intro d rest heq
    exact absurd heq hc

/-- The text in front of the slash that counts is guarded. -/
theorem exists_of_afterSlash?_eq_some {t rest : Text} (h : afterSlash? t = some rest) :
    ∃ p, Guarded ['/'] p ∧ t = p ++ '/' :: rest := by
  fun_induction afterSlash? t with
  | case1 => cases h
  | case2 c t ih =>
    obtain ⟨p, hp, rfl⟩ := ih h
    exact ⟨_, .escape c hp, rfl⟩
  | case3 t hpair =>
    cases h
    exact ⟨[], .nil, rfl⟩
  | case4 c t hpair hslash ih =>
    obtain ⟨p, hp, rfl⟩ := ih h
    refine ⟨c :: p, .single ?_ (by simpa using hslash) hp, rfl⟩
    rintro rfl
    cases p with
    | nil => exact hpair _ _ rfl rfl
    | cons d p => exact hpair _ _ rfl rfl

/-- What stands in front of a place in a text has no slash that counts, if the text has none. -/
theorem afterSlash?_of_append {t u : Text} (h : afterSlash? (t ++ u) = none) : afterSlash? t = none := by
  cases hslash : afterSlash? t with
  | none => rfl
  | some rest =>
    obtain ⟨p, hp, rfl⟩ := exists_of_afterSlash?_eq_some hslash
    rw [List.append_assoc, List.cons_append, afterSlash?_append_of_guarded hp] at h
    cases h

/-- Behind a text without slashes a semicolon does not count, be it protected or not. -/
theorem afterSlash?_append_semicolon {t : Text} (h : afterSlash? t = none) (u : Text) :
    afterSlash? (t ++ ';' :: u) = afterSlash? u := by
  fun_induction afterSlash? t with
  | case1 => rfl
  | case2 c t ih => exact ih h
  | case3 t hpair => cases h
  | case4 c t hpair hslash ih =>
    by_cases hbar : c = '\\' ∧ t = []
    · -- an open backslash takes the semicolon
      obtain ⟨rfl, rfl⟩ := hbar
      rfl
    · rw [List.cons_append, afterSlash?, if_neg hslash, ih h]
      rintro d rest rfl heq
      cases t with
      | nil => exact hbar ⟨rfl, rfl⟩
      | cons e t => exact hpair _ _ rfl rfl

/-! ### Bodies -/

/-- The body of a regular expression: a pattern, or a pattern and a replacement, between slashes. The replacement is
    not empty, and what it starts with after white space is no separator. -/
inductive IsBody : Text → Prop where
  | pattern {p : Text} (hp : Guarded ['/'] p) : IsBody ('/' :: (p ++ ['/']))
  | replacement {p r : Text} (hp : Guarded ['/'] p) (hr : Guarded ['/'] r) (hne : r ≠ [])
      (hfirst : ∀ c ∈ (Text.trimLeft r).head?, c ≠ '&' ∧ c ≠ ';') : IsBody ('/' :: (p ++ '/' :: (r ++ ['/'])))

/-- The body of a regular expression, as `IsBody` has it, of which what the replacement starts with after white space
    is none of `stops`. -/
inductive Delimited (stops : Text) : Text → Prop where
  | pattern {p : Text} (hp : Guarded ['/'] p) : Delimited stops ('/' :: (p ++ ['/']))
  | replacement {p r : Text} (hp : Guarded ['/'] p) (hr : Guarded ['/'] r) (hne : r ≠ [])
      (hfirst : ∀ c ∈ (Text.trimLeft r).head?, c ∉ stops) : Delimited stops ('/' :: (p ++ '/' :: (r ++ ['/'])))

theorem IsBody.delimited {b : Text} (h : IsBody b) : Delimited ['&', ';'] b := by
  cases h with
  | pattern hp => exact .pattern hp
  | replacement hp hr hne hfirst =>
    refine .replacement hp hr hne fun c hc hstop => ?_
    rcases List.mem_cons.1 hstop with rfl | hstop
    · exact (hfirst _ hc).1 rfl
    · exact (hfirst _ hc).2 (List.mem_singleton.1 hstop)

/-- What has been read of a body after its first slash when it is not closed yet: there is no second slash, or
    other than white space after it, and no third one. -/
def Unfinished (q : Text) : Prop :=
  afterSlash? q = none ∨ ∃ r, afterSlash? q = some r ∧ afterSlash? r = none ∧ Text.isBlank r = false

/-- Whether a body is closed is decided by what stands after its second slash. -/
theorem isCompleteBody_cons (q : Text) :
    isCompleteBody ('/' :: q) = match afterSlash? q with
      | none => false
      | some [] => true
      | some r => afterSlash? r == some [] := rfl

/-- A closed body has a pattern in front of its second slash, and behind it nothing or a replacement and a slash. -/
theorem exists_of_isCompleteBody {q : Text} (h : isCompleteBody ('/' :: q) = true) :
    ∃ p rest, Guarded ['/'] p ∧ q = p ++ '/' :: rest ∧
      (rest = [] ∨ ∃ r, Guarded ['/'] r ∧ rest = r ++ ['/']) := by
  rw [isCompleteBody_cons] at h
  cases hsecond : afterSlash? q with
  | none =>
    rw [hsecond] at h
    cases h
  | some rest =>
    obtain ⟨p, hp, rfl⟩ := exists_of_afterSlash?_eq_some hsecond
    refine ⟨p, rest, hp, rfl, ?_⟩
    cases rest with
    | nil => exact .inl rfl
    | cons c rest =>
      rw [hsecond] at h
      obtain ⟨r, hr, hrest⟩ := exists_of_afterSlash?_eq_some (beq_iff_eq.1 h)
      exact .inr ⟨r, hr, hrest⟩

/-- A closed body ends with a slash. -/
theorem exists_concat_of_isCompleteBody {q : Text} (h : isCompleteBody ('/' :: q) = true) :
    ∃ t, q = t ++ ['/'] := by
  obtain ⟨p, rest, -, rfl, rfl | ⟨r, -, rfl⟩⟩ := exists_of_isCompleteBody h
  · exact ⟨p, rfl⟩
  · exact ⟨p ++ '/' :: r, by simp⟩

theorem isCompleteBody_of_unfinished {q : Text} (h : Unfinished q) : isCompleteBody ('/' :: q) = false := by
  rw [isCompleteBody_cons]
  rcases h with h | ⟨r, h, hr, hblank⟩
  · rw [h]
  · cases r with
    | nil => cases hblank
    | cons c r => simp [h, hr]

namespace Delimited

variable {stops b : Text}

/-- Fewer separators are kept away from the replacement. -/
theorem mono {stops' : Text} (h : Delimited stops b) (hsub : stops' ⊆ stops) : Delimited stops' b := by
  cases h with
  | pattern hp => exact .pattern hp
  | replacement hp hr hne hfirst => exact .replacement hp hr hne fun c hc hstop => hfirst c hc (hsub hstop)

theorem isCompleteBody (h : Delimited stops b) : isCompleteBody b = true := by
  cases h with
  | pattern hp =>
    rw [isCompleteBody_cons, afterSlash?_append_of_guarded hp]
    rfl
  | @replacement p r hp hr hne _ =>
    have hsecond : afterSlash? (p ++ '/' :: (r ++ ['/'])) = some (r ++ ['/']) :=
      afterSlash?_append_of_guarded hp _
    have hthird : afterSlash? (r ++ ['/']) = some [] := afterSlash?_append_of_guarded hr _
    rw [isCompleteBody_cons, hsecond]
    cases r with
    | nil => exact absurd rfl hne
    | cons c r => simpa using hthird

/-- A body reads as a whole. -/
theorem guarded (h : Delimited stops b) : Guarded [] b := by
  have hslash : ∀ {t : Text}, Guarded [] t → Guarded [] ('/' :: t) := .single (by decide) (by simp)
  cases h with
  | pattern hp => exact hslash ((hp.mono (by simp)).append (hslash .nil))
  | replacement hp hr _ _ =>
    exact hslash ((hp.mono (by simp)).append (hslash ((hr.mono (by simp)).append (hslash .nil))))

/-- A body ends with a slash. -/
theorem exists_eq_concat (h : Delimited stops b) : ∃ t, b = '/' :: (t ++ ['/']) := by
  cases h with
  | pattern hp => exact ⟨_, rfl⟩
  | @replacement p r _ _ _ _ => exact ⟨p ++ '/' :: r, by simp⟩

theorem getLast?_eq (h : Delimited stops b) : b.getLast? = some '/' := by
  obtain ⟨t, rfl⟩ := h.exists_eq_concat
  rw [← List.cons_append, List.getLast?_concat]

/-- A body has no white space at its ends. -/
theorem trim_eq (h : Delimited stops b) : Text.trim b = b := by
  obtain ⟨t, rfl⟩ := h.exists_eq_concat
  have htail : Text.trimRight (t ++ ['/']) = t ++ ['/'] := Text.dropEndWhile_append_cons rfl t []
  rw [← List.nil_append ('/' :: _), Text.trim_append_cons rfl, htail]
  rfl

/-- In front of a separator inside a body, the body is not closed yet. -/
theorem unfinished {q t u : Text} (h : Delimited stops ('/' :: q)) {c : Char} (hc : c ∈ stops) (hslash : c ≠ '/')
    (hspace : Text.isSpace c = false) (hq : q = t ++ c :: u) : Unfinished t := by
  -- a separator in front of a closing slash stands inside what the slash closes
  have hinside : ∀ {s t : Text}, s ++ ['/'] = t ++ c :: u → ∃ v, s = t ++ c :: v := by
    intro s t heq
    rcases List.append_eq_append_iff.1 heq with ⟨a, rfl, ha⟩ | ⟨a, rfl, ha⟩
    · cases a with
      | nil => exact absurd (List.cons.inj ha).1.symm hslash
      | cons d a => simp at ha
    · cases a with
      | nil => exact absurd (List.cons.inj ha).1 hslash
      | cons d a =>
        obtain ⟨rfl, -⟩ := List.cons.inj ha
        exact ⟨a, rfl⟩
  generalize hb : '/' :: q = b at h
  cases h with
  | @pattern p hp =>
    obtain rfl := (List.cons.inj hb).2
    obtain ⟨v, rfl⟩ := hinside hq
    have hnone : afterSlash? (t ++ c :: v) = none := by
      simpa [afterSlash?] using afterSlash?_append_of_guarded hp []
    exact .inl (afterSlash?_of_append hnone)
  | @replacement p r hp hr hne hfirst =>
    obtain rfl := (List.cons.inj hb).2
    rcases List.append_eq_append_iff.1 hq with ⟨a, rfl, ha⟩ | ⟨a, rfl, ha⟩
    · -- the separator stands in the replacement
      cases a with
      | nil => exact absurd (List.cons.inj ha).1.symm hslash
      | cons d a =>
        obtain ⟨rfl, htail⟩ : '/' = d ∧ r ++ ['/'] = a ++ c :: u := List.cons.inj ha
        obtain ⟨v, rfl⟩ := hinside htail
        have hnone : afterSlash? (a ++ c :: v) = none := by
          simpa [afterSlash?] using afterSlash?_append_of_guarded hr []
        refine .inr ⟨a, afterSlash?_append_of_guarded hp _, afterSlash?_of_append hnone, ?_⟩
        rw [← Bool.not_eq_true, Text.isBlank]
        intro hblank
        have hhead : (Text.trimLeft (a ++ c :: v)).head? = some c := by
          rw [Text.trimLeft, List.dropWhile_append_of_pos (List.all_eq_true.1 hblank),
            List.dropWhile_cons_of_neg (by simp [hspace])]
          rfl
        exact hfirst c hhead hc
    · -- the separator stands in the pattern
      have hnone : afterSlash? (t ++ a) = none := by
        simpa [afterSlash?] using afterSlash?_append_of_guarded hp []
      exact .inl (afterSlash?_of_append hnone)

end Delimited

namespace IsBody

variable {b : Text}

theorem isCompleteBody (h : IsBody b) : isCompleteBody b = true := h.delimited.isCompleteBody

theorem guarded (h : IsBody b) : Guarded [] b := h.delimited.guarded

theorem exists_eq_concat (h : IsBody b) : ∃ t, b = '/' :: (t ++ ['/']) := h.delimited.exists_eq_concat

/-- In front of an ampersand inside a body, the body is not closed yet. -/
theorem unfinished {q t u : Text} (h : IsBody ('/' :: q)) (hq : q = t ++ '&' :: u) : Unfinished t :=
  h.delimited.unfinished (by simp) (by decide) rfl hq

end IsBody

/-! ### White space at the end of what has been read -/

/-- Two texts that stand for each other in front of a semicolon: the slashes that count are as many, and after the
    last of them the reading goes on behind the semicolon. -/
theorem Unfinished.semicolon_cases {q : Text} (h : Unfinished q) (u : Text) :
    (afterSlash? (q ++ ';' :: u) = afterSlash? u ∧ afterSlash? (Text.trimRight q ++ ';' :: u) = afterSlash? u) ∨
    ∃ r r', afterSlash? (q ++ ';' :: u) = some (r ++ ';' :: u) ∧
      afterSlash? (Text.trimRight q ++ ';' :: u) = some (r' ++ ';' :: u) ∧
      afterSlash? (r ++ ';' :: u) = afterSlash? u ∧ afterSlash? (r' ++ ';' :: u) = afterSlash? u := by
  rcases h with h | ⟨r, h, hr, -⟩
  · have htrimmed : afterSlash? (Text.trimRight q) = none := by
      obtain ⟨w, hw⟩ := Text.dropEndWhile_prefixed Text.isSpace q
      exact afterSlash?_of_append (u := w) (hw.symm ▸ h)
    exact .inl ⟨afterSlash?_append_semicolon h u, afterSlash?_append_semicolon htrimmed u⟩
  · obtain ⟨p, hp, rfl⟩ := exists_of_afterSlash?_eq_some h
    have htrimmed : afterSlash? (Text.trimRight r) = none := by
      obtain ⟨w, hw⟩ := Text.dropEndWhile_prefixed Text.isSpace r
      exact afterSlash?_of_append (u := w) (hw.symm ▸ hr)
    have hq : Text.trimRight (p ++ '/' :: r) = p ++ '/' :: Text.trimRight r :=
      Text.dropEndWhile_append_cons rfl p r
    refine .inr ⟨r, Text.trimRight r, ?_, ?_, afterSlash?_append_semicolon hr u,
      afterSlash?_append_semicolon htrimmed u⟩
    · rw [List.append_assoc, List.cons_append, afterSlash?_append_of_guarded hp]
      rfl
    · rw [hq, List.append_assoc, List.cons_append, afterSlash?_append_of_guarded hp]
      rfl

/-- White space in front of a semicolon does not close a body, nor does leaving it out. -/
theorem Unfinished.trimRight_append {q u : Text} (h : Unfinished q) (hu : Unfinished (q ++ ';' :: u)) :
    Unfinished (Text.trimRight q ++ ';' :: u) := by
  have hblank : ∀ r : Text, Text.isBlank (r ++ ';' :: u) = false := fun r => by
    simp [Text.isBlank, show Text.isSpace ';' = false from rfl]
  rcases h.semicolon_cases u with ⟨hwhole, htrimmed⟩ | ⟨r, r', hwhole, htrimmed, hr, hr'⟩
  · unfold Unfinished at hu ⊢
    rwa [htrimmed, ← hwhole]
  · have hnone : afterSlash? u = none := by
      rcases hu with hu | ⟨s, hu, hs, -⟩
      · rw [hwhole] at hu
        cases hu
      · rw [hwhole] at hu
        cases hu
        rwa [hr] at hs
    exact .inr ⟨_, htrimmed, hr'.trans hnone, hblank r'⟩

/-- A body is closed by the same slash when white space in front of a semicolon is left out. -/
theorem Unfinished.isCompleteBody_trimRight {q : Text} (h : Unfinished q) (u : Text) :
    isCompleteBody ('/' :: (Text.trimRight q ++ ';' :: u)) = isCompleteBody ('/' :: (q ++ ';' :: u)) := by
  have hcons : ∀ r : Text, (match some (r ++ ';' :: u) with
      | none => false
      | some [] => true
      | some s => afterSlash? s == some []) = (afterSlash? (r ++ ';' :: u) == some []) := by
    intro r
    cases r <;> rfl
  rw [isCompleteBody_cons, isCompleteBody_cons]
  rcases h.semicolon_cases u with ⟨hwhole, htrimmed⟩ | ⟨r, r', hwhole, htrimmed, hr, hr'⟩
  · rw [hwhole, htrimmed]
  · rw [hwhole, htrimmed, hcons, hcons, hr, hr']

theorem Unfinished.trimRight {q : Text} (h : Unfinished q) : Unfinished (Text.trimRight q) := by
  obtain ⟨w, hw⟩ := Text.dropEndWhile_prefixed Text.isSpace q
  rcases h with h | ⟨r, h, hr, hblank⟩
  · exact .inl (afterSlash?_of_append (u := w) (hw.symm ▸ h))
  · obtain ⟨p, hp, rfl⟩ := exists_of_afterSlash?_eq_some h
    -- the replacement keeps a character that is no white space
    obtain ⟨c, hc, hspace⟩ : ∃ c ∈ r, Text.isSpace c = false := by simpa [Text.isBlank] using hblank
    obtain ⟨r₁, r₂, rfl⟩ := List.append_of_mem hc
    have hq : Text.trimRight (p ++ '/' :: (r₁ ++ c :: r₂)) = p ++ '/' :: (r₁ ++ c :: Text.trimRight r₂) := by
      rw [Text.trimRight, Text.dropEndWhile_append_cons rfl, Text.dropEndWhile_append_cons hspace]
      rfl
    have hsuffix : r₁ ++ c :: Text.trimRight r₂ ++ w = r₁ ++ c :: r₂ := by
      have hwhole : Text.trimRight (p ++ '/' :: (r₁ ++ c :: r₂)) ++ w = p ++ '/' :: (r₁ ++ c :: r₂) := hw
      simpa [hq] using hwhole
    rw [hq]
    refine .inr ⟨_, afterSlash?_append_of_guarded hp _, ?_, by simp [Text.isBlank, hspace]⟩
    exact afterSlash?_of_append (hsuffix.symm ▸ hr)

end PageQuery.Query
