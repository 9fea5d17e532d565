import PageQuery.Proofs.Query.Items
import PageQuery.Proofs.Validation.Places
import Mathlib.Data.List.Basic

namespace PageQuery.Validation

/-!
# Where warnings stand

Warnings about templates stand at what they are about. A warning about a character in the pattern of a regular
expression does so where nothing stands before the slash that the pattern follows: the place is counted from the start
of the expression, whatever there is in front of that slash.

* `Doubt`: what may be wrong with a query, in words and as what stands where it is found;
* `Parted`: a text in two parts, of which the second starts at a place;
* `parted_of_mem_bareNames`, `parted_of_mem_placeholdersFrom`, `parted_of_mem_unbracedNames`: what is found in templates;
* `parted_of_regexpParameter?`: where a regular expression is found;
* `warnings_located`: all warnings of a query.
-/

open Query (Lexeme StandsBehind)

/-! ### Doubts -/

/-- What may be wrong with a query. -/
inductive Doubt where
  | special (c : Char)
  | missingPrefix
  | emptyName
  | paddedName
  | missingBraces

namespace Doubt

/-- A doubt in words. -/
def message : Doubt → Text
  | .special c => "Unescaped special character \"" ++ c :: "\" in regexp pattern"
  | .missingPrefix => "Template variable missing \"$\" prefix"
  | .emptyName => "Empty template variable"
  | .paddedName => "Template variable has leading/trailing whitespace"
  | .missingBraces => "Possible template variable without braces"

/-- Whether what is doubted stands at a place of a query. -/
def StandsAt (q : Text) (i : Nat) : Doubt → Prop
  | .special c => q[i]? = some c
  | .missingPrefix => q[i]? = some '\x7b' ∧ (q.take i).getLast? ≠ some '$'
  | .emptyName | .paddedName => ['$', '\x7b'] <+: q.drop i
  | .missingBraces => q[i]? = some '$' ∧ q[i + 1]? ≠ some '\x7b'

/-- What the words of a doubt start with. -/
def opening : Doubt → Text
  | .special _ => "Unescaped special ch"
  | .missingPrefix => "Template variable mi"
  | .emptyName => "Empty template varia"
  | .paddedName => "Template variable ha"
  | .missingBraces => "Possible template va"

theorem take_message (k : Doubt) : k.message.take 20 = k.opening := by
  cases k <;> rfl

/-- The words of a doubt tell which one it is. -/
theorem message_injective {k k' : Doubt} (h : k.message = k'.message) : k = k' := by
  have hopening : k.opening = k'.opening := by rw [← take_message, ← take_message, h]
  cases k with
  | special c =>
    cases k' with
    | special c' => rw [(List.cons.inj (List.append_cancel_left h)).1]
    | _ => exact absurd hopening (by dsimp only [opening]; decide)
  | missingPrefix =>
    cases k' with
    | missingPrefix => rfl
    | _ => exact absurd hopening (by dsimp only [opening]; decide)
  | emptyName =>
    cases k' with
    | emptyName => rfl
    | _ => exact absurd hopening (by dsimp only [opening]; decide)
  | paddedName =>
    cases k' with
    | paddedName => rfl
    | _ => exact absurd hopening (by dsimp only [opening]; decide)
  | missingBraces =>
    cases k' with
    | missingBraces => rfl
    | _ => exact absurd hopening (by dsimp only [opening]; decide)

end Doubt

/-! ### Places in a text -/

/-- A text is in two parts of a kind, of which the second starts at a place. Places are counted from a start. -/
def Parted (t : Text) (start i : Nat) (P : Text → Text → Prop) : Prop :=
  ∃ u v, t = u ++ v ∧ i = start + u.length ∧ P u v

section

variable {t : Text} {c : Char} {start i : Nat} {P Q : Text → Text → Prop}

/-- A text is parted at its start. -/
theorem Parted.nil (h : P [] t) : Parted t i i P := ⟨[], t, rfl, rfl, h⟩

/-- One more character in front of a text is in front of the place. -/
theorem Parted.cons (h : Parted t (start + 1) i P) (hPQ : ∀ u v, P u v → Q (c :: u) v) :
    Parted (c :: t) start i Q := by
  obtain ⟨u, v, rfl, rfl, huv⟩ := h
  refine ⟨c :: u, v, rfl, ?_, hPQ u v huv⟩
  rw [List.length_cons]
  omega

/-- What is parted in a segment behind its lead is parted in the query. -/
theorem Parted.exists_of_segment {q lead : Text} {offset : Nat} (h : Parted t 0 i P)
    (ht : lead ++ t <+: q.drop offset) :
    ∃ u v, P u v ∧ v <+: q.drop (offset + lead.length + i) ∧
      lead ++ u <:+ q.take (offset + lead.length + i) := by
  obtain ⟨u, v, rfl, hi, huv⟩ := h
  have hlength : (lead ++ u).length = lead.length + i := by rw [List.length_append, hi, Nat.zero_add]
  rw [← List.append_assoc] at ht
  have hv : v <+: ((lead ++ u) ++ v).drop (lead.length + i) := by
    rw [← hlength, List.drop_left]
  have hu : lead ++ u <:+ ((lead ++ u) ++ v).take (lead.length + i) := by
    rw [← hlength, List.take_left]
  refine ⟨u, v, huv, ?_, ?_⟩
  · rw [Nat.add_assoc]
    exact prefixed_of_segment ht hv
  · rw [Nat.add_assoc]
    refine suffixed_of_segment ht hu ?_
    rw [← hlength]
    exact (List.prefix_append (lead ++ u) v).length_le

end

/-! ### Templates -/

/-- Names start with characters that are neither braces nor dollar signs. -/
theorem exists_of_variableName?_eq_some {t name : Text} (h : variableName? t = some name) :
    ∃ c rest, t = c :: rest ∧ c ≠ '\x7b' := by
  cases t with
  | nil => cases h
  | cons c rest =>
    refine ⟨c, rest, rfl, ?_⟩
    rintro rfl
    rw [variableName?, if_neg (by decide)] at h
    cases h

/-- Names in braces that are found have a brace at their place, and no dollar sign before it. -/
theorem parted_of_mem_bareNames {before : Char} {t name : Text} {start i : Nat}
    (h : (i, name) ∈ bareNames before start t) :
    Parted t start i fun u v => v.head? = some '\x7b' ∧ (before :: u).getLast? ≠ some '$' := by
  induction t generalizing before start with
  | nil => cases h
  | cons c t ih =>
    rw [bareNames, List.mem_append] at h
    rcases h with h | h
    · split at h
      · split at h
        · next hbare =>
          obtain ⟨rfl, -⟩ : i = start ∧ name = _ := by simpa using h
          simp only [Bool.and_eq_true, decide_eq_true_eq, bne_iff_ne] at hbare
          obtain ⟨⟨rfl, hbefore⟩, -⟩ := hbare
          refine Parted.nil ⟨rfl, fun hlast => hbefore ?_⟩
          exact Option.some.inj hlast
        · cases h
      · cases h
    · refine (ih h).cons fun u v huv => ⟨huv.1, ?_⟩
      rw [List.getLast?_cons_cons]
      exact huv.2

/-- Names without braces that are found have a dollar sign at their place, and no brace behind it. -/
theorem parted_of_mem_unbracedNames {t name : Text} {start i : Nat} (h : (i, name) ∈ unbracedNames start t) :
    Parted t start i fun _ v => ∃ c rest, v = '$' :: c :: rest ∧ c ≠ '\x7b' := by
  induction t generalizing start with
  | nil => cases h
  | cons c t ih =>
    rw [unbracedNames, List.mem_append] at h
    rcases h with h | h
    · split at h
      · next found hname =>
        split at h
        · next hdollar =>
          obtain ⟨rfl, -⟩ : i = start ∧ name = found := by simpa using h
          obtain ⟨d, rest, rfl, hd⟩ := exists_of_variableName?_eq_some hname
          exact Parted.nil ⟨d, rest, by rw [hdollar], hd⟩
        · cases h
      · cases h
    · exact (ih h).cons fun _ _ huv => huv

/-- Placeholders that are found start at their place. -/
theorem parted_of_mem_placeholdersFrom {skip start i : Nat} {t inner : Text}
    (h : (i, inner) ∈ placeholdersFrom skip start t) :
    Parted t start i fun _ v => ['$', '\x7b'] <+: v := by
  induction t generalizing skip start with
  | nil => cases skip <;> cases h
  | cons c rest ih =>
    -- past the first character the search goes on, whether it was the start of a placeholder or not
    have hrest : ∀ {skip}, (i, inner) ∈ placeholdersFrom skip (start + 1) rest →
        Parted (c :: rest) start i fun _ v => ['$', '\x7b'] <+: v := fun h => (ih h).cons fun _ _ huv => huv
    cases skip with
    | succ skip => exact hrest h
    | zero =>
      rw [placeholdersFrom.eq_def] at h
      dsimp only at h
      split at h
      · next inside =>
        split at h
        · rcases List.mem_cons.1 h with h | h
          · obtain ⟨rfl, -⟩ := Prod.mk.inj h
            exact Parted.nil (List.prefix_append ['$', '\x7b'] inside)
          · exact hrest h
        · exact hrest h
      · exact hrest h

/-- What may be wrong with a placeholder is that it is empty or padded. -/
theorem message_of_checkPlaceholder {inner message suggestion : Text}
    (h : checkPlaceholder inner = some (message, suggestion)) :
    message = Doubt.emptyName.message ∨ message = Doubt.paddedName.message := by
  unfold checkPlaceholder at h
  dsimp only at h
  split at h
  · exact .inl (Prod.mk.inj (Option.some.inj h)).1.symm
  · split at h
    · exact .inr (Prod.mk.inj (Option.some.inj h)).1.symm
    · cases h

/-- A query does not end with a character in front of a place if neither the lead of a segment does nor what stands
    between that lead and the place. -/
theorem getLast?_ne_of_behind {q lead u : Text} {i : Nat} {c d : Char} (hne : lead ≠ [])
    (hlead : lead.getLast? ≠ some d) (hu : (c :: u).getLast? ≠ some d) (h : lead ++ u <:+ q.take i) :
    (q.take i).getLast? ≠ some d := by
  obtain ⟨w, hw⟩ := h
  rw [← hw, List.getLast?_append_of_ne_nil w (List.append_ne_nil_of_left_ne_nil hne u)]
  cases u with
  | nil => rwa [List.append_nil]
  | cons b u =>
    rw [List.getLast?_cons_cons] at hu
    rwa [List.getLast?_append_of_ne_nil lead (List.cons_ne_nil b u)]

/-- Warnings about templates stand at what they are about. -/
theorem standsAt_of_mem_checkTemplate {q : Text} {p : Placed} {f : Finding} (hp : p.text <+: q.drop p.offset)
    (hf : f ∈ checkTemplate p) :
    ∃ k : Doubt, f.message = k.message ∧ (∀ c, k ≠ .special c) ∧ k.StandsAt q f.position := by
  unfold checkTemplate at hf
  split at hf
  · cases hf
  · next content hcontent =>
    rw [Text.after?_eq_some_iff.1 hcontent] at hp
    simp only [List.mem_append, List.mem_map, List.mem_filterMap] at hf
    rcases hf with (⟨⟨i, name⟩, hmem, rfl⟩ | ⟨⟨i, inner⟩, hmem, hcheck⟩) | ⟨⟨i, name⟩, hmem, rfl⟩
    · refine ⟨.missingPrefix, rfl, nofun, ?_⟩
      obtain ⟨u, v, ⟨hhead, hlast⟩, hv, hu⟩ := (parted_of_mem_bareNames hmem).exists_of_segment hp
      obtain ⟨rest, rfl⟩ := List.head?_eq_some_iff.1 hhead
      exact ⟨getElem?_of_segment hv (i := 0) rfl, getLast?_ne_of_behind (by decide) (by decide) hlast hu⟩
    · obtain ⟨⟨message, suggestion⟩, hdoubt, rfl⟩ := Option.map_eq_some_iff.1 hcheck
      obtain ⟨u, v, hstart, hv, -⟩ := (parted_of_mem_placeholdersFrom hmem).exists_of_segment hp
      have hopens : ['$', '\x7b'] <+: q.drop (p.offset + "template:".length + i) := hstart.trans hv
      rcases message_of_checkPlaceholder hdoubt with rfl | rfl
      · exact ⟨.emptyName, rfl, nofun, hopens⟩
      · exact ⟨.paddedName, rfl, nofun, hopens⟩
    · refine ⟨.missingBraces, rfl, nofun, ?_⟩
      obtain ⟨u, v, ⟨c, rest, rfl, hc⟩, hv, -⟩ := (parted_of_mem_unbracedNames hmem).exists_of_segment hp
      have hbehind := getElem?_of_segment hv (i := 1) rfl
      refine ⟨getElem?_of_segment hv (i := 0) rfl, fun hbrace => hc ?_⟩
      exact Option.some.inj (hbehind.symm.trans hbrace)

/-! ### Regular expressions -/

/-- Before the first regular expression that is found stands the name of a parameter. -/
theorem parted_of_regexpParameter? {start i : Nat} {t r : Text} (h : regexpParameter? start t = some (i, r)) :
    Parted t start i fun u v =>
      (∃ mark ∈ ['?', '&'], ∃ name ∈ ["transform=regexp:".toList, "regexp=".toList], mark :: name <:+ u) ∧
        r <+: v := by
  fun_induction regexpParameter? start t with
  | case1 => cases h
  | case2 start c rest found g hfound =>
    obtain rfl := Option.some.inj h
    unfold found at hfound
    split at hfound
    · next hmark =>
      obtain ⟨hnamed, -⟩ := Option.filter_eq_some_iff.1 hfound
      obtain ⟨name, hname, hafter⟩ := List.exists_of_findSome?_eq_some hnamed
      obtain ⟨after, hrest, heq⟩ := Option.map_eq_some_iff.1 hafter
      obtain ⟨rfl, rfl⟩ := Prod.mk.inj heq
      obtain rfl := Text.after?_eq_some_iff.1 hrest
      have hmark : c ∈ ['?', '&'] := by simpa using hmark
      refine ⟨c :: name, after, rfl, ?_, ⟨c, hmark, name, hname, List.suffix_rfl⟩, List.takeWhile_prefix _⟩
      rw [List.length_cons]
      omega
    · cases hfound
  | case3 start c rest found hfound ih =>
    refine (ih h).cons fun u v huv => ?_
    obtain ⟨⟨mark, hmark, name, hname, hu⟩, hv⟩ := huv
    exact ⟨⟨mark, hmark, name, hname, hu.trans (List.suffix_cons c u)⟩, hv⟩

/-- A segment gives a regular expression as its first one, at a place: `lead` is what stands in it before the first
    slash that no backslash precedes, and `pattern` what stands between that slash and the next one. -/
def GivesPattern (t : Text) (i : Nat) (lead pattern : Text) : Prop :=
  ∃ r others, regexpParameter? 0 t = some (i, r) ∧ Query.splitUnescaped '/' r = lead :: pattern :: others

/-- The expression that a segment gives stands in it. -/
theorem GivesPattern.prefixed {t lead pattern : Text} {i : Nat} (h : GivesPattern t i lead pattern) :
    lead ++ '/' :: pattern <+: t.drop i := by
  obtain ⟨r, others, hr, hsplit⟩ := h
  obtain ⟨u, v, rfl, hi, -, hv⟩ := parted_of_regexpParameter? hr
  rw [hi, Nat.zero_add, List.drop_left]
  exact (Query.prefixed_of_splitUnescaped hsplit).trans hv

/-- Counted from the start of an expression and not from its slash, a character of the pattern is met at its place if
    nothing stands before the slash, or if it happens to stand there, too. -/
theorem getElem?_idxOf_iff {lead pattern : Text} {c : Char} (hc : c ∈ pattern) (hslash : c ≠ '/') :
    (lead ++ '/' :: pattern)[pattern.idxOf c + 1]? = some c ↔ lead = [] ∨ lead[pattern.idxOf c + 1]? = some c := by
  obtain ⟨u, v, rfl, hu⟩ := List.eq_append_cons_of_mem hc
  have hfirst : (u ++ c :: v).idxOf c = u.length := by
    rw [List.idxOf_append_of_notMem hu, List.idxOf_cons_self, Nat.add_zero]
  rw [hfirst, List.getElem?_append]
  by_cases hlead : lead = []
  · simp [hlead]
  · split
    · simp [hlead]
    · next hbeyond =>
      have hnone : lead[u.length + 1]? = none := List.getElem?_eq_none (Nat.le_of_not_lt hbeyond)
      have hpos := List.length_pos_iff.2 hlead
      -- the place is in front of the character that is meant, which is the first of its kind
      rw [← List.cons_append, List.getElem?_append_left (by rw [List.length_cons]; omega), hnone]
      refine ⟨fun hmet => ?_, ?_⟩
      · rcases List.mem_cons.1 (List.mem_of_getElem? hmet) with hmem | hmem
        · exact absurd hmem hslash
        · exact absurd hmem hu
      · rintro (hnil | hmet)
        · exact absurd hnil hlead
        · cases hmet

/-- Where an expression stands in a query, a character of its pattern is met as far behind the place that is counted
    from the start of the expression as its lead is long, and at the place what the expression has there. -/
theorem getElem?_of_expression {q lead pattern : Text} {start : Nat} {c : Char}
    (h : lead ++ '/' :: pattern <+: q.drop start) (hc : c ∈ pattern) :
    q[start + (pattern.idxOf c + 1) + lead.length]? = some c ∧
      q[start + (pattern.idxOf c + 1)]? = (lead ++ '/' :: pattern)[pattern.idxOf c + 1]? := by
  have hfirst : (lead ++ '/' :: pattern)[lead.length + (pattern.idxOf c + 1)]? = some c := by
    rw [List.getElem?_append_right (Nat.le_add_right _ _), Nat.add_sub_cancel_left, List.getElem?_cons_succ,
      List.getElem?_idxOf hc]
  have hinside : pattern.idxOf c + 1 < (lead ++ '/' :: pattern).length := by
    have hlt := List.idxOf_lt_length_iff.2 hc
    rw [List.length_append, List.length_cons]
    omega
  refine ⟨?_, ?_⟩
  · rw [Nat.add_assoc, Nat.add_comm _ lead.length]
    exact getElem?_of_segment h hfirst
  · rw [List.getElem?_eq_getElem hinside]
    exact getElem?_of_segment h (List.getElem?_eq_getElem hinside)

/-- Slashes are not special. -/
theorem ne_slash_of_mem_specials {c : Char} {meaning : Text} (h : (c, meaning) ∈ specials) : c ≠ '/' := by
  have hall : ∀ x ∈ specials, x.1 ≠ '/' := by decide
  exact hall _ h

/-- A warning about a regular expression is about a special character in the pattern of the one that the segment gives.
    The place is counted as if nothing stood before the slash. -/
theorem exists_of_mem_checkRegexp {p : Placed} {f : Finding} (hf : f ∈ checkRegexp p) :
    ∃ c i lead pattern, f.message = (Doubt.special c).message ∧ f.part = some p.index ∧
      GivesPattern p.text i lead pattern ∧ c ∈ pattern ∧ c ≠ '/' ∧
      f.position = p.offset + i + (pattern.idxOf c + 1) := by
  unfold checkRegexp at hf
  split at hf
  · cases hf
  · next i r hr =>
    split at hf
    · next lead pattern others hsplit =>
      split at hf
      · cases hf
      · next c meaning hfound =>
        obtain rfl := List.mem_singleton.1 hf
        have hdoubtful := List.find?_some hfound
        have hc : c ∈ pattern := by
          simp only [Bool.and_eq_true, List.contains_iff_mem] at hdoubtful
          exact hdoubtful.1
        have hslash := ne_slash_of_mem_specials (List.mem_of_find?_eq_some hfound)
        refine ⟨c, i, lead, pattern, rfl, rfl, ⟨r, others, hr, hsplit⟩, hc, hslash, ?_⟩
        show p.offset + i + 1 + pattern.idxOf c = p.offset + i + (pattern.idxOf c + 1)
        omega
    · cases hf

/-! ### All warnings -/

/-- A warning of a query is about a template or about a regular expression. -/
theorem cases_of_mem_warnings {q : Text} {f : Finding} (hf : f ∈ (validate q).warnings) :
    ∃ p ∈ segmentsOf q, f ∈ checkRegexp p ∨ f ∈ checkTemplate p := by
  have hwarnings : (validate q).warnings = (segmentsOf q).flatMap fun p => checkRegexp p ++ checkTemplate p := rfl
  rw [hwarnings, List.mem_flatMap] at hf
  obtain ⟨p, hp, hf⟩ := hf
  exact ⟨p, hp, List.mem_append.1 hf⟩

/-- Every warning of a query tells of something that may be wrong. What may be wrong with a template stands at the place
    of the warning. A character in the pattern of a regular expression stands as far behind it as the text in front of
    the slash of the expression is long, and at the place itself exactly if there is no such text, or if that text has
    the same character there. -/
theorem warnings_located {q : Text} {f : Finding} (hf : f ∈ (validate q).warnings) :
    (∃ k : Doubt, f.message = k.message) ∧
      (∀ k : Doubt, f.message = k.message → (∀ c, k ≠ .special c) → k.StandsAt q f.position) ∧
      ∀ c, f.message = (Doubt.special c).message → ∃ before offset t i lead pattern,
        StandsBehind q before offset t ∧ f.part = some (before.filterMap Lexeme.segment?).length ∧
        GivesPattern t i lead pattern ∧ lead ++ '/' :: pattern <+: q.drop (offset + i) ∧
        (Doubt.special c).StandsAt q (f.position + lead.length) ∧
        ((Doubt.special c).StandsAt q f.position ↔ lead = [] ∨ lead[pattern.idxOf c + 1]? = some c) := by
  obtain ⟨p, hp, hf⟩ := cases_of_mem_warnings hf
  obtain ⟨before, hstands, hindex⟩ := standsBehind_of_mem_segmentsOf hp
  rcases hf with hf | hf
  · obtain ⟨c, i, lead, pattern, hmessage, hpart, hgives, hc, hslash, hposition⟩ := exists_of_mem_checkRegexp hf
    -- the words leave no doubt about the character, so that the other statements are not about this warning
    have honly : ∀ k : Doubt, f.message = k.message → k = .special c := fun k hk =>
      Doubt.message_injective (hk.symm.trans hmessage)
    refine ⟨⟨_, hmessage⟩, fun k hk hother => absurd (honly k hk) (hother c), fun c' hc' => ?_⟩
    obtain rfl := Doubt.special.inj (honly _ hc')
    have hexpression := prefixed_of_segment hstands.prefixed hgives.prefixed
    obtain ⟨hbehind, hthere⟩ := getElem?_of_expression hexpression hc
    rw [← hposition] at hbehind hthere
    refine ⟨before, p.offset, p.text, i, lead, pattern, hstands, hpart.trans (congrArg some hindex.symm), hgives,
      hexpression, hbehind, ?_⟩
    rw [Doubt.StandsAt, hthere]
    exact getElem?_idxOf_iff hc hslash
  · obtain ⟨k, hmessage, hother, hk⟩ := standsAt_of_mem_checkTemplate hstands.prefixed hf
    have honly : ∀ k' : Doubt, f.message = k'.message → k' = k := fun k' hk' =>
      Doubt.message_injective (hk'.symm.trans hmessage)
    refine ⟨⟨k, hmessage⟩, fun k' hk' _ => ?_, fun c hc => absurd (honly _ hc).symm (hother c)⟩
    rw [honly k' hk']
    exact hk

/-- A name in braces in the second segment, where the first one has a dot that may be special. -/
theorem warnings_located_braces :
    ∃ f : Finding, f ∈ (validate "json:a?regexp=/a.b/ ++ template:b{c}").warnings ∧ f.position = 33 ∧
      f.message = Doubt.missingPrefix.message ∧
      Doubt.missingPrefix.StandsAt "json:a?regexp=/a.b/ ++ template:b{c}" f.position := by
  obtain ⟨f, g, hf, hposition, hmessage⟩ : ∃ f g : Finding,
      (validate "json:a?regexp=/a.b/ ++ template:b{c}").warnings = [g, f] ∧ f.position = 33 ∧
        f.message = Doubt.missingPrefix.message := ⟨_, _, rfl, rfl, rfl⟩
  have hmem : f ∈ (validate "json:a?regexp=/a.b/ ++ template:b{c}").warnings := by
    rw [hf]
    exact List.mem_cons_of_mem g (List.mem_singleton_self f)
  obtain ⟨-, hstands, -⟩ := warnings_located hmem
  exact ⟨f, hmem, hposition, hmessage, hstands _ hmessage nofun⟩

/-- A dot in a pattern, with a letter in front of the slash: the dot stands one place behind that of the warning. -/
theorem special_misplaced :
    ∃ f : Finding, (validate "json:a?regexp=x/a.b/").warnings = [f] ∧
      f.message = (Doubt.special '.').message ∧ f.position = 16 ∧
      GivesPattern "json:a?regexp=x/a.b/" 14 "x" "a.b" ∧
      ¬(Doubt.special '.').StandsAt "json:a?regexp=x/a.b/" f.position ∧
      (Doubt.special '.').StandsAt "json:a?regexp=x/a.b/" 17 := by
  obtain ⟨f, hf, hmessage, hposition⟩ : ∃ f : Finding, (validate "json:a?regexp=x/a.b/").warnings = [f] ∧
      f.message = (Doubt.special '.').message ∧ f.position = 16 := ⟨_, rfl, rfl, rfl⟩
  refine ⟨f, hf, hmessage, hposition, ⟨_, _, rfl, rfl⟩, ?_, rfl⟩
  rw [hposition]
  show "json:a?regexp=x/a.b/".toList[16]? ≠ some '.'
  decide

end PageQuery.Validation
