import Mathlib.Data.List.TakeWhile
import PageQuery.Proofs.Json.Closing
import PageQuery.Proofs.Transform.Assignment

namespace PageQuery.Transform

/-!
# Assignments in scripts

The literal in brackets that a script assigns to a name is looked for behind the name, and cut off at the first closing
bracket behind which a semicolon follows.

* `upTo?_concat`, `isSome_upTo?_concat`: where a literal is cut off;
* `IsWord`: names of ASCII letters;
* `valueAt?_spaced`: what stands behind the equals sign;
* `scriptOf`, `assignedAt?`: scripts, and what is assigned at a place of a text;
* `leftmost_scriptOf`: what is found in a script.
-/

open Regexp.Pattern (leftmost leftmost_append)
open Text (Closes)

/-! ### Ends -/

section

variable {close : Char}

/-- In a text with a bracket in it an assignment does not end for want of text. -/
theorem endsAssignment_concat {t : Text} {c : Char} (hc : c ∈ t) (hsolid : Text.isSpace c = false) :
    endsAssignment (t ++ [';']) = true ↔ (t.dropWhile Text.isSpace).head? = some ';' := by
  have hne : Text.trimLeft t ≠ [] := fun hnil => by
    rw [List.dropWhile_eq_nil_iff.1 hnil c hc] at hsolid
    cases hsolid
  obtain ⟨d, u, htrim⟩ := List.exists_cons_of_ne_nil hne
  have hmore : Text.trimLeft (t ++ [';']) = d :: (u ++ [';']) := by
    rw [Text.trimLeft, List.dropWhile_append, ← Text.trimLeft, htrim]
    rfl
  rw [endsAssignment_iff, hmore, ← Text.trimLeft, htrim]
  simp

/-- A literal with its closing bracket at the end is cut off at an earlier one if a semicolon follows that one. -/
theorem upTo?_concat (hclose : Text.isSpace close = false) (t : Text) :
    ∃ u v, t ++ [close] = u ++ v ∧ upTo? close (t ++ [close] ++ [';']) = some u ∧
      (v = [] ↔ ¬Closes Text.isSpace close (t ++ [close])) := by
  induction t with
  | nil =>
    refine ⟨[close], [], rfl, ?_, iff_of_true rfl ?_⟩
    · exact if_pos ⟨rfl, rfl⟩
    · rw [List.nil_append, Text.closes_cons]
      rintro (⟨-, h⟩ | h)
      · cases h
      · exact Text.not_closes_nil h
  | cons c t ih =>
    have hends := endsAssignment_concat (List.mem_append_right t (List.mem_singleton_self close)) hclose
    simp only [List.cons_append]
    rw [upTo?, Text.closes_cons, ← hends]
    by_cases hcut : c = close ∧ endsAssignment (t ++ [close] ++ [';']) = true
    · rw [if_pos hcut]
      exact ⟨[c], t ++ [close], rfl, rfl, iff_of_false (by simp) (not_not.2 (.inl hcut))⟩
    · obtain ⟨u, v, hsplit, hupTo, hclosed⟩ := ih
      rw [if_neg hcut, hupTo, or_iff_right hcut]
      exact ⟨c :: u, v, by rw [hsplit]; rfl, rfl, hclosed⟩

/-- In front of another bracket at the end, a literal is cut off only in front of a semicolon. -/
theorem isSome_upTo?_concat {c : Char} (hsolid : Text.isSpace c = false) (hne : c ≠ close) (hclose : ';' ≠ close)
    (t : Text) : (upTo? close (t ++ [c] ++ [';'])).isSome = true ↔ Closes Text.isSpace close (t ++ [c]) := by
  induction t with
  | nil => simp [upTo?, Text.closes_cons, Text.not_closes_nil, hne, hclose]
  | cons d t ih =>
    have hends := endsAssignment_concat (List.mem_append_right t (List.mem_singleton_self c)) hsolid
    simp only [List.cons_append]
    rw [upTo?, Text.closes_cons, ← hends]
    by_cases hcut : d = close ∧ endsAssignment (t ++ [c] ++ [';']) = true
    · rw [if_pos hcut]
      exact iff_of_true rfl (.inl hcut)
    · rw [if_neg hcut, Option.isSome_map, ih, or_iff_right hcut]

end

/-! ### Names -/

/-- A name of ASCII letters. -/
structure IsWord (name : Text) : Prop where
  nonempty : name ≠ []
  letters : ∀ c ∈ name, c.isAlpha = true

namespace IsWord

variable {name : Text} {c : Char}

theorem isSpace_eq_false (h : IsWord name) (hc : c ∈ name) : Text.isSpace c = false := by
  have hletter := h.letters c hc
  have hprintable := Json.isPrintable_of_isAlphanum (c := c) (by rw [Char.isAlphanum, hletter, Bool.true_or])
  rw [← Bool.not_eq_true]
  intro hspace
  obtain rfl := Json.eq_space_of_isPrintable hprintable hspace
  exact absurd hletter (by decide)

theorem notMem (h : IsWord name) (hc : c.isAlpha = false) : c ∉ name := fun hmem => by
  rw [h.letters c hmem] at hc
  cases hc

theorem trim_eq (h : IsWord name) : Text.trim name = name := Text.trim_of_forall fun _ hc => h.isSpace_eq_false hc

theorem after?_nil (h : IsWord name) : Text.after? name [] = none := by
  obtain ⟨d, u, rfl⟩ := List.exists_cons_of_ne_nil h.nonempty
  rfl

theorem after?_cons_eq_none (h : IsWord name) (hc : c.isAlpha = false) (t : Text) :
    Text.after? name (c :: t) = none := by
  obtain ⟨d, u, rfl⟩ := List.exists_cons_of_ne_nil h.nonempty
  rw [Text.after?, if_neg]
  rintro rfl
  exact h.notMem hc List.mem_cons_self

end IsWord

theorem after?_concat {lead : Text} {c : Char} (hc : c ∉ lead) (t : Text) :
    Text.after? lead (t ++ [c]) = (Text.after? lead t).map (· ++ [c]) := by
  induction lead generalizing t with
  | nil => rfl
  | cons a lead ih =>
    obtain ⟨ha, hlead⟩ := not_or.1 (mt List.mem_cons.2 hc)
    cases t with
    | nil => exact if_neg (Ne.symm ha)
    | cons b t =>
      rw [List.cons_append, Text.after?, Text.after?, ih hlead]
      split <;> rfl

theorem trimLeft_concat {c : Char} (hc : Text.isSpace c = false) (t : Text) :
    Text.trimLeft (t ++ [c]) = Text.trimLeft t ++ [c] := by
  have hlast : [c].dropWhile Text.isSpace = [c] := List.dropWhile_cons_of_neg (by simp [hc])
  rw [Text.trimLeft, Text.trimLeft, List.dropWhile_append, hlast]
  cases t.dropWhile Text.isSpace <;> rfl

theorem valueAt?_eq (name t : Text) : valueAt? name t = (Text.after? name t).bind fun u =>
    (Text.after? ['='] (Text.trimLeft u)).map Text.trimLeft := by
  rw [valueAt?]
  cases Text.after? name t with
  | none => rfl
  | some u =>
    show ((Text.after? ['='] (Text.trimLeft u)).bind fun u => some (Text.trimLeft u)) =
      (Text.after? ['='] (Text.trimLeft u)).map Text.trimLeft
    cases Text.after? ['='] (Text.trimLeft u) <;> rfl

/-- A semicolon at the end is passed on. -/
theorem valueAt?_concat {name : Text} (hname : IsWord name) (t : Text) :
    valueAt? name (t ++ [';']) = (valueAt? name t).map (· ++ [';']) := by
  rw [valueAt?_eq, valueAt?_eq, after?_concat (hname.notMem rfl)]
  cases Text.after? name t with
  | none => rfl
  | some u =>
    have hequals : ';' ∉ ['='] := by decide
    simp only [Option.map_some, Option.bind_some, trimLeft_concat (rfl : Text.isSpace ';' = false),
      after?_concat hequals]
    cases Text.after? ['='] (Text.trimLeft u) with
    | none => rfl
    | some u => exact congrArg some (trimLeft_concat rfl u)

theorem eq_of_valueAt? {name t u : Text} (h : valueAt? name t = some u) :
    ∃ gap v, (∀ c ∈ gap, Text.isSpace c = true) ∧ t = name ++ gap ++ '=' :: v ∧ u = Text.trimLeft v := by
  rw [valueAt?_eq] at h
  obtain ⟨rest, hrest, h⟩ := Option.bind_eq_some_iff.1 h
  obtain ⟨v, hv, rfl⟩ := Option.map_eq_some_iff.1 h
  have hequals : Text.trimLeft rest = '=' :: v := Text.after?_eq_some_iff.1 hv
  refine ⟨rest.takeWhile Text.isSpace, v, fun c hc => List.mem_takeWhile_imp hc, ?_, rfl⟩
  rw [Text.after?_eq_some_iff.1 hrest, ← hequals, List.append_assoc, Text.trimLeft, List.takeWhile_append_dropWhile]

theorem suffix_of_valueAt? {name t u : Text} (h : valueAt? name t = some u) : u <:+ t := by
  obtain ⟨gap, v, -, rfl, rfl⟩ := eq_of_valueAt? h
  exact ((List.dropWhile_suffix _).trans (List.suffix_cons '=' v)).trans (List.suffix_append _ _)

/-- Behind a text, a space and an equals sign stands what is assigned to this text as a name, if it is one. -/
theorem valueAt?_spaced {name : Text} (hname : IsWord name) {t : Text} (hequals : '=' ∉ t)
    (hlast : t.getLast?.any Text.isSpace = false) (u : Text) :
    valueAt? name (t ++ ' ' :: '=' :: u) = if t = name then some (Text.trimLeft u) else none := by
  split
  · next heq =>
    subst heq
    rw [valueAt?_eq, Text.after?_eq_some_iff.2 rfl]
    rfl
  · next hne =>
    rw [Option.eq_none_iff_forall_ne_some]
    intro r hr
    obtain ⟨gap, v, hgap, hsplit, -⟩ := eq_of_valueAt? hr
    have hleft : '=' ∉ t ++ [' '] := by simp [hequals]
    have hright : '=' ∉ name ++ gap := fun h => (List.mem_append.1 h).elim (hname.notMem rfl) fun h =>
      absurd (hgap '=' h) (by decide)
    have hcut := Text.cut_append hleft u
    rw [List.append_assoc, List.singleton_append, hsplit, Text.cut_append hright] at hcut
    have hstart : name ++ gap = t ++ [' '] := (Prod.mk.inj hcut).1
    -- the white space behind the name is the one space
    rcases List.eq_nil_or_concat gap with rfl | ⟨gap, g, rfl⟩
    · rw [List.append_nil] at hstart
      exact hname.notMem (c := ' ') rfl (hstart ▸ by simp)
    · rw [List.concat_eq_append, ← List.append_assoc] at hstart
      obtain ⟨rfl, -⟩ := List.append_inj' hstart rfl
      cases gap with
      | nil => exact hne (List.append_nil name)
      | cons c gap =>
        obtain ⟨d, hd⟩ : ∃ d, (c :: gap).getLast? = some d :=
          ⟨_, List.getLast?_eq_some_getLast (List.cons_ne_nil c gap)⟩
        have hspace : Text.isSpace d = true := hgap d (by
          rw [List.concat_eq_append]
          exact List.mem_append_left _ (List.mem_of_getLast? hd))
        rw [List.getLast?_append, hd] at hlast
        exact absurd (hspace.symm.trans hlast) nofun

theorem getLast?_any_of_forall {t : Text} (h : ∀ c ∈ t, Text.isSpace c = false) :
    t.getLast?.any Text.isSpace = false := by
  cases hlast : t.getLast? with
  | none => rfl
  | some c => exact h c (List.mem_of_getLast? hlast)

/-! ### Scripts -/

/-- A script that assigns a literal to a name. -/
def scriptOf (name literal : Text) : Text := "var " ++ name ++ " = " ++ literal ++ ";"

theorem scriptOf_eq (name literal : Text) :
    scriptOf name literal = ['v', 'a', 'r', ' '] ++ (name ++ ' ' :: '=' :: ' ' :: (literal ++ [';'])) := by
  show ['v', 'a', 'r', ' '] ++ name ++ [' ', '=', ' '] ++ literal ++ [';'] = _
  simp

/-- The literal of a form that is assigned to a name at the start of a text. -/
def assignedAt? (name : Text) (opening close : Char) (t : Text) : Option Text :=
  (valueAt? name t).bind (literalAt? opening close)

variable {name : Text} (opening close : Char)

theorem assignedAt?_cons_eq_none (hname : IsWord name) {c : Char} (hc : c.isAlpha = false) (t : Text) :
    assignedAt? name opening close (c :: t) = none := by
  rw [assignedAt?, valueAt?_eq, hname.after?_cons_eq_none hc]
  rfl

theorem assignedAt?_spaced (hname : IsWord name) {t : Text} (hequals : '=' ∉ t)
    (hlast : t.getLast?.any Text.isSpace = false) (u : Text) :
    assignedAt? name opening close (t ++ ' ' :: '=' :: u) =
      if t = name then literalAt? opening close (Text.trimLeft u) else none := by
  rw [assignedAt?, valueAt?_spaced hname hequals hlast]
  split <;> rfl

/-- Within the name and behind it nothing is assigned to the name. -/
theorem leftmost_rest (hname : IsWord name) {d : Char} {rest : Text} (hcons : name = d :: rest) (u : Text) :
    leftmost (assignedAt? name opening close) (rest ++ ' ' :: '=' :: ' ' :: u) =
      leftmost (assignedAt? name opening close) u := by
  have hsplit : rest ++ ' ' :: '=' :: ' ' :: u = (rest ++ [' ', '=', ' ']) ++ u := by simp
  rw [hsplit]
  refine leftmost_append fun x y hxy hy => ?_
  -- an end starts behind the name, or within it: then it is too short for a name
  rcases List.append_eq_append_iff.1 hxy with ⟨z, -, hz⟩ | ⟨z, hz, rfl⟩
  · obtain ⟨c, y, rfl⟩ := List.exists_cons_of_ne_nil hy
    have hmarks : ∀ c ∈ [' ', '=', ' '], c.isAlpha = false := Text.forall_mem_of_all (by decide)
    exact assignedAt?_cons_eq_none opening close hname (hmarks c (hz ▸ List.mem_append_right z List.mem_cons_self)) _
  · have hin : ∀ c ∈ z, c ∈ name := fun c hc => by
      rw [hcons, hz]
      exact List.mem_cons_of_mem d (List.mem_append_right x hc)
    have hshort : z ≠ name := fun heq => by
      have hlength := congrArg List.length hcons
      rw [← heq, hz, List.length_cons, List.length_append] at hlength
      omega
    have hvalue := assignedAt?_spaced opening close hname
      (fun h => hname.notMem (c := '=') rfl (hin _ h))
      (getLast?_any_of_forall fun c hc => hname.isSpace_eq_false (hin c hc)) (' ' :: u)
    rw [if_neg hshort] at hvalue
    rw [← hvalue]
    simp

/-- In a script the literal is looked for behind the equals sign, and then in the literal. -/
theorem leftmost_scriptOf (hname : IsWord name) {c : Char} (hc : Text.isSpace c = false) (t : Text) :
    leftmost (assignedAt? name opening close) (scriptOf name (c :: t)) =
      (literalAt? opening close (c :: t ++ [';'])).or
        (leftmost (assignedAt? name opening close) (c :: t ++ [';'])) := by
  have hequals : '=' ∉ name := hname.notMem rfl
  have hlast : ∀ y, (y ++ name).getLast?.any Text.isSpace = false := by
    intro y
    rw [List.getLast?_append, List.getLast?_eq_some_getLast hname.nonempty]
    exact hname.isSpace_eq_false (List.getLast_mem hname.nonempty)
  -- an end that starts in front of the name is longer than the name
  rw [scriptOf_eq, leftmost_append]
  · have hvalue := assignedAt?_spaced opening close hname hequals (hlast []) (' ' :: (c :: t ++ [';']))
    have htrim : Text.trimLeft (' ' :: (c :: t ++ [';'])) = c :: t ++ [';'] := by
      rw [Text.trimLeft, List.dropWhile_cons_of_pos rfl, List.cons_append, List.dropWhile_cons_of_neg (by simp [hc])]
    rw [if_pos rfl, htrim] at hvalue
    obtain ⟨d, rest, hcons⟩ := List.exists_cons_of_ne_nil hname.nonempty
    have hrest := leftmost_rest opening close hname hcons (c :: t ++ [';'])
    rw [← hvalue, ← hrest]
    subst hcons
    rfl
  · intro x y hsplit hy
    have hlead : '=' ∉ y := fun h => by
      have hmem : '=' ∈ ['v', 'a', 'r', ' '] := hsplit ▸ List.mem_append_right x h
      exact absurd hmem (by decide)
    have hvalue := assignedAt?_spaced opening close hname
      (fun h => (List.mem_append.1 h).elim hlead hequals) (hlast y) (' ' :: (c :: t ++ [';']))
    rw [if_neg (fun heq => hy (by simpa using heq))] at hvalue
    rwa [← List.append_assoc]

end PageQuery.Transform
