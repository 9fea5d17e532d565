import PageQuery.Proofs.Json.Prefix
import PageQuery.Proofs.Run
import PageQuery.Proofs.Transform.Script

namespace PageQuery.Transform

/-!
# Extracting an assigned literal

A map or a list that is written as JSON and assigned to a name in a script is found as it is, unless a text in it has a
closing bracket and a semicolon behind it: there the literal is cut off, and what is left is no JSON text. A list has
another rival: since maps are looked for first, a map that a text inside assigns to the name comes before it.

* `decodeText?_bracketed`, `exec_decodeOrWarn_fst`: literals in brackets are decoded as JSON texts;
* `getD_read?_eq_iff`: a literal that is cut off is no JSON text;
* `Shadows`, `not_shadows`, `isSome_leftmost_map_iff`: texts in which a map is assigned to a name;
* `assigned?_scriptOf_map`, `assigned?_scriptOf_list`: the literals that are found;
* `applyJson_assignment_iff`: when the value that is written is the value that is found.
-/

open Regexp.Pattern (leftmost exists_of_leftmost_eq_some isSome_leftmost_iff)
open Text (Closes)

/-! ### Decoding -/

/-- A text in brackets is decoded once. -/
theorem decodeText?_bracketed {c : Char} (hc : c = '[' ∨ c = '{') (t : Text) :
    decodeText? (c :: t) = Json.read? (c :: t) := by
  -- only JSON text in quotes would be decoded once more
  have hcompound : ∀ inner, Json.read? (c :: t) ≠ some (.scalar (.text inner)) := by
    intro inner htext
    have hread : Json.read (c :: t) = .ok (.scalar (.text inner)) := by
      rw [Json.read?] at htext
      cases h : Json.read (c :: t) with
      | error f =>
        rw [h] at htext
        cases htext
      | ok v =>
        rw [h] at htext
        cases htext
        rfl
    rcases hc with rfl | rfl
    · obtain ⟨vs, hlist⟩ := Json.exists_of_read_list hread
      cases hlist
    · obtain ⟨es, hmap⟩ := Json.exists_of_read_map hread
      cases hmap
  rw [decodeText?]
  split
  · next inner htext => exact absurd htext (hcompound inner)
  · rfl

theorem exec_decodeOrWarn_fst (t : Text) (s : Session) :
    ((decodeOrWarn t).exec s).1 = .ok ((decodeText? t).getD (.text t)) := by
  rw [decodeOrWarn]
  cases decodeText? t with
  | some v => rfl
  | none =>
    dsimp only
    split <;> rfl

/-- A literal that is cut off is no JSON text, since a bracket is left out. -/
theorem getD_read?_eq_iff {c d : Char} (hc : c = '[' ∨ c = '{') (hd : Json.isGap d = false) {t u z : Text} {v : Value}
    (hsplit : t ++ [d] = u ++ z) (hv : v ≠ .text (c :: u)) (h : Json.read (c :: (t ++ [d])) = .ok v) :
    (Json.read? (c :: u)).getD (.text (c :: u)) = v ↔ z = [] := by
  rw [hsplit] at h
  constructor
  · intro hdecode
    rcases List.eq_nil_or_concat z with hnil | ⟨y, x, hlast⟩
    · exact hnil
    -- what is left out ends with the closing bracket, which is no white space
    rw [List.concat_eq_append] at hlast
    subst hlast
    rw [← List.append_assoc] at hsplit
    obtain ⟨-, heq⟩ := List.append_inj' hsplit rfl
    obtain rfl := List.singleton_inj.1 heq
    cases hread : Json.read (c :: u) with
    | error f =>
      rw [Json.read?, hread] at hdecode
      exact absurd hdecode.symm hv
    | ok v' =>
      have hgap := Json.isBlank_of_read_append hc hread h d (List.mem_append_right y (List.mem_singleton_self d))
      rw [hgap] at hd
      cases hd
  · rintro rfl
    rw [List.append_nil] at h
    rw [Json.read?, h]
    rfl

/-! ### Rivals -/

variable {name : Text}

/-- In a text a map is assigned to a name: behind the name come an equals sign and an opening brace, and somewhere
    behind these a closing brace in front of a semicolon. -/
def Shadows (name w : Text) : Prop :=
  ∃ t u, t <:+ w ∧ valueAt? name t = some ('{' :: u) ∧ Closes Text.isSpace '}' u

/-- Without an equals sign nothing is assigned. -/
theorem not_shadows {w : Text} (h : '=' ∉ w) : ¬Shadows name w := by
  rintro ⟨t, u, ht, hvalue, -⟩
  obtain ⟨gap, v, -, rfl, -⟩ := eq_of_valueAt? hvalue
  exact h (ht.mem (List.mem_append_right _ List.mem_cons_self))

theorem exists_concat_of_suffix {c d : Char} (hne : c ≠ d) {t u : Text} (h : c :: u <:+ t ++ [d]) :
    ∃ r, u = r ++ [d] := by
  rcases List.suffix_concat_iff.1 h with hnil | ⟨r, hr, -⟩
  · cases hnil
  · cases r with
    | nil => exact absurd (List.cons.inj hr).1 hne
    | cons x r => exact ⟨r, (List.cons.inj hr).2⟩

/-- What is found at a place of a list's text. -/
theorem isSome_assignedAt?_concat (hname : IsWord name) {t y : Text} (hy : y <:+ t ++ [']']) :
    (assignedAt? name '{' '}' (y ++ [';'])).isSome = true ↔
      ∃ u, valueAt? name y = some ('{' :: u) ∧ Closes Text.isSpace '}' u := by
  rw [assignedAt?, valueAt?_concat hname]
  cases hvalue : valueAt? name y with
  | none => simp
  | some x =>
    cases x with
    | nil => simp [literalAt?]
    | cons c u =>
      rw [Option.map_some, Option.bind_some, List.cons_append, literalAt?]
      by_cases hc : c = '{'
      · subst hc
        -- the bracket of the list keeps an assignment from ending for want of text
        obtain ⟨r, rfl⟩ := exists_concat_of_suffix (by decide) ((suffix_of_valueAt? hvalue).trans hy)
        rw [if_pos rfl, Option.isSome_map, isSome_upTo?_concat rfl (by decide) (by decide)]
        simp
      · rw [if_neg hc]
        simp [hc]

/-- A map is found in a list's text if one is assigned to the name there. -/
theorem isSome_leftmost_map_iff (hname : IsWord name) (t : Text) :
    (leftmost (assignedAt? name '{' '}') (t ++ [']'] ++ [';'])).isSome = true ↔ Shadows name (t ++ [']']) := by
  rw [isSome_leftmost_iff]
  constructor
  · rintro ⟨x, hx, hsome⟩
    rcases List.suffix_concat_iff.1 hx with rfl | ⟨y, rfl, hy⟩
    · rw [assignedAt?, valueAt?_eq, hname.after?_nil] at hsome
      cases hsome
    · obtain ⟨u, hvalue, hcloses⟩ := (isSome_assignedAt?_concat hname hy).1 hsome
      exact ⟨y, u, hy, hvalue, hcloses⟩
  · rintro ⟨y, u, hy, hfound⟩
    exact ⟨y ++ [';'], List.suffix_concat_iff.2 (.inr ⟨y, rfl, hy⟩), (isSome_assignedAt?_concat hname hy).2 ⟨u, hfound⟩⟩

/-! ### Literals that are found -/

theorem assigned?_of_map (hname : IsWord name) {t literal : Text}
    (h : leftmost (assignedAt? name '{' '}') t = some literal) : assigned? name t = some literal := by
  obtain ⟨forms, hforms⟩ := exists_literalForms
  have hbrace : Text.isSpace '{' = false := rfl
  have hsearch := (search_bracketed (hname.notMem rfl) hbrace t).trans h
  rw [assigned?, hforms, List.findSome?_cons, hsearch]

theorem assigned?_of_list (hname : IsWord name) {t literal : Text}
    (hmap : leftmost (assignedAt? name '{' '}') t = none)
    (h : leftmost (assignedAt? name '[' ']') t = some literal) : assigned? name t = some literal := by
  obtain ⟨forms, hforms⟩ := exists_literalForms
  have hbrace : Text.isSpace '{' = false := rfl
  have hbracket : Text.isSpace '[' = false := rfl
  have hnone := (search_bracketed (hname.notMem rfl) hbrace t).trans hmap
  have hsearch := (search_bracketed (hname.notMem rfl) hbracket t).trans h
  rw [assigned?, hforms, List.findSome?_cons, hnone, List.findSome?_cons, hsearch]

/-- What is found at a place starts with the opening bracket. -/
theorem exists_of_assignedAt? {opening close : Char} {t literal : Text}
    (h : assignedAt? name opening close t = some literal) : ∃ u, literal = opening :: u := by
  obtain ⟨x, -, hliteral⟩ := Option.bind_eq_some_iff.1 h
  cases x with
  | nil => cases hliteral
  | cons c x =>
    rw [literalAt?] at hliteral
    split at hliteral
    · next hc =>
      obtain ⟨u, -, rfl⟩ := Option.map_eq_some_iff.1 hliteral
      exact ⟨u, hc ▸ rfl⟩
    · cases hliteral

/-- A map is found up to a closing brace in front of a semicolon. -/
theorem assigned?_scriptOf_map (hname : IsWord name) (t : Text) :
    ∃ u z, t ++ ['}'] = u ++ z ∧ assigned? name (scriptOf name ('{' :: (t ++ ['}']))) = some ('{' :: u) ∧
      (z = [] ↔ ¬Closes Text.isSpace '}' (t ++ ['}'])) := by
  obtain ⟨u, z, hsplit, hupTo, hclosed⟩ := upTo?_concat (rfl : Text.isSpace '}' = false) t
  refine ⟨u, z, hsplit, assigned?_of_map hname ?_, hclosed⟩
  rw [leftmost_scriptOf _ _ hname rfl, List.cons_append, literalAt?, if_pos rfl, hupTo]
  rfl

theorem leftmost_map_scriptOf_list (hname : IsWord name) (t : Text) :
    leftmost (assignedAt? name '{' '}') (scriptOf name ('[' :: (t ++ [']']))) =
      leftmost (assignedAt? name '{' '}') ('[' :: t ++ [']'] ++ [';']) := by
  rw [leftmost_scriptOf _ _ hname rfl, List.cons_append, literalAt?, if_neg (by decide), Option.none_or]
  rfl

/-- In the place of a list a map is found that is assigned to the name within it. -/
theorem assigned?_scriptOf_of_shadows (hname : IsWord name) {t : Text} (h : Shadows name ('[' :: (t ++ [']']))) :
    ∃ u, assigned? name (scriptOf name ('[' :: (t ++ [']']))) = some ('{' :: u) := by
  obtain ⟨literal, hliteral⟩ := Option.isSome_iff_exists.1 ((isSome_leftmost_map_iff hname ('[' :: t)).2 h)
  obtain ⟨x, -, hx⟩ := exists_of_leftmost_eq_some hliteral
  obtain ⟨u, rfl⟩ := exists_of_assignedAt? hx
  exact ⟨u, assigned?_of_map hname ((leftmost_map_scriptOf_list hname t).trans hliteral)⟩

/-- Without a rival a list is found up to a closing bracket in front of a semicolon. -/
theorem assigned?_scriptOf_list (hname : IsWord name) {t : Text} (h : ¬Shadows name ('[' :: (t ++ [']']))) :
    ∃ u z, t ++ [']'] = u ++ z ∧ assigned? name (scriptOf name ('[' :: (t ++ [']']))) = some ('[' :: u) ∧
      (z = [] ↔ ¬Closes Text.isSpace ']' (t ++ [']'])) := by
  obtain ⟨u, z, hsplit, hupTo, hclosed⟩ := upTo?_concat (rfl : Text.isSpace ']' = false) t
  have hmap : leftmost (assignedAt? name '{' '}') ('[' :: t ++ [']'] ++ [';']) = none :=
    Option.not_isSome_iff_eq_none.1 (mt (isSome_leftmost_map_iff hname ('[' :: t)).1 h)
  refine ⟨u, z, hsplit, assigned?_of_list hname ((leftmost_map_scriptOf_list hname t).trans hmap) ?_, hclosed⟩
  rw [leftmost_scriptOf _ _ hname rfl, List.cons_append, literalAt?, if_pos rfl, hupTo]
  rfl

/-! ### The transform -/

/-- A literal that is found and has no single quotes around it is decoded. -/
theorem applyJson_of_assigned {t n literal : Text} (hassigned : assigned? (Text.trim n) (Text.trim t) = some literal)
    (hunquoted : unquoted? literal = none) : applyJson (.text t) (some n) = decodeOrWarn literal := by
  have htext : Run.text (.text t) = pure t := rfl
  rw [applyJson, htext, pure_bind]
  · dsimp only
    rw [hassigned]
    dsimp only
    rw [hunquoted]
  all_goals simp

/-- A literal in brackets that is found in a script is decoded. -/
theorem exec_applyJson_fst (hname : IsWord name) {w u : Text} {c : Char} (hc : c = '[' ∨ c = '{')
    (h : assigned? name (scriptOf name w) = some (c :: u)) (s : Session) :
    ((applyJson (.text (scriptOf name w)) (some name)).exec s).1 =
      .ok ((Json.read? (c :: u)).getD (.text (c :: u))) := by
  have htrim : Text.trim (scriptOf name w) = scriptOf name w := by
    have hends : scriptOf name w = 'v' :: (['a', 'r', ' '] ++ name ++ [' ', '=', ' '] ++ w ++ [';']) := rfl
    rw [hends]
    exact Text.trim_enclosed rfl rfl _
  have hunquoted : unquoted? (c :: u) = none := by
    rcases hc with rfl | rfl <;> rfl
  rw [applyJson_of_assigned (by rw [hname.trim_eq, htrim, h]) hunquoted, exec_decodeOrWarn_fst,
    decodeText?_bracketed hc]

theorem exec_applyJson_map_iff (hname : IsWord name) {es : Entries} {w : Text} (hdump : Json.dump (.map es) = .ok w)
    (hread : Json.read w = .ok (.map es)) (s : Session) :
    ((applyJson (.text (scriptOf name w)) (some name)).exec s).1 = .ok (.map es) ↔
      ∀ t, (Value.map es).HasText t → ¬Closes (· == ' ') '}' t := by
  have hcloses := Json.closes_dump_iff (.inr rfl) (Json.isJson_read hread) hdump
  obtain ⟨t, rfl⟩ := Json.exists_of_dump_map hdump
  obtain ⟨u, z, hsplit, hassigned, hclosed⟩ := assigned?_scriptOf_map hname t
  rw [Text.closes_cons, or_iff_right (by simp)] at hcloses
  have hwhole := getD_read?_eq_iff (v := .map es) (.inr rfl) rfl hsplit (fun heq => by cases heq) hread
  rw [exec_applyJson_fst hname (.inr rfl) hassigned, Except.ok.injEq, hwhole, hclosed, hcloses]
  simp only [not_exists, not_and]

theorem exec_applyJson_list_iff (hname : IsWord name) {vs : List Value} {w : Text}
    (hdump : Json.dump (.list vs) = .ok w) (hread : Json.read w = .ok (.list vs)) (s : Session) :
    ((applyJson (.text (scriptOf name w)) (some name)).exec s).1 = .ok (.list vs) ↔
      (∀ t, (Value.list vs).HasText t → ¬Closes (· == ' ') ']' t) ∧ ¬Shadows name w := by
  have hcloses := Json.closes_dump_iff (.inl rfl) (Json.isJson_read hread) hdump
  obtain ⟨t, rfl⟩ := Json.exists_of_dump_list hdump
  rw [Text.closes_cons, or_iff_right (by simp)] at hcloses
  by_cases hshadows : Shadows name ('[' :: (t ++ [']']))
  · obtain ⟨u, hassigned⟩ := assigned?_scriptOf_of_shadows hname hshadows
    rw [exec_applyJson_fst hname (.inr rfl) hassigned]
    refine iff_of_false (fun heq => ?_) fun h => h.2 hshadows
    cases hfound : Json.read ('{' :: u) with
    | error f =>
      rw [Json.read?, hfound] at heq
      cases heq
    | ok v =>
      obtain ⟨es, rfl⟩ := Json.exists_of_read_map hfound
      rw [Json.read?, hfound] at heq
      cases heq
  · obtain ⟨u, z, hsplit, hassigned, hclosed⟩ := assigned?_scriptOf_list hname hshadows
    have hwhole := getD_read?_eq_iff (v := .list vs) (.inl rfl) rfl hsplit (fun heq => by cases heq) hread
    rw [exec_applyJson_fst hname (.inl rfl) hassigned, Except.ok.injEq, hwhole, hclosed, hcloses,
      and_iff_left hshadows]
    simp only [not_exists, not_and]

/-- A map or a list that is written as JSON in ASCII and assigned to a name of letters in a script is what the transform
    of JSON texts finds under this name exactly if the text of the value is not cut off: no text in a map, keys
    included and at any depth, has a closing brace in front of a semicolon, and no text in a list a closing bracket,
    with nothing but spaces between them. Within the text of a list, no map may be assigned to the name either. This
    is for values that are read back from what is written for them, as all values without doubles are. -/
theorem applyJson_assignment_iff {name : Text} (hname : IsWord name) :
    (∀ v : Value, v.IsExact → ∃ w, Json.dump v = .ok w ∧ Json.read w = .ok v) ∧
      (∀ (es : Entries) (w : Text), Json.dump (.map es) = .ok w → Json.read w = .ok (.map es) → ∀ s,
        (((applyJson (.text (scriptOf name w)) (some name)).exec s).1 = .ok (.map es) ↔
          ∀ t, (Value.map es).HasText t → ¬Closes (· == ' ') '}' t)) ∧
      ∀ (vs : List Value) (w : Text), Json.dump (.list vs) = .ok w → Json.read w = .ok (.list vs) → ∀ s,
        (((applyJson (.text (scriptOf name w)) (some name)).exec s).1 = .ok (.list vs) ↔
          (∀ t, (Value.list vs).HasText t → ¬Closes (· == ' ') ']' t) ∧ ¬Shadows name w) :=
  ⟨fun _ => Json.read_dump, fun _ _ hdump hread => exec_applyJson_map_iff hname hdump hread,
    fun _ _ hdump hread => exec_applyJson_list_iff hname hdump hread⟩

/-- In a map closing brackets in front of semicolons do no harm, and in a list closing braces. -/
theorem applyJson_assignment_iff_brackets :
    IsWord "data" ∧
      (∃ w, Json.dump (.map [(.text "a", .list [.text "];"])]) = .ok w ∧
        ((applyJson (.text (scriptOf "data" w)) (some "data")).exec {}).1 =
          .ok (.map [(.text "a", .list [.text "];"])])) ∧
      ∃ w, Json.dump (.list [.text "\x7d;"]) = .ok w ∧
        ((applyJson (.text (scriptOf "data" w)) (some "data")).exec {}).1 = .ok (.list [.text "\x7d;"]) := by
  have hname : IsWord "data" := ⟨nofun, Text.forall_mem_of_all (by decide)⟩
  obtain ⟨hdump, hmap, hlist⟩ := applyJson_assignment_iff hname
  refine ⟨hname, ?_, ?_⟩
  · have hexact : (Value.map [(.text "a", .list [.text "];"])]).IsExact := by
      refine .map (List.forall_mem_singleton.2 ⟨_, rfl⟩) (by simp) (List.forall_mem_singleton.2 ?_)
      exact .list (List.forall_mem_singleton.2 (.text _))
    obtain ⟨w, hw, hread⟩ := hdump _ hexact
    refine ⟨w, hw, (hmap _ w hw hread {}).2 fun t ht => Text.not_closes_of_notMem ?_⟩
    cases ht with
    | key he =>
      cases List.mem_singleton.1 he
      decide
    | entry he ht =>
      cases List.mem_singleton.1 he
      cases ht with
      | item hv ht =>
        cases List.mem_singleton.1 hv
        cases ht
        decide
  · obtain ⟨w, hw, hread⟩ := hdump _ (.list (List.forall_mem_singleton.2 (.text "\x7d;")))
    have hwritten : Json.dump (.list [.text "\x7d;"]) = .ok "[\"\x7d;\"]" := by decide +kernel
    have hequals : '=' ∉ w := by
      rw [← Except.ok.inj (hwritten.symm.trans hw)]
      decide
    refine ⟨w, hw, (hlist _ w hw hread {}).2 ⟨fun t ht => Text.not_closes_of_notMem ?_, not_shadows hequals⟩⟩
    cases ht with
    | item hv ht =>
      cases List.mem_singleton.1 hv
      cases ht
      decide

/-- A brace and a semicolon in a text cut the map off, and what is left stays a text. -/
theorem applyJson_assignment_cut :
    IsWord "n" ∧ Json.dump (.map [(.text "a", .text "\x7d;")]) = .ok "\x7b\"a\": \"\x7d;\"\x7d" ∧
      ((applyJson (.text (scriptOf "n" "\x7b\"a\": \"\x7d;\"\x7d")) (some "n")).exec {}).1 =
        .ok (.text "\x7b\"a\": \"\x7d") := by
  have hname : IsWord "n" := ⟨nofun, Text.forall_mem_of_all (by decide)⟩
  have hassigned : assigned? "n" (scriptOf "n" "\x7b\"a\": \"\x7d;\"\x7d") = some ('{' :: "\"a\": \"\x7d") := by
    decide +kernel
  have hread : Json.read? ('{' :: "\"a\": \"\x7d") = none := by decide +kernel
  refine ⟨hname, by decide +kernel, ?_⟩
  rw [exec_applyJson_fst hname (.inr rfl) hassigned, hread]
  rfl

end PageQuery.Transform
