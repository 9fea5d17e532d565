import PageQuery.Proofs.Regexp.Matching
import PageQuery.Proofs.Run
import PageQuery.Transform.Replacement

namespace PageQuery.Transform

/-!
# Matching and replacing

With a replacement a regular expression gives the text with every match replaced, and without one its first match. The
text around the matches is kept, so that matches replaced by themselves leave the text as it is.

* `exec_applyRegexp_match`, `exec_applyRegexp_replace`: the two uses of a pattern;
* `replaceAll_group_zero`: every match replaced by itself;
* `regexp_modes_agree`: what the two uses of a pattern have to do with each other.
-/

open Regexp

variable {c : Compiled} {t : Text}

/-- Every match is replaced by itself. -/
theorem replaceAll_group_zero (c : Compiled) (t : Text) : replaceAll c "$0" t = .ok t := by
  unfold replaceAll
  split
  · rfl
  · have hsteps : (partsOf "$0").mapM Part.step = .ok [.inr (['0'], 0)] := rfl
    have hexpand : (fun m => [.inr (['0'], 0)].flatMap (expandStep c.groups m)) = Found.text := by
      funext m
      exact List.append_nil m.text
    rw [hsteps]
    show Except.ok _ = _
    rw [hexpand, Pattern.substitute_text]

/-- A text without a match stays as it is. -/
theorem replaceAll_of_none (h : c.pattern.search t = none) (replacement : Text) : replaceAll c replacement t = .ok t :=
  if_pos (Option.isNone_iff_eq_none.2 h)

/-- The first match is a part of the text. -/
theorem firstMatch_cases (c : Compiled) (t : Text) :
    (c.pattern.search t = none ∧ firstMatch c t = .null) ∨ ∃ m, firstMatch c t = .text m ∧ m <:+: t := by
  unfold firstMatch
  split
  · next hsome => exact .inr ⟨_, rfl, Pattern.text_infix_of_search hsome⟩
  · next hnone => exact .inl ⟨hnone, rfl⟩

section

variable {v : Value} {body pattern replacement : Text}

theorem text_eq_pure (ht : v.render = .ok t) : Run.text v = pure t := by
  rw [Run.text, ht]
  rfl

theorem exec_applyRegexp_match (hv : v.isNull = false) (ht : v.render = .ok t)
    (hbody : parseBody? body = some (pattern, [])) (hcompile : compile { multiline := true } pattern = .ok c)
    (s : Session) : (applyRegexp v body).exec s = (.ok (firstMatch c t), s) := by
  simp only [applyRegexp, hv, hbody, hcompile, text_eq_pure ht, pure_bind]
  rfl

theorem exec_applyRegexp_replace (hv : v.isNull = false) (ht : v.render = .ok t)
    (hbody : parseBody? body = some (pattern, replacement)) (hne : replacement ≠ [])
    (hcompile : compile { multiline := true } pattern = .ok c) {u : Text} (hu : replaceAll c replacement t = .ok u)
    (s : Session) : (applyRegexp v body).exec s = (.ok (.text u), s) := by
  have hempty : replacement.isEmpty = false := List.isEmpty_eq_false_iff.2 hne
  simp only [applyRegexp, hv, hbody, hcompile, text_eq_pure ht, pure_bind, hempty, hu]
  rfl

/-- A pattern whose matches are replaced by themselves leaves the text as it is. Where the pattern has no first match
    every replacement does so, and where it has one, that is a part of the text. -/
theorem regexp_modes_agree (hv : v.isNull = false) (ht : v.render = .ok t)
    (hcompile : compile { multiline := true } pattern = .ok c) (s : Session) :
    (∀ body, parseBody? body = some (pattern, ("$0" : Text)) → (applyRegexp v body).exec s = (.ok (.text t), s)) ∧
      ∀ body, parseBody? body = some (pattern, []) →
        ∃ out, (applyRegexp v body).exec s = (.ok out, s) ∧
          ((out = .null ∧ ∀ body' replacement, parseBody? body' = some (pattern, replacement) → replacement ≠ [] →
              (applyRegexp v body').exec s = (.ok (.text t), s)) ∨
            ∃ m, out = .text m ∧ m <:+: t) := by
  refine ⟨fun body hbody => ?_, fun body hbody => ⟨_, exec_applyRegexp_match hv ht hbody hcompile s, ?_⟩⟩
  · exact exec_applyRegexp_replace hv ht hbody nofun hcompile (replaceAll_group_zero c t) s
  · rcases firstMatch_cases c t with ⟨hnone, hnull⟩ | hsome
    · refine .inl ⟨hnull, fun body' replacement hbody' hne => ?_⟩
      exact exec_applyRegexp_replace hv ht hbody' hne hcompile (replaceAll_of_none hnone replacement) s
    · exact .inr hsome

end

/-- A pattern with empty matches, at the beginnings of lines too. -/
theorem regexp_modes_agree_lines :
    (Value.text "ab\nb").isNull = false ∧ (Value.text "ab\nb").render = .ok "ab\nb" ∧
      (∃ c, compile { multiline := true } "^a*" = .ok c) ∧ parseBody? "/^a*/$0/" = some (("^a*" : Text), ("$0" : Text)) ∧
      parseBody? "/^a*/" = some (("^a*" : Text), []) ∧
      (applyRegexp (.text "ab\nb") "/^a*/$0/").exec {} = (.ok (.text "ab\nb"), {}) := by
  obtain ⟨c, hcompile⟩ : ∃ c, compile { multiline := true } "^a*" = .ok c := ⟨_, rfl⟩
  refine ⟨rfl, rfl, ⟨c, hcompile⟩, rfl, rfl, ?_⟩
  exact (regexp_modes_agree rfl rfl hcompile {}).1 "/^a*/$0/" rfl

end PageQuery.Transform
