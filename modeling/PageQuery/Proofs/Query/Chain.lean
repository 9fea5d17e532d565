import PageQuery.Proofs.Query.Reading
import Mathlib.Data.List.Induction

namespace PageQuery.Query

/-!
# Operators in front of the segments of a chain

Segments are read with two flags of different lifetimes. Whether a segment is required is decided by the last operator
in front of it, wherever that stands; whether it is fed with results by the operators directly in front of it.

* `flagsAfter`: the flags with which a segment is read behind some tokens;
* `required_flagsAfter`, `piped_flagsAfter`: which operators among the tokens decide them;
* `exists_of_tokens_eq`: the segment that is read at a place among the tokens;
* `chain_faithful`: the segments of a chain, and how they are run.
-/

/-! ### Flags -/

/-- How a segment behind some tokens is run: whether it is required, and whether it is fed with results. -/
def flagsAfter (ls : List Lexeme) : Bool × Bool := ls.foldl nextFlags (true, false)

theorem flagsAfter_concat (ls : List Lexeme) (l : Lexeme) : flagsAfter (ls ++ [l]) = nextFlags (flagsAfter ls) l :=
  List.foldl_append

/-- A segment is not required exactly if there is an operator before it, and the last one is the fallback. -/
theorem required_flagsAfter (ls : List Lexeme) :
    (flagsAfter ls).1 = false ↔ (ls.filter Lexeme.isSeparator).getLast? = some (.separator fallbackMark) := by
  induction ls using List.reverseRecOn with
  | nil => exact iff_of_false nofun nofun
  | append_singleton ls l ih =>
    rw [flagsAfter_concat, List.filter_append]
    cases l with
    | separator op =>
      have hone : [Lexeme.separator op].filter Lexeme.isSeparator = [.separator op] := rfl
      rw [hone, List.getLast?_concat]
      simp [nextFlags]
    | plain t =>
      have hnone : [Lexeme.plain t].filter Lexeme.isSeparator = [] := rfl
      rw [hnone, List.append_nil, ← ih]
      rfl

/-- A segment is fed with results exactly if there is a pipe among the operators directly before it. -/
theorem piped_flagsAfter {ls : List Lexeme} (h : .separator arrayPipeMark ∉ ls) :
    (flagsAfter ls).2 = true ↔ .separator pipeMark ∈ ls.reverse.takeWhile Lexeme.isSeparator := by
  induction ls using List.reverseRecOn with
  | nil => exact iff_of_false nofun nofun
  | append_singleton ls l ih =>
    obtain ⟨hls, hl⟩ := not_or.1 (mt List.mem_append.2 h)
    rw [flagsAfter_concat, List.reverse_append]
    cases l with
    | separator op =>
      have hne : op ≠ arrayPipeMark := fun e => hl (e ▸ List.mem_singleton.2 rfl)
      have hrun : ([Lexeme.separator op].reverse ++ ls.reverse).takeWhile Lexeme.isSeparator =
          .separator op :: ls.reverse.takeWhile Lexeme.isSeparator := rfl
      rw [hrun, List.mem_cons, ← ih hls, Lexeme.separator.injEq]
      simp only [nextFlags, Bool.or_eq_true, beq_iff_eq, hne, or_false]
      exact ⟨fun h => h.elim .inr fun e => .inl e.symm, fun h => h.elim (fun e => .inr e.symm) .inl⟩
    | plain t =>
      -- the operators before another segment do not count
      have hrun : ([Lexeme.plain t].reverse ++ ls.reverse).takeWhile Lexeme.isSeparator = [] := rfl
      rw [hrun]
      exact iff_of_false nofun List.not_mem_nil

/-! ### Places among the tokens -/

/-- At its place among the segments of a chain a text is parsed, with the flags that the tokens before it give. -/
theorem exists_of_tokens_eq {before after : List Lexeme} {u : Text} {ss : List Segment}
    (h : (readings true false (before ++ .plain u :: after)).mapM Reading.parse = .ok ss) :
    ∃ s, ss[(before.filterMap Lexeme.plain?).length]? = some s ∧
      parseSegment u s.required s.piped = .ok s ∧ (s.required, s.piped) = flagsAfter before := by
  rw [readings_append (true, false)] at h
  obtain ⟨ps, rest, hps, hrest, rfl⟩ := mapM_append_eq_ok_iff.1 h
  obtain ⟨s, qs, hs, -, rfl⟩ := mapM_cons_eq_ok_iff.1 hrest
  have hlength : (before.filterMap Lexeme.plain?).length = ps.length := by
    rw [← map_text_readings true false, List.length_map, length_of_mapM_eq_ok hps]
  obtain ⟨hrequired, hpiped⟩ := flags_of_parse hs
  refine ⟨s, ?_, ?_, Prod.ext hrequired hpiped⟩
  · rw [hlength, List.getElem?_append_right (Nat.le_refl _), Nat.sub_self]
    rfl
  · rw [hrequired, hpiped]
    exact hs

/-- The segments of a chain are the texts among its tokens that are no operators, parsed in their order, and the chain
    fails if one of them does. Each is required, unless the last operator before it is a fallback, and each is fed with
    results if there is a pipe between it and the segment before it, or the start. -/
theorem chain_faithful {t : Text} (h : .separator arrayPipeMark ∉ tokens t) :
    (List.map Segment.alone <$> parseChain t =
      ((tokens t).filterMap Lexeme.plain?).mapM (parseSegment · true false)) ∧
    ∀ ss, parseChain t = .ok ss →
      ss.length = ((tokens t).filterMap Lexeme.plain?).length ∧
      ∀ before u after, tokens t = before ++ .plain u :: after →
        ∃ s, ss[(before.filterMap Lexeme.plain?).length]? = some s ∧
          parseSegment u s.required s.piped = .ok s ∧
          (s.required = false ↔
            (before.filter Lexeme.isSeparator).getLast? = some (.separator fallbackMark)) ∧
          (s.piped = true ↔ .separator pipeMark ∈ before.reverse.takeWhile Lexeme.isSeparator) := by
  have hchain : parseChain t = (readings true false (tokens t)).mapM Reading.parse :=
    mapM_parse_readings (fun _ hop => operator_of_chain h hop) t true false
  rw [hchain]
  refine ⟨by rw [map_alone_mapM_parse, map_text_readings], fun ss hss => ⟨?_, ?_⟩⟩
  · rw [← length_of_mapM_eq_ok hss, ← map_text_readings true false, List.length_map]
  · intro before u after htokens
    rw [htokens] at hss h
    obtain ⟨s, hs, hparse, hflags⟩ := exists_of_tokens_eq hss
    have hbefore : .separator arrayPipeMark ∉ before := fun hmem => h (List.mem_append_left _ hmem)
    obtain ⟨hrequired, hpiped⟩ := Prod.mk.inj hflags
    refine ⟨s, hs, hparse, ?_, ?_⟩
    · rw [hrequired]
      exact required_flagsAfter before
    · rw [hpiped]
      exact piped_flagsAfter hbefore

/-- A fallback and a pipe in one run of operators, in a chain that starts and ends with operators. -/
theorem chain_faithful_mixed :
    ∃ (t : Text) (ss : List Segment) (s : Segment), t = "|| json:a ++||html:p  >>++>> || json:b >>".toList ∧
      .separator arrayPipeMark ∉ tokens t ∧ parseChain t = .ok ss ∧ ss.length = 3 ∧ ss[2]? = some s ∧
      parseSegment "json:b" false true = .ok s ∧ s.required = false ∧ s.piped = true := by
  let t : Text := "|| json:a ++||html:p  >>++>> || json:b >>"
  have htokens : .separator arrayPipeMark ∉ tokens t := by decide
  obtain ⟨ss, hss⟩ : ∃ ss, parseChain t = .ok ss := ⟨_, rfl⟩
  obtain ⟨hlength, hplace⟩ := (chain_faithful htokens).2 ss hss
  obtain ⟨s, hs, hparse, hrequired, hpiped⟩ := hplace
    [.separator "||", .plain "json:a", .separator "++", .separator "||", .plain "html:p", .separator ">>",
      .separator "++", .separator ">>", .separator "||"] "json:b" [.separator ">>"] rfl
  have hfallback : s.required = false := hrequired.2 rfl
  have hfed : s.piped = true := hpiped.2 (by decide)
  rw [hfallback, hfed] at hparse
  exact ⟨t, ss, s, rfl, htokens, hss, hlength, hs, hparse, hfallback, hfed⟩

end PageQuery.Query
