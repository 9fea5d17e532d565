import PageQuery.Proofs.Query.Reading
import PageQuery.Validation.Check

namespace PageQuery.Validation

/-!
# Summaries and parsed queries

A summary lists the segments of a query apart from its operators and puts them together again, operator by
operator, while a query is parsed from its tokens in a row. Both find the same segments. They agree on how
the segments are run as long as between two segments there is one operator, and none before the first.

* `map_text_segmentsOf`, `operatorsOf_eq`: what a summary is made of, found among the tokens of a query;
* `isGapless`: whether segments and operators take turns;
* `partsOf_eq_map_readings`: if they do, the parts of a summary are the readings of the tokens;
* `summary_faithful`: the parts of a summary are the segments of the query that is parsed.
-/

open Query (Lexeme Segment readings)

/-! ### Segments and operators among tokens -/

/-- The text of a piece that is a separator. -/
def separator? : Lexeme → Option Text
  | .separator s => some s
  | .plain _ => none

/-- The stretches of text between operators are the plain tokens. -/
theorem map_snd_stretches (offset : Nat) (ls : List Lexeme) :
    (stretches offset ls).map (·.2) = (ls.filterMap Lexeme.trimmed?).filterMap Lexeme.plain? := by
  induction ls generalizing offset with
  | nil => rfl
  | cons l ls ih =>
    cases l with
    | separator op => exact ih _
    | plain t =>
      by_cases ht : (Text.trim t).isEmpty
      · simp [stretches, Lexeme.trimmed?, ht, ih]
      · simp [stretches, Lexeme.trimmed?, Lexeme.plain?, ht, ih]

/-- The segments that are checked are the plain tokens. -/
theorem map_text_segmentsOf (t : Text) :
    (segmentsOf t).map (·.text) = (Query.tokens t).filterMap Lexeme.plain? := by
  have htexts : (segmentsOf t).map (·.text) = (stretches 0 (Query.split Query.operators t)).map (·.2) := by
    rw [segmentsOf, List.map_map]
    generalize stretches 0 (Query.split Query.operators t) = ps
    -- the numbers that the stretches are given do not matter
    have hps : (ps.zipIdx.map Prod.fst).map Prod.snd = ps.map (·.2) := by rw [List.zipIdx_map_fst]
    rw [← hps, List.map_map]
    rfl
  rw [htexts, map_snd_stretches, Query.tokens]

/-- The operators of a query are the separators among its tokens. -/
theorem operatorsOf_eq (t : Text) : operatorsOf t = (Query.tokens t).filterMap separator? := by
  rw [operatorsOf, Query.tokens]
  induction Query.split Query.operators t with
  | nil => rfl
  | cons l ls ih =>
    cases l with
    | separator op => exact congrArg (op :: ·) ih
    | plain u =>
      by_cases hu : (Text.trim u).isEmpty
      · have htrimmed : Lexeme.trimmed? (.plain u) = none := by simp [Lexeme.trimmed?, hu]
        rw [List.filterMap_cons_none htrimmed]
        exact ih
      · have htrimmed : Lexeme.trimmed? (.plain u) = some (.plain (Text.trim u)) := by
          simp [Lexeme.trimmed?, hu]
        rw [List.filterMap_cons_some htrimmed]
        exact ih

/-! ### Parts -/

/-- What a part says of a segment, besides how it is run. -/
def Part.body (p : Part) : Text × Text × Ordered (List Text) × Ordered (List Text) :=
  (p.scheme, p.path, p.parameters, p.transforms)

/-- What a part should say of a segment, besides how it is run. -/
def bodyOf (s : Segment) : Text × Text × Ordered (List Text) × Ordered (List Text) :=
  (s.scheme.name, s.path, s.parameters, s.transforms.entries)

/-- A part is run as it is said to be. -/
theorem flags_partOf (required piped : Bool) (t : Text) :
    (partOf required piped t).required = required ∧ (partOf required piped t).piped = piped := by
  unfold partOf
  split
  · next s hs => exact Query.flags_of_parse (x := ⟨t, required, piped⟩) hs
  · exact ⟨rfl, rfl⟩

/-- What a part says of a segment does not depend on how it is run. -/
theorem body_partOf (required piped : Bool) (t : Text) :
    (partOf required piped t).body = (partOf true false t).body := by
  simp only [partOf, Query.parseSegment_flags t required piped]
  cases Query.parseSegment t true false <;> rfl

/-- A part says of a segment what it should if the segment is parsed. -/
theorem body_partOf_of_parse {t : Text} {s : Segment} (h : Query.parseSegment t true false = .ok s) :
    (partOf true false t).body = bodyOf s := by
  rw [partOf, h]
  rfl

/-- What the parts of a summary say of the segments, one by one. -/
theorem map_body_partsOf (required piped : Bool) (ops : List Text) (ps : List Placed) :
    (partsOf required piped ops ps).map Part.body =
      (ps.map (·.text)).map fun t => (partOf true false t).body := by
  induction ps generalizing required piped ops with
  | nil => cases ops <;> rfl
  | cons p ps ih => cases ops <;> simp [partsOf, body_partOf required piped, ih]

/-- If segments are parsed, parts say of them what they should. -/
theorem map_body_of_parse {ts : List Text} {ss : List Segment}
    (h : ts.mapM (Query.parseSegment · true false) = .ok ss) :
    ts.map (fun t => (partOf true false t).body) = ss.map bodyOf := by
  induction ts generalizing ss with
  | nil => obtain rfl : [] = ss := Except.ok.inj h; rfl
  | cons t ts ih =>
    obtain ⟨s, ss, hs, hss, rfl⟩ := mapM_cons_eq_ok_iff.1 h
    rw [List.map_cons, List.map_cons, body_partOf_of_parse hs, ih hss]

/-! ### Segments and operators that take turns -/

/-- Whether tokens begin with a segment and one operator stands between each segment and the next.
    Operators behind the last segment do not matter. -/
def isGapless : List Lexeme → Bool
  | .plain _ :: .separator _ :: rest => isGapless rest
  | [.plain _] => true
  | ls => ls.all (·.isSeparator)

/-- Both ways of telling how a segment behind an operator is run agree. -/
theorem flags_operator {op : Text} (h : op ∈ Query.operators) :
    (op == Query.pipeMark || op == Query.arrayPipeMark || op == Query.joinMark) =
        (op != Query.fallbackMark) ∧
      (op == Query.pipeMark || op == Query.arrayPipeMark) =
        (false || op == Query.pipeMark || op == Query.arrayPipeMark) := by
  simp only [Query.operators, List.mem_cons, List.not_mem_nil, or_false] at h
  rcases h with rfl | rfl | rfl | rfl <;> decide

/-- The parts of a summary are the readings of the tokens if segments and operators take turns. -/
theorem partsOf_eq_map_readings {ls : List Lexeme}
    (hls : ∀ op, .separator op ∈ ls → op ∈ Query.operators) (h : isGapless ls = true)
    {ps : List Placed} (hps : ps.map (·.text) = ls.filterMap Lexeme.plain?) (required piped : Bool) :
    partsOf required piped (ls.filterMap separator?) ps =
      (readings required piped ls).map fun x => partOf x.required x.piped x.text := by
  fun_induction isGapless ls generalizing required piped ps with
  | case1 t op rest ih =>
    obtain ⟨p, ps, rfl, hp, hps⟩ := List.map_eq_cons_iff.1 hps
    obtain ⟨hrequired, hpiped⟩ := flags_operator (hls op (by simp))
    have ih := ih (fun op' hop => hls op' (by simp [hop])) h hps
    simp only [separator?, List.filterMap_cons, partsOf, readings, List.map_cons]
    rw [hp, hrequired, hpiped, ih]
  | case2 t =>
    obtain ⟨p, ps, rfl, hp, hps⟩ := List.map_eq_cons_iff.1 hps
    obtain rfl := List.map_eq_nil_iff.1 hps
    show [partOf required piped p.text] = [partOf required piped t]
    rw [hp]
  | case3 ls =>
    -- there is no segment at all
    have hnone : ls.filterMap Lexeme.plain? = [] := by
      refine List.filterMap_eq_nil_iff.2 fun l hl => ?_
      have hsep := List.all_eq_true.1 h l hl
      cases l with
      | separator s => rfl
      | plain t => cases hsep
    rw [hnone] at hps
    obtain rfl := List.map_eq_nil_iff.1 hps
    have hreadings := Query.map_text_readings required piped ls
    rw [hnone] at hreadings
    rw [List.map_eq_nil_iff.1 hreadings]
    cases ls.filterMap separator? <;> rfl

/-! ### Summaries -/

/-- A summary has the segments of the query in it. -/
theorem eq_summaryOf {t : Text} {info : Summary} (h : (validate t).summary = some info) :
    info = summaryOf t := by
  have hsummary : (validate t).summary =
      if (validate t).errors.isEmpty && !t.isEmpty then some (summaryOf t) else none := rfl
  rw [hsummary] at h
  split at h
  · exact (Option.some.inj h).symm
  · cases h

/-- The parts of a summary are as many as the segments of the query that is parsed, and say the same of
    their schemes, paths, parameters and transforms, one by one. Where segments and operators take turns,
    they also say truly which segments are required and which are fed with results. -/
theorem summary_faithful {t : Text} {info : Summary} {q : Query}
    (hinfo : (validate t).summary = some info) (hq : Query.parse t = .ok q) :
    info.parts.length = q.segments.length ∧
      info.parts.map Part.body = q.segments.map bodyOf ∧
      (isGapless (Query.tokens t) = true →
        info.parts.map (·.required) = q.segments.map (·.required) ∧
        info.parts.map (·.piped) = q.fed) := by
  have hparts : info.parts = partsOf true false (operatorsOf t) (segmentsOf t) := by
    rw [eq_summaryOf hinfo]
    rfl
  have hbody : info.parts.map Part.body = q.segments.map bodyOf := by
    rw [hparts, map_body_partsOf, map_text_segmentsOf, map_body_of_parse (Query.segments_parse hq),
      List.map_map]
    rfl
  refine ⟨?_, hbody, fun hgapless => ?_⟩
  · have hlength := congrArg List.length hbody
    rwa [List.length_map, List.length_map] at hlength
  · obtain ⟨hrequired, hpiped⟩ := Query.flags_parse hq
    rw [operatorsOf_eq, partsOf_eq_map_readings (fun op hop => Query.operator_of_mem_tokens hop) hgapless
      (map_text_segmentsOf t)] at hparts
    rw [hparts, ← hrequired, ← hpiped, List.map_map, List.map_map]
    exact ⟨List.map_congr_left fun x _ => (flags_partOf x.required x.piped x.text).1,
      List.map_congr_left fun x _ => (flags_partOf x.required x.piped x.text).2⟩

/-- Two stages in which segments and operators take turns. -/
theorem summary_faithful_stages :
    ∃ (t : Text) (info : Summary) (q : Query),
      t = "json:a?save=x&index=0 || li:first-child >>> template:${x} ++ html:p?regexp=/a?b/ ||".toList ∧
      (validate t).summary = some info ∧ Query.parse t = .ok q ∧
      isGapless (Query.tokens t) = true ∧ info.parts.length = 4 ∧
      info.parts.map Part.body = q.segments.map bodyOf ∧
      info.parts.map (·.required) = q.segments.map (·.required) ∧
      info.parts.map (·.piped) = q.fed ∧ q.fed = [false, false, true, false] := by
  let t : Text := "json:a?save=x&index=0 || li:first-child >>> template:${x} ++ html:p?regexp=/a?b/ ||"
  have hinfo : (validate t).summary = some (summaryOf t) := rfl
  obtain ⟨q, hq, hfed⟩ : ∃ q, Query.parse t = .ok q ∧ q.fed = [false, false, true, false] :=
    ⟨_, rfl, rfl⟩
  have hgapless : isGapless (Query.tokens t) = true := rfl
  obtain ⟨-, hbody, hflags⟩ := summary_faithful hinfo hq
  obtain ⟨hrequired, hpiped⟩ := hflags hgapless
  exact ⟨t, summaryOf t, q, rfl, hinfo, hq, hgapless, rfl, hbody, hrequired, hpiped, hfed⟩

/-- Where two operators follow each other, or one stands first, a summary is wrong about how segments are
    run: its operators are counted although the blanks between them are not. -/
theorem summary_with_gap :
    (∃ (t : Text) (info : Summary) (q : Query), t = "json:a || ++ json:b".toList ∧
      (validate t).summary = some info ∧ Query.parse t = .ok q ∧
      info.parts.map (·.required) = [true, false] ∧ q.segments.map (·.required) = [true, true]) ∧
    ∃ (t : Text) (info : Summary) (q : Query), t = ">> json:a".toList ∧
      (validate t).summary = some info ∧ Query.parse t = .ok q ∧
      info.parts.map (·.piped) = [false] ∧ q.fed = [true] :=
  ⟨⟨_, _, _, rfl, rfl, rfl, rfl, rfl⟩, ⟨_, _, _, rfl, rfl, rfl, rfl, rfl⟩⟩

end PageQuery.Validation
