import PageQuery.Proofs.Query.Parsing

namespace PageQuery.Query

/-!
# Segments among the tokens of a query

A query is parsed stage by stage, each stage from its own tokens. The same segments come of the tokens of the
whole query, read once from the left, if an array pipe counts as a pipe for the segment behind it.

* `Reading`, `readings`: the texts of segments among tokens, and how the segments are run;
* `mapM_parse_readings`: the segments of a stage are its readings, parsed;
* `exists_parse_eq_ok_iff`: a query is parsed if each of its segments is;
* `map_segments_parse`: the segments of a query are parsed one after the other, whether that fails or not;
* `segments_parse`, `flags_parse`: the segments of a query that is parsed, and how they are run.
-/

/-! ### Readings -/

/-- The text of a piece that is no separator. -/
def Lexeme.plain? : Lexeme → Option Text
  | .separator _ => none
  | .plain t => some t

/-- A segment that is not parsed yet. -/
structure Reading where
  text : Text
  required : Bool
  /-- Whether it is fed with results: it stands behind a pipe, or is the first behind an array pipe. -/
  piped : Bool
  deriving Repr, DecidableEq

/-- The segment of a reading. -/
def Reading.parse (x : Reading) : Except FormatError Segment :=
  parseSegment x.text x.required x.piped

/-- The segments among tokens, of which the first has the given flags if no operator changes them. -/
def readings : (required piped : Bool) → List Lexeme → List Reading
  | _, _, [] => []
  | _, piped, .separator op :: rest =>
    readings (op != fallbackMark) (piped || op == pipeMark || op == arrayPipeMark) rest
  | required, piped, .plain t :: rest => ⟨t, required, piped⟩ :: readings required false rest

/-- The texts of the segments do not depend on the flags. -/
theorem map_text_readings (required piped : Bool) (ls : List Lexeme) :
    (readings required piped ls).map (·.text) = ls.filterMap Lexeme.plain? := by
  induction ls generalizing required piped with
  | nil => rfl
  | cons l ls ih =>
    cases l with
    | separator op => exact ih _ _
    | plain t => simp [readings, Lexeme.plain?, ih]

/-- How a segment behind one more token is run: whether it is required, and whether it is fed with results. -/
def nextFlags (flags : Bool × Bool) : Lexeme → Bool × Bool
  | .separator op => (op != fallbackMark, flags.2 || op == pipeMark || op == arrayPipeMark)
  | .plain _ => (flags.1, false)

/-- The segments among tokens are run as the tokens in front of them say. -/
theorem readings_append (flags : Bool × Bool) (ls ms : List Lexeme) :
    readings flags.1 flags.2 (ls ++ ms) =
      readings flags.1 flags.2 ls ++ readings (ls.foldl nextFlags flags).1 (ls.foldl nextFlags flags).2 ms := by
  induction ls generalizing flags with
  | nil => rfl
  | cons l ls ih =>
    cases l with
    | separator op => exact ih (nextFlags flags (.separator op))
    | plain t => exact congrArg (_ :: ·) (ih (nextFlags flags (.plain t)))

/-- Behind an array pipe the first segment is required, and fed with results. -/
theorem readings_append_arrayPipe (required piped : Bool) (ls ms : List Lexeme) :
    readings required piped (ls ++ .separator arrayPipeMark :: ms) =
      readings required piped ls ++ readings true true ms := by
  have hflags : ∀ flags : Bool × Bool, nextFlags flags (.separator arrayPipeMark) = (true, true) := by
    rintro ⟨required, _ | _⟩ <;> rfl
  rw [readings_append (required, piped), readings]
  exact congrArg (fun flags : Bool × Bool => readings required piped ls ++ readings flags.1 flags.2 ms)
    (hflags _)

/-- The segments of rows of tokens with array pipes between. -/
theorem readings_intercalate (required piped : Bool) (ls : List Lexeme) (rows : List (List Lexeme)) :
    readings required piped ([.separator arrayPipeMark].intercalate (ls :: rows)) =
      readings required piped ls ++ rows.flatMap (readings true true) := by
  induction rows generalizing required piped ls with
  | nil => simp
  | cons r rows ih =>
    rw [List.intercalate_cons_cons, List.append_assoc, List.singleton_append,
      readings_append_arrayPipe, ih, List.flatMap_cons]

/-! ### Parsing readings -/

/-- How a segment is run does not matter for its parsing. -/
theorem parseSegment_flags (t : Text) (required piped : Bool) :
    parseSegment t required piped =
      (fun s : Segment => { s with required, piped }) <$> parseSegment t true false := by
  simp only [parseSegment, map_bind, map_pure]

/-- A segment that is parsed is run as it was read. -/
theorem flags_of_parse {x : Reading} {s : Segment} (h : x.parse = .ok s) :
    s.required = x.required ∧ s.piped = x.piped := by
  rw [Reading.parse, parseSegment_flags] at h
  obtain ⟨s', -, rfl⟩ := map_eq_ok_iff.1 h
  exact ⟨rfl, rfl⟩

/-- A segment as if it stood alone. -/
def Segment.alone (s : Segment) : Segment := { s with required := true, piped := false }

/-- A segment that is read alone is run alone. -/
theorem alone_of_parse {t : Text} {s : Segment} (h : parseSegment t true false = .ok s) : s.alone = s := by
  obtain ⟨hrequired, hpiped⟩ := flags_of_parse (x := ⟨t, true, false⟩) h
  cases s
  cases hrequired
  cases hpiped
  rfl

/-- A reading is parsed like a segment that stands alone, but for how it is run. -/
theorem map_alone_parse (x : Reading) : Segment.alone <$> x.parse = parseSegment x.text true false := by
  rw [Reading.parse, parseSegment_flags]
  cases h : parseSegment x.text true false with
  | error e => rfl
  | ok s => exact congrArg Except.ok (alone_of_parse h)

/-- Readings are parsed like segments that stand alone, but for how they are run. -/
theorem map_alone_mapM_parse (xs : List Reading) :
    List.map Segment.alone <$> xs.mapM Reading.parse = (xs.map (·.text)).mapM (parseSegment · true false) := by
  induction xs with
  | nil => rfl
  | cons x xs ih =>
    rw [List.map_cons, List.mapM_cons, List.mapM_cons, ← ih, ← map_alone_parse]
    cases x.parse with
    | error e => rfl
    | ok s => cases xs.mapM Reading.parse <;> rfl

/-- The segments of a chain are its readings, parsed. -/
theorem mapM_parse_readings {ls : List Lexeme}
    (hls : ∀ op, .separator op ∈ ls → op = fallbackMark ∨ op = joinMark ∨ op = pipeMark)
    (source : Text) (required piped : Bool) :
    parseTokens source required piped ls = (readings required piped ls).mapM Reading.parse := by
  induction ls generalizing required piped with
  | nil => rfl
  | cons l ls ih =>
    have ih := ih fun op h => hls op (List.mem_cons_of_mem _ h)
    cases l with
    | separator op =>
      rw [parseTokens, readings]
      rcases hls op List.mem_cons_self with rfl | rfl | rfl
      · cases piped <;> exact ih _ _
      · cases piped <;> exact ih _ _
      · cases piped <;> exact ih _ _
    | plain t =>
      rw [parseTokens, readings, List.mapM_cons, ih]
      rfl

/-! ### Segments that are fed with results -/

/-- For each segment of a stage, whether it is fed with results: it is piped, or it is the first one and
    the stage is. -/
def fedIn (fed : Bool) : List Segment → List Bool
  | [] => []
  | s :: rest => (s.piped || fed) :: rest.map (·.piped)

/-- In the first stage the segments are fed that are piped. -/
theorem fedIn_false (ss : List Segment) : fedIn false ss = ss.map (·.piped) := by
  cases ss <;> simp [fedIn]

/-- For each segment of a query, whether it is fed with results: it is piped, or the first of a stage
    behind an array pipe. -/
def fed (q : Query) : List Bool :=
  match q.stages with
  | [] => []
  | ss :: rest => fedIn false ss ++ rest.flatMap (fedIn true)

/-- The segments of a stage are run as they are read, where the first may be fed besides. -/
theorem flags_of_mapM_parse {ls : List Lexeme} {required piped : Bool} {ss : List Segment}
    (h : (readings required piped ls).mapM Reading.parse = .ok ss) (fed : Bool) :
    (readings required (piped || fed) ls).map (·.required) = ss.map (·.required) ∧
      (readings required (piped || fed) ls).map (·.piped) = fedIn fed ss := by
  induction ls generalizing required piped fed ss with
  | nil => obtain rfl : [] = ss := Except.ok.inj h; exact ⟨rfl, rfl⟩
  | cons l ls ih =>
    cases l with
    | separator op =>
      have hflags : (piped || fed || op == pipeMark || op == arrayPipeMark) =
          (piped || op == pipeMark || op == arrayPipeMark || fed) := by
        rw [Bool.or_right_comm piped fed, Bool.or_right_comm _ fed]
      rw [readings, hflags]
      exact ih h fed
    | plain t =>
      obtain ⟨s, ss, hs, hss, rfl⟩ := mapM_cons_eq_ok_iff.1 h
      obtain ⟨hrequired, hpiped⟩ := flags_of_parse hs
      -- a segment is fed by the operator before it and not by what feeds the one before it
      obtain ⟨ihrequired, ihpiped⟩ := ih hss false
      simp only [Bool.or_false, fedIn_false] at ihrequired ihpiped
      simp [readings, fedIn, ihrequired, ihpiped, hrequired, hpiped]

/-! ### Whole queries -/

/-- The operators of a stage are those of chains, so that its segments are its readings, parsed. -/
theorem parseChain_eq_mapM {t u : Text} (hu : u ∈ stageTexts t) :
    parseChain u = (readings true false (tokens u)).mapM Reading.parse :=
  mapM_parse_readings (fun _ h => operator_of_token hu h) u true false

/-- The segments of a query that is parsed, as a row of stages. -/
theorem mapM_parseChain_of_parse {t : Text} {q : Query} (h : parse t = .ok q) :
    (stageTexts t).mapM parseChain = .ok q.stages := by
  obtain ⟨stages, hstages, hq⟩ := bind_eq_ok_iff.1 h
  rw [hstages, ← Except.ok.inj hq]

/-- The segments of a text are those of its stages. -/
theorem plain_tokens (t : Text) :
    (tokens t).filterMap Lexeme.plain? =
      (stageTexts t).flatMap fun u => (tokens u).filterMap Lexeme.plain? := by
  have hnil : ∀ rows : List (List Text), ([] : List Text).intercalate rows = rows.flatten := by
    intro rows
    induction rows with
    | nil => rfl
    | cons r rows ih => cases rows <;> simp_all
  rw [tokens_eq_intercalate, filterMap_intercalate, List.map_map, List.flatMap_def]
  exact hnil _

/-- The segments of a query are parsed from the segments among its tokens, one after the other. -/
theorem map_segments_parse (t : Text) :
    (fun q : Query => q.segments.map Segment.alone) <$> parse t =
      ((tokens t).filterMap Lexeme.plain?).mapM (parseSegment · true false) := by
  have hchains : (stageTexts t).mapM parseChain =
      (stageTexts t).mapM fun u => (readings true false (tokens u)).mapM Reading.parse :=
    mapM_congr fun u hu => parseChain_eq_mapM hu
  have htexts : ((stageTexts t).flatMap fun u => readings true false (tokens u)).map (·.text) =
      (tokens t).filterMap Lexeme.plain? := by
    rw [List.map_flatMap, plain_tokens]
    simp only [map_text_readings]
  rw [← htexts, ← map_alone_mapM_parse, mapM_flatMap, ← hchains, parse]
  cases (stageTexts t).mapM parseChain <;> rfl

/-- A query is parsed if each of its segments is. -/
theorem exists_parse_eq_ok_iff {t : Text} :
    (∃ q, parse t = .ok q) ↔
      ∀ u ∈ (tokens t).filterMap Lexeme.plain?, ∃ s, parseSegment u true false = .ok s := by
  rw [← exists_mapM_eq_ok_iff, ← map_segments_parse]
  cases parse t with
  | error e => exact iff_of_false nofun nofun
  | ok q => exact iff_of_true ⟨q, rfl⟩ ⟨_, rfl⟩

/-- The segments of a query that is parsed are parsed from the segments among its tokens. -/
theorem segments_parse {t : Text} {q : Query} (h : parse t = .ok q) :
    ((tokens t).filterMap Lexeme.plain?).mapM (parseSegment · true false) =
      .ok (q.segments.map Segment.alone) := by
  rw [← map_segments_parse, h]
  rfl

/-- The segments of a query that is parsed are run as they are read among its tokens. -/
theorem flags_parse {t : Text} {q : Query} (h : parse t = .ok q) :
    (readings true false (tokens t)).map (·.required) = q.segments.map (·.required) ∧
      (readings true false (tokens t)).map (·.piped) = q.fed := by
  -- the stages behind the first are all read alike
  have hrest : ∀ (us : List Text) (stages : List (List Segment)), (∀ u ∈ us, u ∈ stageTexts t) →
      us.mapM parseChain = .ok stages →
      (us.flatMap fun u => readings true true (tokens u)).map (·.required) =
        stages.flatten.map (·.required) ∧
      (us.flatMap fun u => readings true true (tokens u)).map (·.piped) =
        stages.flatMap (fedIn true) := by
    intro us
    induction us with
    | nil =>
      intro stages _ hus
      obtain rfl : [] = stages := Except.ok.inj hus
      exact ⟨rfl, rfl⟩
    | cons u us ih =>
      intro stages hmem hus
      obtain ⟨ss, stages, hss, hstages, rfl⟩ := mapM_cons_eq_ok_iff.1 hus
      rw [parseChain_eq_mapM (hmem u List.mem_cons_self)] at hss
      obtain ⟨hrequired, hpiped⟩ := flags_of_mapM_parse hss true
      obtain ⟨ihrequired, ihpiped⟩ := ih stages (fun v hv => hmem v (List.mem_cons_of_mem _ hv)) hstages
      simp only [Bool.false_or] at hrequired hpiped
      simp [hrequired, hpiped, ihrequired, ihpiped]
  obtain ⟨u, us, hu⟩ := stageTexts_eq_cons t
  have hchains := mapM_parseChain_of_parse h
  rw [hu] at hchains
  obtain ⟨ss, stages, hss, hstages, hq⟩ := mapM_cons_eq_ok_iff.1 hchains
  rw [parseChain_eq_mapM (hu ▸ List.mem_cons_self)] at hss
  obtain ⟨hrequired, hpiped⟩ := flags_of_mapM_parse hss false
  obtain ⟨hrestRequired, hrestPiped⟩ :=
    hrest us stages (fun v hv => hu ▸ List.mem_cons_of_mem _ hv) hstages
  have hreadings : readings true false (tokens t) =
      readings true false (tokens u) ++ us.flatMap fun v => readings true true (tokens v) := by
    rw [tokens_eq_intercalate, hu, List.map_cons, readings_intercalate, List.flatMap_map]
  rw [hreadings]
  constructor
  · rw [List.map_append, hrestRequired, segments, hq]
    simpa using hrequired
  · rw [List.map_append, hrestPiped, fed, hq]
    simpa using hpiped

end PageQuery.Query
