import PageQuery.Proofs.Query.Parameters
import PageQuery.Query.Parser

namespace PageQuery.Query

/-!
# Segments that are written and read

A segment that is written as a scheme, a path and parameters is read as these again, whatever question marks,
ampersands and equals signs there are in its placeholders and values.

* `IsPath`, `cutParams_path`: paths in which no question mark counts;
* `segmentText`, `trim_segmentText`: a segment as it is written, and the white space at its end;
* `Spells`, `parseSegment_of_spells`: what a text is read as, and the segment that it gives;
* `written_roundTrip`: what a segment that is written is read as.
-/

/-! ### Paths in front of parameters -/

/-- A path: stretches without question marks and openings of placeholders, and between them placeholders, in whose
    bodies nothing closes them and none is opened. -/
inductive IsPath : Text → Prop where
  | stretch {t : Text} (hmark : '?' ∉ t) (hopen : ¬ ['$', '{'] <:+: t) : IsPath t
  | hole {t body rest : Text} (hmark : '?' ∉ t) (hopen : ¬ ['$', '{'] <:+: t) (hclose : '}' ∉ body)
      (hnested : ¬ ['$', '{'] <:+: body) (hrest : IsPath rest) : IsPath (t ++ '$' :: '{' :: (body ++ '}' :: rest))

/-- A text in which no placeholder is opened, none is closed, and no question mark counts stands in front of the
    parameters as it is. -/
theorem cutParams_append {depth : Nat} {t u : Text} (hopen : ¬ ['$', '{'] <:+: t) (hhead : u.head? ≠ some '{')
    (h : ∀ c ∈ t, ¬ (c = '?' ∧ depth = 0) ∧ (c = '}' → depth = 0)) :
    cutParams depth (t ++ u) = (t ++ (cutParams depth u).1, (cutParams depth u).2) := by
  induction t with
  | nil => rfl
  | cons c t ih =>
    obtain ⟨⟨hmark, hclose⟩, ht⟩ := List.forall_mem_cons.1 h
    have hopen' : ¬ ['$', '{'] <:+: t := fun hin => hopen (hin.trans (List.suffix_cons c t).isInfix)
    have hdepth : (if c = '}' then depth - 1 else depth) = depth := by
      split
      · next hc => rw [hclose hc]
      · rfl
    have hcut : ¬ (decide (c = '?') && decide (depth = 0)) = true := by simpa using hmark
    rw [List.cons_append, cutParams]
    · rw [if_neg hcut, hdepth, ih hopen' ht]
      rfl
    · -- no placeholder is opened here
      rintro rest rfl heq
      cases t with
      | nil =>
        rw [List.nil_append] at heq
        exact hhead (by rw [heq]; rfl)
      | cons d t =>
        obtain ⟨rfl, -⟩ := List.cons.inj heq
        exact hopen ⟨[], t, rfl⟩

/-- The parameters begin behind the question mark after a path. -/
theorem cutParams_path {x : Text} (hx : IsPath x) (u : Text) : cutParams 0 (x ++ '?' :: u) = (x, some u) := by
  have hstretch : ∀ {t : Text}, '?' ∉ t → ∀ c ∈ t, ¬ (c = '?' ∧ 0 = 0) ∧ (c = '}' → 0 = 0) := by
    intro t hmark c hc
    refine ⟨fun hand => ?_, fun _ => rfl⟩
    exact hmark (hand.1 ▸ hc)
  induction hx with
  | stretch hmark hopen =>
    rw [cutParams_append hopen (by simp) (hstretch hmark)]
    simp [cutParams]
  | @hole t body rest hmark hopen hclose hnested _ ih =>
    have hbody : ∀ c ∈ body, ¬ (c = '?' ∧ 1 = 0) ∧ (c = '}' → 1 = 0) := by
      intro c hc
      refine ⟨fun hand => absurd hand.2 Nat.one_ne_zero, fun heq => ?_⟩
      exact absurd (heq ▸ hc) hclose
    have hclosed : cutParams 1 ('}' :: (rest ++ '?' :: u)) = ('}' :: rest, some u) := by
      rw [cutParams]
      · simp [ih]
      · simp
    have hinner : cutParams 1 (body ++ '}' :: (rest ++ '?' :: u)) = (body ++ '}' :: rest, some u) := by
      rw [cutParams_append hnested (by simp) hbody, hclosed]
    have hwhole : t ++ '$' :: '{' :: (body ++ '}' :: rest) ++ '?' :: u =
        t ++ '$' :: '{' :: (body ++ '}' :: (rest ++ '?' :: u)) := by simp
    rw [hwhole, cutParams_append hopen (by simp) (hstretch hmark), cutParams, hinner]

/-! ### Segments -/

/-- A segment as it is written: scheme, path and parameters. -/
def segmentText (s : Scheme) (x : Text) (ps : List (Text × Text)) : Text :=
  s.name ++ ':' :: (x ++ '?' :: writtenParams ps)

/-- Pairs of which the last value has lost the white space at its end. -/
def trimLast : List (Text × Text) → List (Text × Text)
  | [] => []
  | [(k, v)] => [(k, Text.trimRight v)]
  | p :: q :: ps => p :: trimLast (q :: ps)

/-- The values of pairs gathered under their names. -/
def gathered (ps : List (Text × Text)) : Ordered (List Text) :=
  ps.foldl (fun params p => params.add p.1 (paramValues p.1 p.2)) []

theorem trimLast_concat (ps : List (Text × Text)) (k v : Text) :
    trimLast (ps ++ [(k, v)]) = ps ++ [(k, Text.trimRight v)] := by
  induction ps with
  | nil => rfl
  | cons p ps ih =>
    cases ps with
    | nil => rfl
    | cons q ps => rw [List.cons_append, List.cons_append, trimLast, ← List.cons_append, ih]; rfl

/-- What stands in front of the last value of a row does not depend on it. -/
theorem exists_writtenParams_concat (ps : List (Text × Text)) (k : Text) :
    ∃ lead, ∀ v, writtenParams (ps ++ [(k, v)]) = lead ++ '=' :: v := by
  induction ps with
  | nil => exact ⟨k, fun v => by simp [writtenParams, Text.join, writtenParam]⟩
  | cons p ps ih =>
    obtain ⟨lead, hlead⟩ := ih
    refine ⟨writtenParam p ++ '&' :: lead, fun v => ?_⟩
    have hrest := hlead v
    cases ps with
    | nil =>
      rw [List.nil_append] at hrest
      rw [List.singleton_append, writtenParams_cons_cons, hrest, List.append_assoc, List.cons_append]
    | cons q ps =>
      rw [List.cons_append] at hrest
      rw [List.cons_append, List.cons_append, writtenParams_cons_cons, hrest, List.append_assoc, List.cons_append]

/-- The white space at the end of a segment is that of its last value. -/
theorem trim_segmentText (s : Scheme) (x : Text) (ps : List (Text × Text)) (k v : Text) :
    Text.trim (segmentText s x (ps ++ [(k, v)])) = segmentText s x (ps ++ [(k, Text.trimRight v)]) := by
  obtain ⟨lead, hlead⟩ := exists_writtenParams_concat ps k
  have hwhole : ∀ v, segmentText s x (ps ++ [(k, v)]) = s.name ++ ':' :: (x ++ '?' :: lead) ++ '=' :: v := by
    intro v
    rw [segmentText, hlead, List.append_assoc, List.cons_append, List.append_assoc, List.cons_append]
  have hleft : ∀ t, Text.trimLeft (s.name ++ ':' :: t) = s.name ++ ':' :: t := by
    intro t
    cases s <;> rfl
  rw [hwhole, hwhole, Text.trim_append_cons (by decide), hleft]

theorem detectScheme_name (s : Scheme) (t : Text) : detectScheme (s.name ++ ':' :: t) = .ok (s, t) := by
  cases s <;> rfl

/-- Parameters are gathered unless one of them holds a question mark where it may not. -/
theorem gatherParams_eq (source : Text) (params : Ordered (List Text)) (ps : List (Text × Text)) :
    gatherParams source params ps =
      if ps.any (fun p => hasStrayMark p.1 p.2) then .error (.repeatedMark source)
      else .ok (ps.foldl (fun params p => params.add p.1 (paramValues p.1 p.2)) params) := by
  induction ps generalizing params with
  | nil => rfl
  | cons p ps ih =>
    rw [gatherParams, List.any_cons, List.foldl_cons]
    cases hmark : hasStrayMark p.1 p.2 with
    | true => rfl
    | false => rw [if_neg Bool.false_ne_true, ih, Bool.false_or]

/-- A text is read as a scheme, a path, which is taken as it is used, and pairs of names and values. -/
def Spells (t : Text) (s : Scheme) (path : Text) (ps : List (Text × Text)) : Prop :=
  ∃ body raw params, detectScheme (Text.trim t) = .ok (s, body) ∧ cutParams 0 body = (raw, params) ∧
    cleanPath s raw = path ∧ splitParams (params.getD []) = ps

/-- The segment of a scheme, a path and pairs of names and values, read from a text. -/
def segmentOf (t : Text) (s : Scheme) (path : Text) (ps : List (Text × Text)) (required piped : Bool) : Segment where
  scheme := s
  required := required
  piped := piped
  path := path
  parameters := (gathered ps).filter fun p => !transformNames.contains p.1
  transforms := transformsOf (gathered ps)
  source := Text.trim t

/-- A text gives the segment that it spells, unless a question mark stands where it may not. -/
theorem parseSegment_of_spells {t : Text} {s : Scheme} {path : Text} {ps : List (Text × Text)}
    (h : Spells t s path ps) (required piped : Bool) :
    parseSegment t required piped =
      if ps.any (fun p => hasStrayMark p.1 p.2) then .error (.repeatedMark t)
      else .ok (segmentOf t s path ps required piped) := by
  obtain ⟨body, raw, params, hscheme, hcut, rfl, rfl⟩ := h
  simp only [parseSegment, hscheme, bind, Except.bind, hcut, gatherParams_eq]
  by_cases hmark : ((splitParams (params.getD [])).any fun p => hasStrayMark p.1 p.2) = true
  · rw [if_pos hmark, if_pos hmark]
  · rw [if_neg hmark, if_neg hmark]
    rfl

/-- A segment as it is written spells its scheme, its path and its pairs. The last value is trimmed first. -/
theorem spells_segmentText (s : Scheme) {x : Text} (hx : IsPath x) {ps : List (Text × Text)} {k v : Text}
    (hps : ∀ p ∈ ps, IsName p.1 ∧ Carried p.1 p.2) (hk : IsName k) (hv : Steady k (Text.trimRight v)) :
    Spells (segmentText s x (ps ++ [(k, v)])) s (cleanPath s x) (ps ++ [(k, Text.trimRight v)]) := by
  refine ⟨x ++ '?' :: writtenParams (ps ++ [(k, Text.trimRight v)]), x, _, ?_, cutParams_path hx _, rfl, ?_⟩
  · rw [trim_segmentText]
    exact detectScheme_name s _
  · exact splitParams_writtenParams hps hk hv

/-- A segment of which the last pair is known is read again. -/
theorem parseSegment_concat (s : Scheme) {x : Text} (hx : IsPath x) {ps : List (Text × Text)} {k v : Text}
    (hps : ∀ p ∈ ps, IsName p.1 ∧ Carried p.1 p.2) (hk : IsName k) (hv : Carried k v) (required piped : Bool) :
    parseSegment (segmentText s x (ps ++ [(k, v)])) required piped =
      if (ps ++ [(k, Text.trimRight v)]).any (fun p => hasStrayMark p.1 p.2) then
        .error (.repeatedMark (segmentText s x (ps ++ [(k, v)])))
      else .ok {
        scheme := s, required, piped
        path := cleanPath s x
        parameters := (gathered (ps ++ [(k, Text.trimRight v)])).filter fun p => !transformNames.contains p.1
        transforms := transformsOf (gathered (ps ++ [(k, Text.trimRight v)]))
        source := segmentText s x (ps ++ [(k, Text.trimRight v)]) } := by
  have hsteady : Steady k (Text.trimRight v) := hv.steady.of_prefix (Text.dropEndWhile_prefixed _ v)
  rw [parseSegment_of_spells (spells_segmentText s hx hps hk hsteady), segmentOf, trim_segmentText]

/-- Pairs of names and values that the names can carry are found again in the text they are joined to. Behind a
    scheme and a path, that text gives a segment with this scheme, with this path, which loses a leading slash where
    it is no use, and with exactly these parameters, but for white space at the end of the last one. Only a question
    mark in a value that may have none makes it no segment. -/
theorem written_roundTrip {ps : List (Text × Text)} (hne : ps ≠ []) (hps : ∀ p ∈ ps, IsName p.1 ∧ Carried p.1 p.2) :
    splitParams (writtenParams ps) = ps ∧
      ∀ (s : Scheme) (x : Text), IsPath x → ∀ required piped : Bool,
        parseSegment (segmentText s x ps) required piped =
          if (trimLast ps).any (fun p => hasStrayMark p.1 p.2) then .error (.repeatedMark (segmentText s x ps))
          else .ok {
            scheme := s, required, piped
            path := cleanPath s x
            parameters := (gathered (trimLast ps)).filter fun p => !transformNames.contains p.1
            transforms := transformsOf (gathered (trimLast ps))
            source := segmentText s x (trimLast ps) } := by
  obtain ⟨init, ⟨k, v⟩, rfl⟩ : ∃ init last, ps = init ++ [last] :=
    ⟨ps.dropLast, ps.getLast hne, (List.dropLast_concat_getLast hne).symm⟩
  obtain ⟨hinit, hlast⟩ := List.forall_mem_append.1 hps
  obtain ⟨hk, hv⟩ : IsName k ∧ Carried k v := hlast _ (List.mem_singleton.2 rfl)
  refine ⟨splitParams_writtenParams hinit hk hv.steady, fun s x hx required piped => ?_⟩
  rw [trimLast_concat]
  exact parseSegment_concat s hx hinit hk hv required piped

/-- Two expressions with an ampersand and a semicolon inside, a protected ampersand and a placeholder with a question
    mark, in one segment. -/
theorem written_roundTrip_segment :
    splitParams (writtenParams [("regexp", "/a&b=c;d/e\\/?/"), ("transform", "trim;regexp:/p&q ;r/"),
        ("sep", "x\\&y ")]) =
      ([("regexp", "/a&b=c;d/e\\/?/"), ("transform", "trim;regexp:/p&q ;r/"), ("sep", "x\\&y ")] :
        List (Text × Text)) ∧
    parseSegment ("template:/v${n?1}?regexp=/a&b=c;d/e\\/?/&transform=trim;regexp:/p&q ;r/&sep=x\\&y " : Text)
        true false =
      .ok {
        scheme := .template, required := true, piped := false
        path := ("v${n?1}" : String)
        parameters := [("sep", ["x\\&y"])]
        transforms := { transform := ["trim", "regexp:/p&q;r/", "regexp:/a&b=c;d/e\\/?/"] }
        source := ("template:/v${n?1}?regexp=/a&b=c;d/e\\/?/&transform=trim;regexp:/p&q ;r/&sep=x\\&y" : String) } := by
  have hfirst : ∀ c ∈ (Text.trimLeft "e\\/?").head?, c ≠ '&' ∧ c ≠ ';' := by
    rintro c ⟨⟩
    decide
  have hbody : IsBody ("/a&b=c;d/e\\/?/" : Text) :=
    .replacement (p := "a&b=c;d") (r := "e\\/?") (.of_forall (Text.forall_mem_of_all rfl))
      (.single (by decide) (by decide) (.escape '/' (.of_forall (Text.forall_mem_of_all rfl)))) (by decide)
      hfirst
  have hitems : ∀ t ∈ (["trim", "regexp:/p&q ;r/"] : List Text), IsItem t := by
    refine List.forall_mem_cons.2 ⟨.plain (by decide) (by decide) (by decide), List.forall_mem_singleton.2 ?_⟩
    exact .regexp (b := "/p&q ;r/") (.pattern (p := "p&q ;r") (.of_forall (Text.forall_mem_of_all rfl)))
  have hplain : Guarded ['&'] ("x\\&y " : Text) :=
    .single (by decide) (by decide) (.escape '&' (.of_forall (Text.forall_mem_of_all rfl)))
  have hpath : IsPath (("/v" : Text) ++ '$' :: '{' :: (("n?1" : Text) ++ ['}'])) :=
    .hole (by decide) (by decide) (by decide) (by decide) (.stretch (by decide) (by decide))
  have hps : ∀ p ∈ ([("regexp", "/a&b=c;d/e\\/?/"), ("transform", "trim;regexp:/p&q ;r/"), ("sep", "x\\&y ")] :
      List (Text × Text)), IsName p.1 ∧ Carried p.1 p.2 := by
    refine List.forall_mem_cons.2 ⟨⟨?_, .body hbody⟩, List.forall_mem_cons.2 ⟨⟨?_, .items hitems⟩,
      List.forall_mem_singleton.2 ⟨?_, .text (by decide) (by decide) hplain⟩⟩⟩
    · exact ⟨'r', "egexp", rfl, .inl rfl, Text.forall_mem_of_all rfl⟩
    · exact ⟨'t', "ransform", rfl, .inl rfl, Text.forall_mem_of_all rfl⟩
    · exact ⟨'s', "ep", rfl, .inl rfl, Text.forall_mem_of_all rfl⟩
  obtain ⟨hsplit, hparse⟩ := written_roundTrip (by decide) hps
  exact ⟨hsplit, (hparse .template _ hpath true false).trans rfl⟩

/-- A semicolon in an entry that is not marked itself may be followed by an expression that is not closed, which then
    takes the ampersand behind it. -/
theorem splitParams_openPiece :
    ('&' ∉ ("a;regexp:/x" : Text) ∧ '\\' ∉ ("a;regexp:/x" : Text) ∧
      Text.startsWith regexpMark (Text.trim "a;regexp:/x") = false) ∧
    splitParams (writtenParams [("transform", "a;regexp:/x"), ("b", "c")]) =
      ([("transform", "a;regexp:/x&b=c")] : List (Text × Text)) ∧
    splitParams (writtenParams [("transform", "a;regexp:/x"), ("b", "c")]) ≠
      ([("transform", "a;regexp:/x"), ("b", "c")] : List (Text × Text)) := by
  decide

end PageQuery.Query
