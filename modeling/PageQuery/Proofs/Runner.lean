import PageQuery.Proofs.Environment
import PageQuery.Proofs.Execution.Confined
import PageQuery.Proofs.Query.Places
import PageQuery.Runner

namespace PageQuery

/-!
# The calls of a runner

A runner answers every call as if it parsed the query anew, however many parsed queries it keeps. What it
keeps are the queries that were used last. A query that cannot be parsed is reported with a place, for which the
text of the first segment that fails is looked for in the query.

* `Cache.recent`: the queries among texts, the one used last first;
* `Cache.Reached`: a cache after some texts have been looked up, and `Cache.reached_lookup`, one more of them;
* `Runner.answer`, `Runner.exec_attempt_fst`: how a call goes, whatever the cache holds;
* `Runner.attemptAll_cached`: all calls, with a cache and without one;
* `Runner.attempt_failing`: the place that is reported for a query that cannot be parsed.
-/

open Run

/-! ### Lists without repetitions -/

section

variable {α : Type} [BEq α] [LawfulBEq α]

/-- An item that is taken out of the first ones makes room for one less than there was. -/
theorem take_filter_take {as : List α} (h : as.Nodup) (a : α) (m : Nat) :
    ((as.take (m + 1)).filter (· != a)).take m = (as.filter (· != a)).take m := by
  induction as generalizing m with
  | nil => rfl
  | cons b as ih =>
    obtain ⟨hb, has⟩ := List.nodup_cons.1 h
    rw [List.take_succ_cons]
    by_cases hab : b = a
    · -- `a` comes only once, so that nothing else is taken out
      have hkeep : ∀ {cs : List α}, cs ⊆ as → cs.filter (· != a) = cs := by
        intro cs hcs
        refine List.filter_eq_self.2 fun c hc => ?_
        have hne : c ≠ a := by
          rintro rfl
          exact hb (hab ▸ hcs hc)
        simpa using hne
      have hout : ∀ cs : List α, (b :: cs).filter (· != a) = cs.filter (· != a) := fun cs =>
        List.filter_cons_of_neg (by simp [hab])
      rw [hout, hout, hkeep (List.take_subset _ _), hkeep (List.Subset.refl _), List.take_take,
        Nat.min_self]
    · have hin : ∀ cs : List α, (b :: cs).filter (· != a) = b :: cs.filter (· != a) := fun cs =>
        List.filter_cons_of_pos (by simpa using hab)
      rw [hin, hin]
      cases m with
      | zero => rfl
      | succ m => rw [List.take_succ_cons, List.take_succ_cons, ih has]

end

/-! ### Caches -/

namespace Cache

/-- Whether a text is a query. -/
def isQuery (t : Text) : Bool := (Query.parse t).toOption.isSome

/-- The queries among texts that are looked up one after the other: each once, the one looked up last
    first. -/
def recent (ts : List Text) : List Text := (ts.filter isQuery).reverse.eraseDups

/-- A cache of some capacity after texts have been looked up in it. -/
structure Reached (n : Nat) (ts : List Text) (c : Cache) : Prop where
  capacity : c.capacity = n
  counts : c.hits + c.misses = ts.length
  size_le : c.entries.length ≤ c.misses
  keys : Ordered.keys c.entries = (recent ts).take n
  parsed : ∀ e ∈ c.entries, Query.parse e.1 = .ok e.2

/-- A text that is no query is not kept in mind. -/
theorem recent_concat_of_error {t : Text} {e : Query.FormatError} (h : Query.parse t = .error e)
    (ts : List Text) : recent (ts ++ [t]) = recent ts := by
  have ht : isQuery t = false := by simp [isQuery, h, Except.toOption]
  simp [recent, List.filter_append, ht]

/-- A query that is looked up comes first, in front of the others. -/
theorem recent_concat_of_ok {t : Text} {q : Query} (h : Query.parse t = .ok q) (ts : List Text) :
    recent (ts ++ [t]) = t :: (recent ts).filter (· != t) := by
  have ht : isQuery t = true := by simp [isQuery, h, Except.toOption]
  have hlast : ((ts ++ [t]).filter isQuery).reverse = t :: (ts.filter isQuery).reverse := by
    simp [List.filter_append, ht]
  rw [recent, hlast, List.eraseDups_cons, eraseDups_filter]
  rfl

/-- The query that is looked up last, in front of those that were kept before it, is what is to be kept. -/
theorem take_recent_concat {t : Text} {q : Query} (h : Query.parse t = .ok q) (ts : List Text) (n : Nat) :
    (t :: ((recent ts).take n).filter (· != t)).take n = (recent (ts ++ [t])).take n := by
  have hnodup : (recent ts).Nodup := nodup_eraseDups _
  rw [recent_concat_of_ok h]
  cases n with
  | zero => rfl
  | succ m => rw [List.take_succ_cons, List.take_succ_cons, take_filter_take hnodup]

theorem reached_nil (n : Nat) : Reached n [] { capacity := n } :=
  ⟨rfl, rfl, Nat.le_refl 0, by simp [recent], nofun⟩

/-- A cache of parsed queries finds what parsing gives. -/
theorem lookup_fst {c : Cache} (hc : ∀ e ∈ c.entries, Query.parse e.1 = .ok e.2) (t : Text) :
    (c.lookup t).1 = Query.parse t := by
  unfold lookup
  split
  · next q hq => exact (hc _ (Ordered.mem_of_get? hq)).symm
  · dsimp only
    split
    · next q hq => exact hq.symm
    · next e he => exact he.symm

/-- An entry that is found and moved to the front is the query that was used last. -/
theorem keys_moved {n : Nat} {ts : List Text} {es : List (Text × Query)} {t : Text} {q : Query}
    (hkeys : Ordered.keys es = (recent ts).take n) (hmem : (t, q) ∈ es) (hq : Query.parse t = .ok q) :
    Ordered.keys ((t, q) :: es.filter (·.1 != t)) = (recent (ts ++ [t])).take n := by
  have hless : (es.filter (·.1 != t)).length < es.length :=
    List.length_filter_lt_length_iff_exists.2 ⟨(t, q), hmem, by simp⟩
  have hsize : es.length ≤ n := by
    have hlength := congrArg List.length hkeys
    rw [Ordered.keys, List.length_map, List.length_take] at hlength
    omega
  have hmoved : Ordered.keys ((t, q) :: es.filter (·.1 != t)) =
      t :: ((recent ts).take n).filter (· != t) := by
    rw [Ordered.keys_cons, ← hkeys, Ordered.keys, Ordered.keys, List.filter_map]
    rfl
  -- it was there before, so that there is room for it
  have hroom : (t :: ((recent ts).take n).filter (· != t)).length ≤ n := by
    rw [← hmoved, Ordered.keys, List.length_map, List.length_cons]
    omega
  rw [hmoved, ← take_recent_concat hq, List.take_of_length_le hroom]

/-- An entry that is put in front of the others is the query that was used last, and the one used longest ago
    may fall out. -/
theorem keys_added {n : Nat} {ts : List Text} {es : List (Text × Query)} {t : Text} {q : Query}
    (hkeys : Ordered.keys es = (recent ts).take n) (hnew : t ∉ Ordered.keys es) (hq : Query.parse t = .ok q) :
    Ordered.keys (((t, q) :: es).take n) = (recent (ts ++ [t])).take n := by
  have hothers : ((recent ts).take n).filter (· != t) = (recent ts).take n := by
    rw [← hkeys]
    refine List.filter_eq_self.2 fun u hu => ?_
    have hne : u ≠ t := ne_of_mem_of_not_mem hu hnew
    simpa using hne
  rw [← take_recent_concat hq, hothers, ← hkeys]
  exact List.map_take

/-- One more text is looked up. -/
theorem reached_lookup {n : Nat} {ts : List Text} {c : Cache} (h : Reached n ts c) (t : Text) :
    Reached n (ts ++ [t]) (c.lookup t).2 := by
  obtain ⟨rfl, hcounts, hsize, hkeys, hparsed⟩ := h
  have hlength : (ts ++ [t]).length = ts.length + 1 := List.length_append
  unfold lookup
  split
  · -- a hit: the entry moves to the front
    next q hq =>
    have hmem : (t, q) ∈ c.entries := Ordered.mem_of_get? hq
    have hless : (c.entries.filter (·.1 != t)).length < c.entries.length :=
      List.length_filter_lt_length_iff_exists.2 ⟨(t, q), hmem, by simp⟩
    refine ⟨rfl, ?_, ?_, keys_moved hkeys hmem (hparsed _ hmem), ?_⟩
    · show c.hits + 1 + c.misses = _
      omega
    · show (c.entries.filter (·.1 != t)).length + 1 ≤ c.misses
      omega
    · exact List.forall_mem_cons.2 ⟨hparsed _ hmem, fun e he => hparsed e (List.mem_filter.1 he).1⟩
  · next hnone =>
    have hnew : t ∉ Ordered.keys c.entries := by
      rw [← Ordered.isSome_get?_iff, Ordered.get?, hnone]
      simp
    dsimp only
    split
    · -- a miss: the query is put in front of the others
      next q hq =>
      refine ⟨rfl, ?_, ?_, keys_added hkeys hnew hq, ?_⟩
      · show c.hits + (c.misses + 1) = _
        omega
      · show (((t, q) :: c.entries).take c.capacity).length ≤ c.misses + 1
        rw [List.length_take, List.length_cons]
        omega
      · intro e he
        rcases List.mem_cons.1 (List.mem_of_mem_take he) with rfl | he
        · exact hq
        · exact hparsed e he
    · -- a text that is no query leaves the entries as they are
      next e he =>
      refine ⟨rfl, ?_, Nat.le_succ_of_le hsize, ?_, hparsed⟩
      · show c.hits + (c.misses + 1) = _
        omega
      · rw [recent_concat_of_error he]
        exact hkeys

end Cache

/-! ### Calls -/

namespace Runner

/-- A query, the page that it is run against, and the variables that are set. -/
structure Call where
  query : Text
  page : Page
  environment : Environment

/-- How a call goes: what parsing and running the query give. -/
def answer (ctx : Transform.Context) (call : Call) : Attempt :=
  match Query.parse call.query with
  | .error e => .ofFault call.query (.format e)
  | .ok q =>
    match (Execution.run ctx q call.page.root call.environment).outcome with
    | .ok o => .success o.value o.environment
    | .error f => .ofFault call.query f

/-- Calls one after the other: how each of them goes, and the cache after it. -/
def attemptAll (ctx : Transform.Context) : Cache → List Call → Run (List (Attempt × Cache))
  | _, [] => return []
  | c, call :: rest => do
    let (a, c) ← attempt ctx c call.query call.page call.environment
    let others ← attemptAll ctx c rest
    return (a, c) :: others

variable {ctx : Transform.Context}

/-- What is reported when a query is run that has been parsed. -/
theorem exec_report {call : Call} {q : Query} (hq : Query.parse call.query = .ok q) (c : Cache)
    (s : Session) :
    ((do
      let outcome ← (Execution.run ctx q call.page.root call.environment).attempt
      match outcome with
      | .ok o => return (.success o.value o.environment, c)
      | .error f => return (.ofFault call.query f, c) : Run (Attempt × Cache)).exec s).1 =
      .ok (answer ctx call, c) := by
  have hrun := (Execution.blind_run ctx q call.page.root call.environment).exec_fst s
  rw [exec_bind_fst, exec_attempt, hrun, answer, hq]
  dsimp only
  cases (Execution.run ctx q call.page.root call.environment).outcome <;> rfl

/-- A call goes as it goes on its own, and looks its query up. -/
theorem exec_attempt_fst {c : Cache} (hc : ∀ e ∈ c.entries, Query.parse e.1 = .ok e.2) (call : Call)
    (s : Session) :
    ((attempt ctx c call.query call.page call.environment).exec s).1 =
      .ok (answer ctx call, (c.lookup call.query).2) := by
  have hfst := Cache.lookup_fst hc call.query
  rw [attempt]
  rcases hlookup : c.lookup call.query with ⟨parsed, c'⟩
  rw [hlookup] at hfst
  obtain rfl : parsed = Query.parse call.query := hfst
  cases hparse : Query.parse call.query with
  | error e =>
    rw [answer, hparse]
    rfl
  | ok q =>
    -- a query that is new is noted, which the answer does not tell
    dsimp only
    split
    · exact exec_report hparse c' _
    · exact exec_report hparse c' s

/-- All calls go as they go on their own, and the cache is what looking up their queries leads to. -/
theorem exec_attemptAll (ctx : Transform.Context) {n : Nat} {ts : List Text} {c : Cache} (h : c.Reached n ts)
    (calls : List Call) (s : Session) :
    ∃ made, ((attemptAll ctx c calls).exec s).1 = .ok made ∧
      made.map Prod.fst = calls.map (answer ctx) ∧
      ∀ i (hi : i < made.length),
        made[i].2.Reached n (ts ++ (calls.take (i + 1)).map Call.query) := by
  induction calls generalizing ts c s with
  | nil => exact ⟨[], rfl, rfl, nofun⟩
  | cons call rest ih =>
    have hfirst : ((attempt ctx c call.query call.page call.environment).exec s).1 =
        .ok (answer ctx call, (c.lookup call.query).2) := exec_attempt_fst h.parsed call s
    have hnext := Cache.reached_lookup h call.query
    rw [attemptAll, exec_bind_fst, hfirst]
    obtain ⟨made, hmade, hanswers, hreached⟩ := ih hnext
      ((attempt ctx c call.query call.page call.environment).exec s).2
    refine ⟨(answer ctx call, (c.lookup call.query).2) :: made, ?_, ?_, ?_⟩
    · show (((attemptAll ctx (c.lookup call.query).2 rest) >>= fun others =>
        pure ((answer ctx call, (c.lookup call.query).2) :: others)).exec _).1 = _
      rw [exec_bind_fst, hmade]
      rfl
    · rw [List.map_cons, List.map_cons, hanswers]
    · intro i hi
      cases i with
      | zero => exact hnext
      | succ i =>
        have hi' : i < made.length := by simpa using hi
        simpa using hreached i hi'

/-- Calls of a runner with a cache go as those of a runner without one. After each of them every call has been
    counted as a hit or a miss, the cache has at most as many entries as it has room for and as there were
    misses, and its entries are the queries that were used last, as many as there is room for: each once, the
    one used last first, and none of the texts that are no queries. -/
theorem attemptAll_cached (ctx : Transform.Context) (n : Nat) (calls : List Call) (s s' : Session) :
    ∃ cached plain : List (Attempt × Cache),
      ((attemptAll ctx { capacity := n } calls).exec s).1 = .ok cached ∧
      ((attemptAll ctx { capacity := 0 } calls).exec s').1 = .ok plain ∧
      cached.map Prod.fst = plain.map Prod.fst ∧ cached.length = calls.length ∧
      ∀ i (hi : i < cached.length),
        let c := cached[i].2
        c.hits + c.misses = i + 1 ∧ c.entries.length ≤ n ∧ c.entries.length ≤ c.misses ∧
        Ordered.keys c.entries = (Cache.recent ((calls.take (i + 1)).map Call.query)).take n ∧
        ∀ e ∈ c.entries, Query.parse e.1 = .ok e.2 := by
  obtain ⟨cached, hcached, hanswers, hreached⟩ := exec_attemptAll ctx (Cache.reached_nil n) calls s
  obtain ⟨plain, hplain, hplainAnswers, -⟩ := exec_attemptAll ctx (Cache.reached_nil 0) calls s'
  have hlength : cached.length = calls.length := by
    rw [← List.length_map (f := Prod.fst), hanswers, List.length_map]
  refine ⟨cached, plain, hcached, hplain, hanswers.trans hplainAnswers.symm, hlength, fun i hi => ?_⟩
  obtain ⟨-, hcounts, hsize, hkeys, hparsed⟩ := hreached i hi
  rw [List.nil_append] at hcounts hkeys
  refine ⟨?_, ?_, hsize, hkeys, hparsed⟩
  · rw [hcounts, List.length_map, List.length_take]
    omega
  · have hlen := congrArg List.length hkeys
    rw [Ordered.keys, List.length_map, List.length_take] at hlen
    omega

/-! ### Queries that cannot be parsed -/

open Query (FormatError Lexeme StandsBehind parseSegment)

/-- A query that cannot be parsed is reported with a place at which the text of the segment at fault stands. -/
theorem answer_of_parse_eq_error {call : Call} {e : FormatError} {t : Text}
    (h : Query.parse call.query = .error e) (ht : e.source = t) (htrim : Text.trim t = t) (hne : t ≠ []) :
    answer ctx call = .failure (Attempt.describe (.format e)) (Text.find? t call.query) := by
  have hplace : Attempt.place? call.query (.format e) = Text.find? t call.query := by
    rw [Attempt.place?, ht, htrim, if_neg (by rwa [List.isEmpty_iff])]
  rw [answer, h]
  dsimp only
  rw [Attempt.ofFault, hplace]

/-- A query that cannot be parsed fails at the first of its segments that does. It is reported to fail where the text of
    this segment first stands in the query, which is not behind the start of the segment. It is that start exactly if
    the text stands nowhere before it. -/
theorem attempt_failing (ctx : Transform.Context) {n : Nat} {ts : List Text} {c : Cache} (hc : c.Reached n ts)
    {q : Text} {e : FormatError} (h : Query.parse q = .error e) (page : Page) (env : Environment) (s : Session) :
    ∃ before offset t i, StandsBehind q before offset t ∧
      (∀ u ∈ before.filterMap Lexeme.segment?, ∃ seg, parseSegment u true false = .ok seg) ∧
      parseSegment t true false = .error e ∧
      ((attempt ctx c q page env).exec s).1 =
        .ok (.failure (Attempt.describe (.format e)) (some i), (c.lookup q).2) ∧
      i ≤ offset ∧ t <+: q.drop i ∧ (i = offset ↔ ∀ j < offset, ¬ t <+: q.drop j) := by
  obtain ⟨before, offset, t, hstands, hbefore, ht⟩ := Query.exists_first_of_parse_eq_error h
  obtain ⟨i, hi, hfound⟩ := Text.exists_find?_of_prefixed hstands.prefixed
  obtain ⟨hplace, hfirst⟩ := Text.eq_of_find?_eq_some hfound
  have hanswer : answer ctx ⟨q, page, env⟩ = .failure (Attempt.describe (.format e)) (some i) := by
    have hsource := Query.source_of_parseSegment_eq_error hstands.trim_eq ht
    rw [answer_of_parse_eq_error h hsource hstands.trim_eq hstands.ne_nil, hfound]
  have hexec : ((attempt ctx c q page env).exec s).1 = .ok (answer ctx ⟨q, page, env⟩, (c.lookup q).2) :=
    exec_attempt_fst hc.parsed ⟨q, page, env⟩ s
  rw [hanswer] at hexec
  refine ⟨before, offset, t, i, hstands, hbefore, ht, hexec, hi, hplace, ?_, fun hnone => ?_⟩
  · rintro rfl
    exact hfirst
  · exact (Nat.lt_or_eq_of_le hi).resolve_left fun hlt => hnone i hlt hplace

/-- The second segment of a query has no scheme, and its text stands nowhere else. -/
theorem attempt_failing_second :
    Query.parse "h1 ++ ftp:files" = .error (.unsupportedScheme "ftp" "ftp:files") ∧
      ∃ before offset, StandsBehind "h1 ++ ftp:files" before offset "ftp:files" ∧
        ((attempt {} { capacity := 0 } "h1 ++ ftp:files" default []).exec {}).1 =
          .ok (.failure "UnsupportedScheme: ftp" (some 6), { capacity := 0, misses := 1 }) ∧
        (6 = offset ↔ ∀ j < offset, ¬"ftp:files".toList <+: "h1 ++ ftp:files".toList.drop j) := by
  have hparse : Query.parse "h1 ++ ftp:files" = .error (.unsupportedScheme "ftp" "ftp:files") := rfl
  have hrun : ((attempt {} { capacity := 0 } "h1 ++ ftp:files" default []).exec {}).1 =
      .ok (.failure "UnsupportedScheme: ftp" (some 6), { capacity := 0, misses := 1 }) := rfl
  refine ⟨hparse, ?_⟩
  obtain ⟨before, offset, t, i, hstands, -, ht, hexec, -, -, hiff⟩ :=
    attempt_failing {} (Cache.reached_nil 0) hparse default [] {}
  obtain rfl : "ftp:files".toList = t := Query.source_of_parseSegment_eq_error hstands.trim_eq ht
  obtain rfl : 6 = i := by
    rw [hrun] at hexec
    injection hexec with hexec
    injection hexec with hfailure
    injection hfailure with _ hplace
    exact Option.some.inj hplace
  exact ⟨before, offset, hstands, hrun, hiff⟩

/-- The text of the second segment, whose scheme there is not, stands in the first one, where it is a path. The query is
    reported to fail there. -/
theorem attempt_misplaced :
    Query.parse "json:foo:bar ++ foo:bar" = .error (.unsupportedScheme "foo" "foo:bar") ∧
      StandsBehind "json:foo:bar ++ foo:bar" [.plain "json:foo:bar ", .separator "++"] 16 "foo:bar" ∧
      (∃ seg, parseSegment "json:foo:bar" true false = .ok seg) ∧
      parseSegment "foo:bar" true false = .error (.unsupportedScheme "foo" "foo:bar") ∧
      ((attempt {} { capacity := 0 } "json:foo:bar ++ foo:bar" default []).exec {}).1 =
        .ok (.failure "UnsupportedScheme: foo" (some 5), { capacity := 0, misses := 1 }) :=
  ⟨rfl, ⟨by decide, rfl, " ", [], [], rfl, rfl, rfl, rfl⟩, ⟨_, rfl⟩, rfl, rfl⟩

end Runner

end PageQuery
