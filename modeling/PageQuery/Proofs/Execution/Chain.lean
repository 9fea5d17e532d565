import PageQuery.Proofs.Execution.Confined

namespace PageQuery

/-!
# Laws of chains

One pass over the segments of a chain tries fallbacks, joins results and runs pipes. What it has found so far,
and not the segment before alone, decides whether a segment runs.

* `Segment.isFallback`, `Segment.isJoined`: segments that run if nothing has been found, and in any case;
* `Execution.runEach`, `Execution.FindNothing`: segments that all run, each in the environment that the one
  before it leaves;
* `Execution.outcome_runFrom_skip`, `Execution.outcome_runFrom_own`: what a chain does at one segment;
* `Execution.outcome_runFrom_append`: a chain that goes on;
* `Execution.outcome_runFrom_firstFound`, `Execution.outcome_runFrom_joined`: chains of one kind of segment;
* `Execution.runChain_laws`: chains of fallbacks, chains of joined segments, and fallbacks that do nothing.
-/

open Run

namespace Query.Segment

/-- Whether a segment runs only if nothing has been found before it. -/
def isFallback (s : Segment) : Bool := !s.required && !s.piped

/-- Whether a segment runs whatever has been found, and for itself. -/
def isJoined (s : Segment) : Bool := s.required && !s.piped

theorem isFallback_iff {s : Segment} : s.isFallback = true ↔ s.required = false ∧ s.piped = false := by
  simp [isFallback]

theorem isJoined_iff {s : Segment} : s.isJoined = true ↔ s.required = true ∧ s.piped = false := by
  simp [isJoined]

end Query.Segment

namespace Execution

open Query (Segment)

variable {ctx : Transform.Context} {n : Node}

/-- Segments that all run, one after the other, each in the environment that the one before it leaves: what
    each of them finds, and the environment at the end. -/
def runEach (ctx : Transform.Context) (n : Node) :
    List Segment → Environment → Except Fault (List Results × Environment)
  | [], env => .ok ([], env)
  | s :: rest, env => do
    let (found, env) ← (runSegment ctx s n env).outcome
    let (others, env) ← runEach ctx n rest env
    return (found :: others, env)

/-- Segments that all run and find nothing, between the environments before and after them. -/
def FindNothing (ctx : Transform.Context) (n : Node) (ss : List Segment) (env env' : Environment) : Prop :=
  ∃ founds, runEach ctx n ss env = .ok (founds, env') ∧ ∀ found ∈ founds, found = []

theorem findNothing_nil (env : Environment) : FindNothing ctx n [] env env := ⟨[], rfl, nofun⟩

theorem findNothing_cons {s : Segment} {rest : List Segment} {env env' env'' : Environment}
    (hs : (runSegment ctx s n env).outcome = .ok ([], env')) (hrest : FindNothing ctx n rest env' env'') :
    FindNothing ctx n (s :: rest) env env'' := by
  obtain ⟨founds, hfounds, hnothing⟩ := hrest
  refine ⟨[] :: founds, ?_, List.forall_mem_cons.2 ⟨rfl, hnothing⟩⟩
  rw [runEach, hs]
  show (runEach ctx n rest env' >>= fun r => pure ([] :: r.1, r.2)) = _
  rw [hfounds]
  rfl

/-! ### One segment of a chain -/

theorem blind_runFrom (ctx : Transform.Context) (n : Node) (first : Bool) (found : Results)
    (ss : List Segment) (env : Environment) : Blind (runFrom ctx n first found ss env) :=
  (confined_runFrom (A := fun _ => True) n first found env fun _ _ _ _ _ => trivial).blind

/-- A fallback does nothing where something has been found. -/
theorem outcome_runFrom_skip {s : Segment} (hs : s.isFallback = true) {found : Results} (hfound : found ≠ [])
    (first : Bool) (rest : List Segment) (env : Environment) :
    (runFrom ctx n first found (s :: rest) env).outcome =
      (runFrom ctx n false found rest env).outcome := by
  obtain ⟨hrequired, hpiped⟩ := Segment.isFallback_iff.1 hs
  have hskip : (!found.isEmpty && !s.required && !s.piped) = true := by simp [hfound, hrequired, hpiped]
  rw [runFrom, if_pos hskip]
  exact outcome_bind _ fun _ => blind_runFrom _ _ _ _ _ _

/-- Any other segment runs, and the chain goes on with what there is then. -/
theorem outcome_runFrom_run {s : Segment} {found : Results} (h : found = [] ∨ s.isFallback = false)
    (first : Bool) (rest : List Segment) (env : Environment) :
    (runFrom ctx n first found (s :: rest) env).outcome =
      (next ctx n first found s env).outcome >>= fun more =>
        (runFrom ctx n false more.1 rest more.2).outcome := by
  have hrun : ¬(!found.isEmpty && !s.required && !s.piped) = true := by
    rcases h with rfl | h
    · simp
    · rw [Segment.isFallback] at h
      simp [Bool.and_assoc, h]
  rw [runFrom, if_neg hrun, outcome_bind]
  · -- the remark about the results is told to the session only
    exact bind_congr_ok fun more _ => outcome_bind _ fun _ => blind_runFrom _ _ _ _ _ _
  · exact fun more => blind_bind (blind_note _) fun _ => blind_runFrom _ _ _ _ _ _

/-- A segment that is not fed with results adds its own to them. -/
theorem outcome_next {s : Segment} {first : Bool} (h : (s.piped && !first) = false) (found : Results)
    (env : Environment) :
    (next ctx n first found s env).outcome =
      (runSegment ctx s n env).outcome.map fun more => (found ++ more.1, more.2) := by
  rw [next, if_neg (by simp [h]), outcome_bind _ fun _ => blind_pure _]
  cases (runSegment ctx s n env).outcome <;> rfl

/-- A segment that runs for itself adds what it finds to what the rest of the chain goes on with. -/
theorem outcome_runFrom_own {s : Segment} {first : Bool} {found : Results}
    (h : found = [] ∨ s.isFallback = false) (hown : (s.piped && !first) = false) (rest : List Segment)
    (env : Environment) :
    (runFrom ctx n first found (s :: rest) env).outcome =
      (runSegment ctx s n env).outcome >>= fun more =>
        (runFrom ctx n false (found ++ more.1) rest more.2).outcome := by
  rw [outcome_runFrom_run h, outcome_next hown]
  cases (runSegment ctx s n env).outcome <;> rfl

/-- A chain goes on with what the segments before have found, and in the environment that they leave. -/
theorem outcome_runFrom_append (first : Bool) (found : Results) (ss ts : List Segment) (env : Environment) :
    (runFrom ctx n first found (ss ++ ts) env).outcome =
      (runFrom ctx n first found ss env).outcome >>= fun r =>
        (runFrom ctx n (first && ss.isEmpty) r.1 ts r.2).outcome := by
  induction ss generalizing first found env with
  | nil =>
    rw [List.isEmpty_nil, Bool.and_true]
    rfl
  | cons s ss ih =>
    have hfirst : (first && (s :: ss).isEmpty) = false := by simp
    rw [List.cons_append, hfirst]
    by_cases hskip : found ≠ [] ∧ s.isFallback = true
    · rw [outcome_runFrom_skip hskip.2 hskip.1, outcome_runFrom_skip hskip.2 hskip.1, ih, Bool.false_and]
    · have hrun : found = [] ∨ s.isFallback = false := by
        by_cases hfound : found = []
        · exact .inl hfound
        · exact .inr (by simpa [hfound] using hskip)
      rw [outcome_runFrom_run hrun, outcome_runFrom_run hrun, bind_assoc]
      refine bind_congr_ok fun more _ => ?_
      rw [ih, Bool.false_and]

/-! ### Fallbacks -/

/-- Fallbacks do nothing where something has been found. -/
theorem outcome_runFrom_fallbacks {ss : List Segment} (hss : ∀ s ∈ ss, s.isFallback = true) {found : Results}
    (hfound : found ≠ []) (first : Bool) (env : Environment) :
    (runFrom ctx n first found ss env).outcome = .ok (found, env) := by
  induction ss generalizing first with
  | nil => rfl
  | cons s rest ih =>
    obtain ⟨hs, hrest⟩ := List.forall_mem_cons.1 hss
    rw [outcome_runFrom_skip hs hfound, ih hrest]

/-- Where a segment runs first and fails or finds something, the fallbacks behind it do nothing. -/
theorem outcome_runFrom_decided {a : Segment} {rest : List Segment} (hrest : ∀ s ∈ rest, s.isFallback = true)
    {first : Bool} (ha : (a.piped && !first) = false) {env : Environment}
    (hfinds : ∀ env', (runSegment ctx a n env).outcome ≠ .ok ([], env')) :
    (runFrom ctx n first [] (a :: rest) env).outcome = (runSegment ctx a n env).outcome := by
  rw [outcome_runFrom_own (.inl rfl) ha]
  cases hown : (runSegment ctx a n env).outcome with
  | error f => rfl
  | ok more =>
    obtain ⟨found, env'⟩ := more
    have hfound : found ≠ [] := fun hnothing => hfinds env' (hnothing ▸ hown)
    exact outcome_runFrom_fallbacks hrest hfound false env'

/-- Where a segment runs first and finds nothing, the chain is that of the segments behind it. -/
theorem outcome_runFrom_nothing {a : Segment} (rest : List Segment) {first : Bool}
    (ha : (a.piped && !first) = false) {env env' : Environment}
    (hnothing : (runSegment ctx a n env).outcome = .ok ([], env')) :
    (runFrom ctx n first [] (a :: rest) env).outcome = (runFrom ctx n false [] rest env').outcome := by
  rw [outcome_runFrom_own (.inl rfl) ha, hnothing]
  rfl

/-- Of a segment and the fallbacks behind it the first decides that does not find nothing, and if there is
    none all of them run. -/
theorem outcome_runFrom_firstFound {ss : List Segment} {first : Bool}
    (hfirst : ∀ a ∈ ss.head?, (a.piped && !first) = false) (hss : ∀ s ∈ ss.tail, s.isFallback = true)
    (env : Environment) :
    (∃ env', FindNothing ctx n ss env env' ∧ (runFrom ctx n first [] ss env).outcome = .ok ([], env')) ∨
    ∃ before b after env', ss = before ++ b :: after ∧ FindNothing ctx n before env env' ∧
      (∀ env'', (runSegment ctx b n env').outcome ≠ .ok ([], env'')) ∧
      (runFrom ctx n first [] ss env).outcome = (runSegment ctx b n env').outcome := by
  induction ss generalizing first env with
  | nil => exact .inl ⟨env, findNothing_nil env, rfl⟩
  | cons a rest ih =>
    have ha : (a.piped && !first) = false := hfirst a rfl
    by_cases hown : ∃ env', (runSegment ctx a n env).outcome = .ok ([], env')
    · obtain ⟨env', hown⟩ := hown
      have hhead : ∀ b ∈ rest.head?, (b.piped && !false) = false := by
        intro b hb
        simp [(Segment.isFallback_iff.1 (hss b (List.mem_of_mem_head? hb))).2]
      have htail : ∀ s ∈ rest.tail, s.isFallback = true := fun s hs => hss s (List.mem_of_mem_tail hs)
      rw [outcome_runFrom_nothing _ ha hown]
      -- the segments that find nothing are `a` and those that the rest of the chain starts with
      rcases ih hhead htail env' with
        ⟨env'', hnothing, hchain⟩ | ⟨before, b, after, env'', hsplit, hnothing, hb⟩
      · exact .inl ⟨env'', findNothing_cons hown hnothing, hchain⟩
      · exact .inr ⟨a :: before, b, after, env'', by rw [hsplit]; rfl, findNothing_cons hown hnothing, hb⟩
    · have hfinds := not_exists.1 hown
      exact .inr ⟨[], a, rest, env, rfl, findNothing_nil env, hfinds, outcome_runFrom_decided hss ha hfinds⟩

/-! ### Joined segments -/

/-- What segments that all run add to what has been found: first what the first of them finds. -/
theorem map_runEach_cons (s : Segment) (rest : List Segment) (found : Results) (env : Environment) :
    ((runEach ctx n (s :: rest) env).map fun r => (found ++ r.1.flatten, r.2)) =
      (runSegment ctx s n env).outcome >>= fun more =>
        (runEach ctx n rest more.2).map fun r => (found ++ more.1 ++ r.1.flatten, r.2) := by
  rw [runEach]
  cases (runSegment ctx s n env).outcome with
  | error f => rfl
  | ok more =>
    show ((runEach ctx n rest more.2 >>= fun r => pure (more.1 :: r.1, r.2)).map _) =
      (runEach ctx n rest more.2).map _
    cases runEach ctx n rest more.2 with
    | error f => rfl
    | ok r => simp [Except.map, bind, Except.bind, pure, Except.pure]

/-- Segments that are joined add what each of them finds, in the order of the chain. -/
theorem outcome_runFrom_joined {ss : List Segment} (hss : ∀ s ∈ ss, s.isJoined = true) (first : Bool)
    (found : Results) (env : Environment) :
    (runFrom ctx n first found ss env).outcome =
      (runEach ctx n ss env).map fun r => (found ++ r.1.flatten, r.2) := by
  induction ss generalizing first found env with
  | nil =>
    show Except.ok (found, env) = Except.ok (found ++ [], env)
    rw [List.append_nil]
  | cons s rest ih =>
    obtain ⟨hs, hrest⟩ := List.forall_mem_cons.1 hss
    obtain ⟨hrequired, hpiped⟩ := Segment.isJoined_iff.1 hs
    have hruns : s.isFallback = false := by simp [Segment.isFallback, hrequired]
    rw [outcome_runFrom_own (.inr hruns) (by simp [hpiped]), map_runEach_cons]
    exact bind_congr_ok fun more _ => ih hrest false (found ++ more.1) more.2

/-! ### Whole chains -/

/-- The first segment of a chain runs, and the segments that are joined to it add what they find. -/
theorem outcome_runChain_joined {ss : List Segment} (hss : ∀ s ∈ ss.tail, s.isJoined = true)
    (env : Environment) :
    (runChain ctx ss n env).outcome = (runEach ctx n ss env).map fun r => (r.1.flatten, r.2) := by
  cases ss with
  | nil => rfl
  | cons a rest =>
    rw [runChain, outcome_runFrom_own (.inl rfl) (by simp)]
    refine Eq.trans (bind_congr_ok fun more _ => ?_) (map_runEach_cons a rest [] env).symm
    exact outcome_runFrom_joined hss false more.1 more.2

/-- A fallback that is reached with something found can be left out. -/
theorem outcome_runChain_delete {before : List Segment} {b : Segment} (hb : b.isFallback = true)
    {env env' : Environment} {found : Results}
    (hbefore : (runChain ctx before n env).outcome = .ok (found, env')) (hfound : found ≠ [])
    (after : List Segment) :
    (runChain ctx (before ++ b :: after) n env).outcome = (runChain ctx (before ++ after) n env).outcome := by
  have hnonempty : before.isEmpty = false := by
    rcases before with _ | ⟨a, before⟩
    · -- a chain without segments has found nothing
      obtain rfl : [] = found := congrArg Prod.fst (Except.ok.inj hbefore)
      exact absurd rfl hfound
    · rfl
  rw [runChain] at hbefore
  rw [runChain, runChain, outcome_runFrom_append, outcome_runFrom_append, hbefore, hnonempty]
  exact outcome_runFrom_skip hb hfound _ _ _

/-- What a chain finds, and the environment that it leaves.

    Behind a first segment, fallbacks are tried in turn: the first segment decides that does not find nothing,
    and the ones behind it have no effect. Joined segments all run and add what they find. In any chain, a
    fallback that is reached with something found can be left out. -/
theorem runChain_laws (ctx : Transform.Context) (n : Node) (env : Environment) (session : Session) :
    (∀ ss : List Segment, (∀ s ∈ ss.tail, s.isFallback = true) →
      (∃ env', FindNothing ctx n ss env env' ∧ ((runChain ctx ss n env).exec session).1 = .ok ([], env')) ∨
      ∃ before b after env', ss = before ++ b :: after ∧ FindNothing ctx n before env env' ∧
        (∀ env'', (runSegment ctx b n env').outcome ≠ .ok ([], env'')) ∧
        ((runChain ctx ss n env).exec session).1 = (runSegment ctx b n env').outcome) ∧
    (∀ ss : List Segment, (∀ s ∈ ss.tail, s.isJoined = true) →
      ((runChain ctx ss n env).exec session).1 =
        (runEach ctx n ss env).map fun r => (r.1.flatten, r.2)) ∧
    (∀ (before : List Segment) (b : Segment) (after : List Segment) (found : Results) (env' : Environment),
      b.isFallback = true → (runChain ctx before n env).outcome = .ok (found, env') → found ≠ [] →
      ((runChain ctx (before ++ b :: after) n env).exec session).1 =
        ((runChain ctx (before ++ after) n env).exec session).1) := by
  have hblind : ∀ ss, ((runChain ctx ss n env).exec session).1 = (runChain ctx ss n env).outcome :=
    fun ss => (blind_runChain ctx ss n env).exec_fst session
  simp only [hblind]
  refine ⟨fun ss hss => ?fallbacks, fun ss hss => ?joined,
    fun before b after found env' hb hbefore hfound => ?deleted⟩
  case fallbacks => exact outcome_runFrom_firstFound (by simp) hss env
  case joined => exact outcome_runChain_joined hss env
  case deleted => exact outcome_runChain_delete hb hbefore hfound after

/-- On a page with a number under one name: the fallback that saves it decides, joined segments are added up,
    and a fallback is left out whose left neighbour has found nothing. -/
theorem runChain_laws_number :
    ∃ (page : Page) (a b saved c d orC : Segment),
      Page.build "https://a.org/p" [] (.map [(.text "b", .int 1)]) [] = .ok page ∧
      (Query.parseChain "json:a || json:b?save=x || template:c" = .ok [a, saved, orC] ∧
        (∀ s ∈ [saved, orC], s.isFallback = true) ∧
        ∃ before s after env', [a, saved, orC] = before ++ s :: after ∧
          FindNothing {} page.root before [] env' ∧
          (runSegment {} s page.root env').outcome = .ok ([.discarded (.int 1)], [("x", .int 1)])) ∧
      (Query.parseChain "json:b ++ template:c" = .ok [b, c] ∧ (∀ s ∈ [c], s.isJoined = true) ∧
        ((runChain {} [b, c] page.root []).exec {}).1 = .ok ([.int 1, .text "c"], [])) ∧
      Query.parseChain "json:b ++ json:a || template:c ++ template:d" = .ok ([b, a] ++ orC :: [d]) ∧
        orC.isFallback = true ∧ (runChain {} [b, a] page.root []).outcome = .ok ([.int 1], []) ∧
        ((runChain {} ([b, a] ++ orC :: [d]) page.root []).exec {}).1 =
          ((runChain {} ([b, a] ++ [d]) page.root []).exec {}).1 := by
  let page : Page := ⟨"https://a.org/p", ⟨.element "html" [] [], []⟩, .map [(.text "b", .int 1)]⟩
  let a : Segment := ⟨.json, "a", [], {}, true, false, "json:a"⟩
  let b : Segment := ⟨.json, "b", [], {}, true, false, "json:b"⟩
  let saved : Segment := ⟨.json, "b", [], { save := ["x"] }, false, false, "json:b?save=x"⟩
  let c : Segment := ⟨.template, "c", [], {}, true, false, "template:c"⟩
  let d : Segment := ⟨.template, "d", [], {}, true, false, "template:d"⟩
  let orC : Segment := ⟨.template, "c", [], {}, false, false, "template:c"⟩
  have hsaved : ((runChain {} [a, saved, orC] page.root []).exec {}).1 =
      .ok ([.discarded (.int 1)], [("x", .int 1)]) := rfl
  have hreached : (runChain {} [b, a] page.root []).outcome = .ok ([.int 1], []) := rfl
  have hsome : ([.int 1] : Results) ≠ [] := List.cons_ne_nil _ _
  have hsavedLater : ∀ s ∈ [saved, orC], s.isFallback = true := by simp [Segment.isFallback, saved, orC]
  have hjoinedLater : ∀ s ∈ [c], s.isJoined = true := by simp [Segment.isJoined, c]
  obtain ⟨hfallbacks, hjoined, hdelete⟩ := runChain_laws {} page.root [] {}
  refine ⟨page, a, b, saved, c, d, orC, rfl, ⟨rfl, hsavedLater, ?_⟩, ⟨rfl, hjoinedLater, ?_⟩, rfl, rfl,
    hreached, hdelete [b, a] orC [d] [.int 1] [] rfl hreached hsome⟩
  · rcases hfallbacks [a, saved, orC] hsavedLater with
      ⟨env', -, hnothing⟩ | ⟨before, s, after, env', hsplit, hbefore, -, hchain⟩
    · cases hsaved.symm.trans hnothing
    · exact ⟨before, s, after, env', hsplit, hbefore, hchain.symm.trans hsaved⟩
  · rw [hjoined [b, c] hjoinedLater]
    rfl

end Execution

end PageQuery
