import PageQuery.Proofs.Execution.Confined
import PageQuery.Proofs.Results

namespace PageQuery

/-!
# Pipes over saved values

A segment that saves what it finds discards it, unless it keeps it. A segment behind a pipe runs for each
value so far, discarded or not. The two differ where several matches have become a list: kept, each of its
items is a value of its own, and discarded, the list is one value.

* `Execution.find`: what a segment finds before anything is saved;
* `Execution.runSegment_discarding`, `Execution.runSegment_keeping`: a segment with and without a `keep`;
* `Execution.Found.discarded_opened_eq_iff`: when a pipe sees the same values of both;
* `Execution.pipe_over_saved`: what a chain with a pipe does over them.
-/

open Run

/-- The same segment with a `keep` added. -/
def Query.Segment.keeping (s : Segment) : Segment :=
  { s with
    transforms := { s.transforms with keep := some [[]] }
    source := s.source ++ "&keep" }

namespace Execution

open Query (Segment Transforms)

/-- What a segment has found: what the pipeline has made of its matches before it is saved. -/
structure Found where
  /-- Whether there were several matches, which have passed through the pipeline as one list. -/
  several : Bool
  /-- The names under which the value is saved. -/
  names : List Text
  value : Value

namespace Found

/-- The values that have been found: the items of the list that several matches have become, or the one
    value if there is one. -/
def values (f : Found) : Results :=
  match f.several, f.value with
  | true, .list vs => vs
  | _, v => if v.isNull then [] else [v]

/-- The environment in which the value is saved. -/
def saved (f : Found) (env : Environment) : Environment :=
  if f.value.isNull then env else f.names.foldl (fun env name => Ordered.put name f.value env) env

/-- The results of a segment that keeps what it saves. -/
def kept (f : Found) : Results := resultsOf f.several f.value

/-- The results of a segment that discards what it saves. -/
def discarded (f : Found) : Results :=
  if f.value.isNull || f.names.isEmpty then f.kept else [.discarded f.value]

/-- Whether discarding hides none of the values: nothing is saved, or there is one value, which is
    neither the list that several matches have become nor discarded already. -/
def single (f : Found) : Bool :=
  f.names.isEmpty || match f.several, f.value with
    | _, .discarded _ => false
    | true, .list _ => false
    | _, _ => true

end Found

/-- What a segment finds, if its path has a match. -/
def find (ctx : Transform.Context) (s : Segment) (n : Node) (env : Environment) : Run (Option Found) := do
  let path ← fill env s.path
  let parameters ← s.parameters.mapM fun (name, ts) => do return (name, ← fillAll env ts)
  let transforms ← fillTransforms env s.transforms
  match present s.scheme (← resolve s.scheme n path parameters) with
  | [] => return none
  | [v] => do
    let w ← Transform.applyStages ctx transforms v
    return some ⟨false, Transform.saveNames transforms, w⟩
  | vs => do
    let w ← Transform.applyStages ctx transforms (.list vs)
    return some ⟨true, Transform.saveNames transforms, w⟩

/-- A segment run for each of the values that are seen of what another one has found, with what that
    one has saved. -/
def pipeOver (ctx : Transform.Context) (seen : Found → List Value) (a b : Segment) (n : Node)
    (env : Environment) : Run (Results × Environment) := do
  match ← find ctx a n env with
  | none => return ([], env)
  | some f => runPiped ctx b n (seen f) (f.saved env)

variable {ctx : Transform.Context}

/-! ### Segments with and without a `keep` -/

/-- Transforms without a `keep` have none when they are filled. -/
theorem fillTransforms_none (env : Environment) {ts : Transforms} (h : ts.keep = none) :
    fillTransforms env ts = (fun us => { us with keep := none }) <$> fillTransforms env ts := by
  simp only [fillTransforms, h, map_bind, map_pure]
  rfl

/-- A `keep` without a text is filled with nothing. -/
theorem fillTransforms_keep (env : Environment) {ts : Transforms} (h : ts.keep = none) :
    fillTransforms env { ts with keep := some [[]] } =
      (fun us => { us with keep := some [[]] }) <$> fillTransforms env ts := by
  simp only [fillTransforms, h, map_bind, map_pure]
  rfl

/-- Saving leaves what has been found in the environment, and discards it unless it is kept. -/
theorem saveAndKeep_eq (ts : Transforms) (env : Environment) (several : Bool) (v : Value) :
    let f : Found := ⟨several, Transform.saveNames ts, v⟩
    (resultsOf several (Transform.saveAndKeep ts env v).1, (Transform.saveAndKeep ts env v).2) =
      (if ts.keeps Text.lower then f.kept else f.discarded, f.saved env) := by
  unfold Transform.saveAndKeep Found.discarded Found.saved Found.kept
  by_cases hv : v.isNull
  · simp [hv]
  · by_cases hs : (Transform.saveNames ts).isEmpty <;> by_cases hk : ts.keeps Text.lower <;>
      simp [hv, hs, hk, resultsOf, Value.isValid]

/-- A segment finds its values whatever its `keep` says, and keeps or discards them. -/
theorem runSegment_eq_find {s t : Segment} {k : Option (List Text)}
    (hfill : ∀ env, fillTransforms env { s.transforms with keep := k } =
      (fun us => { us with keep := k }) <$> fillTransforms env s.transforms)
    (ht : t = { s with transforms := { s.transforms with keep := k }, source := t.source }) (n : Node)
    (env : Environment) :
    runSegment ctx t n env = find ctx s n env >>= fun
      | none => pure ([], env)
      | some f => pure
        (if ({ keep := k } : Transforms).keeps Text.lower then f.kept else f.discarded, f.saved env) := by
  -- the `keep` is looked at only when the value is saved
  rw [ht]
  simp only [runSegment, find, hfill, bind_assoc, bind_map_left]
  refine bind_congr fun path => bind_congr fun parameters => bind_congr fun us => bind_congr fun vs => ?_
  rcases present s.scheme vs with _ | ⟨v, _ | ⟨v', rest⟩⟩
  · rfl
  all_goals
    simp only [Transform.applyPipeline, bind_assoc, pure_bind]
    refine bind_congr fun w => ?_
    exact congrArg pure (saveAndKeep_eq { us with keep := k } env _ w)

/-- What a segment without a `keep` does with what it finds. -/
theorem runSegment_discarding {s : Segment} (h : s.transforms.keep = none) (n : Node) (env : Environment) :
    runSegment ctx s n env = find ctx s n env >>= fun
      | none => pure ([], env)
      | some f => pure (f.discarded, f.saved env) := by
  have hs : { s.transforms with keep := none } = s.transforms := by rw [← h]
  refine runSegment_eq_find (k := none) (fun env => ?_) ?_ n env
  · rw [hs]
    exact fillTransforms_none env h
  · rw [hs]

/-- What a segment does with what it finds when a `keep` has been added to it. -/
theorem runSegment_keeping {s : Segment} (h : s.transforms.keep = none) (n : Node) (env : Environment) :
    runSegment ctx s.keeping n env = find ctx s n env >>= fun
      | none => pure ([], env)
      | some f => pure (f.kept, f.saved env) :=
  runSegment_eq_find (k := some [[]]) (fun env => fillTransforms_keep env h) rfl n env

/-! ### What a pipe sees -/

namespace Found

variable {f : Found}

/-- The one value that there is if several matches have become no list. -/
theorem values_eq_of_ne_list (h : ∀ vs, f.several = true → f.value ≠ .list vs) :
    f.values = if f.value.isNull then [] else [f.value] := by
  unfold values
  split
  next vs hseveral hvalue => exact absurd hvalue (h vs hseveral)
  next => rfl

/-- The one result that there is if several matches have become no list. -/
theorem kept_eq_of_ne_list (h : ∀ vs, f.several = true → f.value ≠ .list vs) :
    f.kept = if f.value.isValid then [f.value] else [] := by
  unfold kept resultsOf
  split
  next vs hseveral hvalue => exact absurd hvalue (h vs hseveral)
  next => rfl

/-- A segment that keeps what it saves has the values that it has found as its results, if all of them can
    be results. -/
theorem kept_eq_values (h : ∀ v ∈ f.values, v.isValid = true) : f.kept = f.values := by
  by_cases hlist : ∃ vs, f.several = true ∧ f.value = .list vs
  · obtain ⟨vs, hseveral, hvalue⟩ := hlist
    simp only [kept, values, resultsOf, hseveral, hvalue] at h ⊢
    exact List.filter_eq_self.2 h
  · have hne : ∀ vs, f.several = true → f.value ≠ .list vs := fun vs hs hv => hlist ⟨vs, hs, hv⟩
    rw [values_eq_of_ne_list hne] at h
    rw [values_eq_of_ne_list hne, kept_eq_of_ne_list hne]
    by_cases hnull : f.value.isNull
    · rw [Value.isNull_iff.1 hnull]
      rfl
    · rw [if_neg hnull] at h ⊢
      rw [if_pos (h _ List.mem_cons_self)]

/-- A pipe sees the same values, kept or discarded, if and only if discarding hides none of them. -/
theorem discarded_opened_eq_iff (h : ∀ v ∈ f.values, v.isValid = true) :
    f.discarded.opened = f.values.opened ↔ f.single = true := by
  by_cases hkept : (f.value.isNull || f.names.isEmpty) = true
  · -- nothing is saved, and so nothing is discarded
    have hsingle : f.single = true := by
      rcases Bool.or_eq_true_iff.1 hkept with hnull | hnames
      · simp [single, Value.isNull_iff.1 hnull]
      · simp [single, hnames]
    rw [discarded, if_pos hkept, kept_eq_values h]
    exact iff_of_true rfl hsingle
  · obtain ⟨hnull, hnames⟩ : f.value.isNull = false ∧ f.names.isEmpty = false := by simpa using hkept
    have hopened : f.discarded.opened = [f.value] := by rw [discarded, if_neg hkept]; rfl
    rw [hopened]
    by_cases hlist : ∃ vs, f.several = true ∧ f.value = .list vs
    · -- the pipe sees the list on one side and its items on the other
      obtain ⟨vs, hseveral, hvalue⟩ := hlist
      have hvalues : f.values = vs := by simp only [values, hseveral, hvalue]
      have hsingle : f.single = false := by simp [single, hnames, hseveral, hvalue]
      rw [hvalues, hvalue, hsingle]
      exact iff_of_false (Results.opened_ne_list vs).symm Bool.false_ne_true
    · have hne : ∀ vs, f.several = true → f.value ≠ .list vs := fun vs hs hv => hlist ⟨vs, hs, hv⟩
      rw [values_eq_of_ne_list hne, hnull]
      by_cases hmarked : ∃ w, f.value = .discarded w
      · -- a value that is marked already is opened if it is kept, and keeps a mark if it is discarded
        obtain ⟨w, hvalue⟩ := hmarked
        have hsingle : f.single = false := by simp [single, hnames, hvalue]
        rw [hsingle, hvalue]
        exact iff_of_false (Results.discarded_ne_opened w) Bool.false_ne_true
      · have hsingle : f.single = true := by
          simp only [single, hnames, Bool.false_or]
          split
          next w hvalue => exact absurd ⟨w, hvalue⟩ hmarked
          next vs hseveral hvalue => exact absurd hvalue (hne vs hseveral)
          next => rfl
        rw [hsingle]
        exact iff_of_true (Results.opened_singleton fun w hw => hmarked ⟨w, hw⟩).symm rfl

end Found

/-! ### Chains with a pipe -/

/-- What a chain of two segments does, of which the second is piped. -/
theorem outcome_runChain_pair {a b : Segment} (hb : b.piped = true) (n : Node) (env : Environment) :
    (runChain ctx [a, b] n env).outcome = (runSegment ctx a n env).outcome >>= fun found =>
      (runPiped ctx b n found.1.opened found.2).outcome := by
  have hchain : runChain ctx [a, b] n env = (do
      let found ← runSegment ctx a n env
      Run.note (.reached a.source (shownItems found.1))
      let more ← runPiped ctx b n found.1.opened found.2
      Run.note (.reached b.source (shownItems more.1))
      return more) := by
    simp [runChain, runFrom, next, hb]
  have hlast : ∀ found : Results × Environment, Blind (do
      let more ← runPiped ctx b n found.1.opened found.2
      Run.note (.reached b.source (shownItems more.1))
      return more) := fun found =>
    blind_bind (blind_runPiped _ _ _ _ _) fun _ => blind_bind (blind_note _) fun _ => blind_pure _
  rw [hchain, outcome_bind _ fun found => blind_bind (blind_note _) fun _ => hlast found]
  refine bind_congr_ok fun found _ => ?_
  rw [outcome_bind _ fun _ => hlast found]
  -- what is left of the remarks is the value that they are about
  refine (outcome_bind _ fun _ => blind_bind (blind_note _) fun _ => blind_pure _).trans ?_
  exact bind_pure _

/-- A segment finds its values whatever the session. -/
theorem blind_find (s : Segment) (n : Node) (env : Environment) : Blind (find ctx s n env) := by
  refine blind_bind (blind_fill _ _) fun path => ?_
  refine blind_bind (blind_mapM fun p _ => blind_fillParameter env p) fun parameters => ?_
  refine blind_bind (blind_fillTransforms _ _) fun transforms => blind_bind (blind_resolve _ _ _ _) fun vs => ?_
  split
  · exact blind_pure _
  · exact blind_bind (Transform.blind_applyStages _ _ _) fun _ => blind_pure _
  · exact blind_bind (Transform.blind_applyStages _ _ _) fun _ => blind_pure _

/-- What a segment gives that is piped over another one. -/
theorem outcome_pipeOver (seen : Found → List Value) (a b : Segment) (n : Node) (env : Environment) :
    (pipeOver ctx seen a b n env).outcome = (find ctx a n env).outcome >>= fun
      | none => .ok ([], env)
      | some f => (runPiped ctx b n (seen f) (f.saved env)).outcome := by
  refine (outcome_bind _ fun found => ?_).trans (bind_congr_ok fun found _ => ?_)
  · cases found with
    | none => exact blind_pure _
    | some f => exact blind_runPiped _ _ _ _ _
  · cases found <;> rfl

/-- A chain with a pipe runs the second segment over the results of the first, if these are made of what it
    has found. -/
theorem outcome_runChain_pipe {results : Found → Results} {a a' b : Segment} (hb : b.piped = true)
    (n : Node) (env : Environment)
    (ha : runSegment ctx a' n env = find ctx a n env >>= fun
      | none => pure ([], env)
      | some f => pure (results f, f.saved env)) :
    (runChain ctx [a', b] n env).outcome =
      (pipeOver ctx (fun f => (results f).opened) a b n env).outcome := by
  rw [outcome_runChain_pair hb, outcome_pipeOver, ha, outcome_bind, bind_assoc]
  · refine bind_congr_ok fun found _ => ?_
    cases found <;> rfl
  · intro found
    cases found <;> exact blind_pure _

/-- What runs over values that are the same is the same. -/
theorem outcome_pipeOver_congr {seen seen' : Found → List Value} {a b : Segment} {n : Node}
    {env : Environment} (h : ∀ f, (find ctx a n env).outcome = .ok (some f) → seen f = seen' f) :
    (pipeOver ctx seen a b n env).outcome = (pipeOver ctx seen' a b n env).outcome := by
  rw [outcome_pipeOver, outcome_pipeOver]
  refine bind_congr_ok fun found hfound => ?_
  cases found with
  | none => rfl
  | some f => simp only [h f hfound]

/-- A segment behind a pipe runs once for each value that the segment before it has found, if that one
    keeps what it saves. If it discards it, the same holds whenever discarding hides none of the
    values, and only then. -/
theorem pipe_over_saved {a b : Segment} (hkeep : a.transforms.keep = none) (hb : b.piped = true)
    (ctx : Transform.Context) (n : Node) (env : Environment)
    (hvalid : ∀ f, (find ctx a n env).outcome = .ok (some f) → ∀ v ∈ f.values, v.isValid = true) :
    (∀ s s', ((runChain ctx [a.keeping, b] n env).exec s).1 =
      ((pipeOver ctx (·.values.opened) a b n env).exec s').1) ∧
    (∀ s s', ((runChain ctx [a, b] n env).exec s).1 =
      ((pipeOver ctx (·.discarded.opened) a b n env).exec s').1) ∧
    (∀ f, (find ctx a n env).outcome = .ok (some f) →
      (f.discarded.opened = f.values.opened ↔ f.single = true)) ∧
    ((∀ f, (find ctx a n env).outcome = .ok (some f) → f.single = true) → ∀ s s',
      ((runChain ctx [a, b] n env).exec s).1 = ((runChain ctx [a.keeping, b] n env).exec s').1) := by
  have hpipe : ∀ seen : Found → List Value, Blind (pipeOver ctx seen a b n env) := by
    intro seen
    refine blind_bind (blind_find a n env) fun found => ?_
    cases found with
    | none => exact blind_pure _
    | some f => exact blind_runPiped _ _ _ _ _
  have hkept : (runChain ctx [a.keeping, b] n env).outcome =
      (pipeOver ctx (·.values.opened) a b n env).outcome := by
    rw [outcome_runChain_pipe hb n env (runSegment_keeping hkeep n env)]
    exact outcome_pipeOver_congr fun f hf => by rw [Found.kept_eq_values (hvalid f hf)]
  have hdiscarded : (runChain ctx [a, b] n env).outcome =
      (pipeOver ctx (·.discarded.opened) a b n env).outcome :=
    outcome_runChain_pipe hb n env (runSegment_discarding hkeep n env)
  refine ⟨fun s s' => ?_, fun s s' => ?_, fun f hf => ?_, fun hsingle s s' => ?_⟩
  · rw [(blind_runChain _ _ _ _).exec_fst, (hpipe _).exec_fst, hkept]
  · rw [(blind_runChain _ _ _ _).exec_fst, (hpipe _).exec_fst, hdiscarded]
  · exact Found.discarded_opened_eq_iff (hvalid f hf)
  · rw [(blind_runChain _ _ _ _).exec_fst, (blind_runChain _ _ _ _).exec_fst, hkept, hdiscarded]
    exact outcome_pipeOver_congr fun f hf =>
      (Found.discarded_opened_eq_iff (hvalid f hf)).2 (hsingle f hf)

/-- A piped segment that shows what one match has saved. -/
theorem pipe_over_saved_one :
    ∃ (page : Page) (a b : Segment), page.data = .map [(.text "n", .int 1)] ∧
      Query.parseChain "json:n?save=x >> template:v${x}" = .ok [a, b] ∧
      ((runChain {} [a, b] page.root []).exec {}).1 =
        ((runChain {} [a.keeping, b] page.root []).exec {}).1 := by
  let page : Page := ⟨"https://a.org/p", ⟨.element "html" [] [], []⟩, .map [(.text "n", .int 1)]⟩
  let a : Segment := ⟨.json, "n", [], { save := ["x"] }, true, false, "json:n?save=x"⟩
  let b : Segment := ⟨.template, "v${x}", [], {}, true, true, "template:v${x}"⟩
  have hfind : (find {} a page.root []).outcome = .ok (some ⟨false, ["x"], .int 1⟩) := rfl
  have hfound : ∀ f, (find {} a page.root []).outcome = .ok (some f) → f = ⟨false, ["x"], .int 1⟩ :=
    fun f hf => Option.some.inj (Except.ok.inj (hf.symm.trans hfind))
  refine ⟨page, a, b, rfl, rfl, ?_⟩
  obtain ⟨-, -, -, hequal⟩ := pipe_over_saved (a := a) (b := b) rfl rfl {} page.root [] fun f hf => by
    rw [hfound f hf]
    decide
  exact hequal (fun f hf => hfound f hf ▸ rfl) {} {}

/-- Several matches that are saved are passed on as one list if they are discarded. -/
theorem pipe_over_saved_several :
    ∃ page a b,
      Page.build "https://a.org/p" [] (.map [(.text "items", .list [.int 1, .int 2])]) [] = .ok page ∧
      Query.parseChain "json:items?save=x >> template:v" = .ok [a, b] ∧
      Query.parseChain "json:items?save=x&keep >> template:v" = .ok [a.keeping, b] ∧
      a.transforms.keep = none ∧ b.piped = true ∧
      (∀ f, (find {} a page.root []).outcome = .ok (some f) → ∀ v ∈ f.values, v.isValid = true) ∧
      ((runChain {} [a, b] page.root []).exec {}).1.map Prod.fst = .ok [.text "v"] ∧
      ((runChain {} [a.keeping, b] page.root []).exec {}).1.map Prod.fst =
        .ok [.text "v", .text "v"] ∧
      ((runChain {} [a, b] page.root []).exec {}).1 ≠
        ((runChain {} [a.keeping, b] page.root []).exec {}).1 := by
  let page : Page :=
    ⟨"https://a.org/p", ⟨.element "html" [] [], []⟩, .map [(.text "items", .list [.int 1, .int 2])]⟩
  let a : Segment := ⟨.json, "items", [], { save := ["x"] }, true, false, "json:items?save=x"⟩
  let b : Segment := ⟨.template, "v", [], {}, true, true, "template:v"⟩
  have hfind : (find {} a page.root []).outcome =
      .ok (some ⟨true, ["x"], .list [.int 1, .int 2]⟩) := rfl
  have hdiscarded : ((runChain {} [a, b] page.root []).exec {}).1.map Prod.fst = .ok [.text "v"] := rfl
  have hkept : ((runChain {} [a.keeping, b] page.root []).exec {}).1.map Prod.fst =
      .ok [.text "v", .text "v"] := rfl
  refine ⟨page, a, b, rfl, rfl, rfl, rfl, rfl, fun f hf => ?_, hdiscarded, hkept, fun hequal => ?_⟩
  · rw [← Option.some.inj (Except.ok.inj (hfind.symm.trans hf))]
    decide
  · rw [hequal, hkept] at hdiscarded
    cases hdiscarded

end Execution

end PageQuery
