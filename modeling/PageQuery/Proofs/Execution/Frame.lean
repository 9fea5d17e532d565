import PageQuery.Proofs.Execution.ArrayPipe

namespace PageQuery

/-!
# What queries save

An execution writes to the environment where a segment that runs saves its value, and nowhere else. The names
under which a segment saves are templates, filled in the environment in which the segment runs, so that it is
not the query alone that tells which names are written.

* `Execution.Visit`, `Execution.visits`: the segments that an execution runs, and what they find saved;
* `Execution.Frame`: segments that have been run, between two environments that agree but for their names;
* `Execution.frame_runSegment`, `Execution.frame_runStages`: what segments and stages leave as it was;
* `Execution.run_frame`: the environment in which an execution ends.
-/

open Run

namespace Execution

open Query (Segment)

variable {ctx : Transform.Context}

/-! ### The segments that run -/

/-- A segment that is run, and the environment in which it is. -/
structure Visit where
  segment : Segment
  environment : Environment
  deriving Repr

/-- The names under which a segment that is run saves its value. -/
def Visit.names (v : Visit) : List Text :=
  match v.segment.transforms.save.mapM (Template.resolve v.environment) with
  | .ok ts => (ts.map Text.trim).filter (! ·.isEmpty)
  | .error _ => []

/-- The segments that are run after a computation, none if it fails. -/
def visitsAfter {α : Type} (r : Run α) (k : α → List Visit) : List Visit :=
  match r.outcome with
  | .ok a => k a
  | .error _ => []

/-- A segment that is run once for each of some values. -/
def visitsPiped (ctx : Transform.Context) (s : Segment) (base : Node) :
    List Value → Environment → List Visit
  | [], _ => []
  | v :: rest, env => visitsAfter (nodeFor s.scheme v base) fun n =>
    ⟨s, env⟩ :: visitsAfter (runSegment ctx s n env) fun found => visitsPiped ctx s base rest found.2

/-- One more segment of a chain. -/
def visitsNext (ctx : Transform.Context) (n : Node) (first : Bool) (found : Results) (s : Segment)
    (env : Environment) : List Visit :=
  if s.piped && !first then visitsPiped ctx s n found.opened env else [⟨s, env⟩]

/-- The segments of a chain that are run. -/
def visitsFrom (ctx : Transform.Context) (n : Node) :
    (first : Bool) → (found : Results) → List Segment → Environment → List Visit
  | _, _, [], _ => []
  | first, found, s :: rest, env =>
    if !found.isEmpty && !s.required && !s.piped then visitsFrom ctx n false found rest env
    else visitsNext ctx n first found s env ++
      visitsAfter (next ctx n first found s env) fun more => visitsFrom ctx n false more.1 rest more.2

/-- The segments of some stages that are run. -/
def visitsStages (ctx : Transform.Context) : List (List Segment) → Node → Environment → List Visit
  | [], _, _ => []
  | ss :: rest, n, env => visitsFrom ctx n true [] ss env ++
    visitsAfter (runChain ctx ss n env) fun found =>
      visitsAfter (arrayNode n (flattenedItems found.1.kept)) fun m => visitsStages ctx rest m found.2

/-- The segments that an execution of a query runs, in order. -/
def visits (ctx : Transform.Context) (q : Query) (n : Node) (initial : Environment) : List Visit :=
  match n.page.origin with
  | .ok root => visitsStages ctx q.stages n (Environment.seeded n.page.url root initial)
  | .error _ => []

theorem visitsAfter_eq {α : Type} {r : Run α} {a : α} (h : r.outcome = .ok a) (k : α → List Visit) :
    visitsAfter r k = k a := by
  rw [visitsAfter, h]

theorem visitsAfter_nil {α : Type} (r : Run α) : visitsAfter r (fun _ => []) = [] := by
  rw [visitsAfter]
  split <;> rfl

theorem mem_visitsAfter {α : Type} {r : Run α} {k : α → List Visit} {v : Visit} (h : v ∈ visitsAfter r k) :
    ∃ a, v ∈ k a := by
  rw [visitsAfter] at h
  split at h
  · next a _ => exact ⟨a, h⟩
  · cases h

/-! ### Only segments of the query run -/

theorem segment_of_mem_visitsPiped {s : Segment} {base : Node} {vs : List Value} {env : Environment}
    {v : Visit} (h : v ∈ visitsPiped ctx s base vs env) : v.segment = s := by
  induction vs generalizing env with
  | nil => cases h
  | cons w rest ih =>
    obtain ⟨n, h⟩ := mem_visitsAfter h
    rcases List.mem_cons.1 h with rfl | h
    · rfl
    · obtain ⟨found, h⟩ := mem_visitsAfter h
      exact ih h

theorem segment_of_mem_visitsNext {n : Node} {first : Bool} {found : Results} {s : Segment}
    {env : Environment} {v : Visit} (h : v ∈ visitsNext ctx n first found s env) : v.segment = s := by
  rw [visitsNext] at h
  split at h
  · exact segment_of_mem_visitsPiped h
  · rw [List.mem_singleton.1 h]

theorem segment_of_mem_visitsFrom {n : Node} {first : Bool} {found : Results} {ss : List Segment}
    {env : Environment} {v : Visit} (h : v ∈ visitsFrom ctx n first found ss env) : v.segment ∈ ss := by
  induction ss generalizing first found env with
  | nil => cases h
  | cons s rest ih =>
    rw [visitsFrom] at h
    split at h
    · exact List.mem_cons_of_mem _ (ih h)
    · rcases List.mem_append.1 h with h | h
      · rw [segment_of_mem_visitsNext h]
        exact List.mem_cons_self
      · obtain ⟨more, h⟩ := mem_visitsAfter h
        exact List.mem_cons_of_mem _ (ih h)

theorem segment_of_mem_visitsStages {stages : List (List Segment)} {n : Node} {env : Environment}
    {v : Visit} (h : v ∈ visitsStages ctx stages n env) : v.segment ∈ stages.flatten := by
  induction stages generalizing n env with
  | nil => cases h
  | cons ss rest ih =>
    rw [List.flatten_cons, List.mem_append]
    rcases List.mem_append.1 h with h | h
    · exact .inl (segment_of_mem_visitsFrom h)
    · obtain ⟨found, h⟩ := mem_visitsAfter h
      obtain ⟨m, h⟩ := mem_visitsAfter h
      exact .inr (ih h)

/-- An execution runs segments of the query. -/
theorem segment_of_mem_visits {q : Query} {n : Node} {initial : Environment} {v : Visit}
    (h : v ∈ visits ctx q n initial) : v.segment ∈ q.segments := by
  rw [visits] at h
  split at h
  · exact segment_of_mem_visitsStages h
  · cases h

/-! ### What is left as it was -/

/-- Some segments have been run, and the environment after them holds what the one before holds, but for the
    names under which they save. -/
structure Frame (ctx : Transform.Context) (vs : List Visit) (env env' : Environment) : Prop where
  ran : ∀ v ∈ vs, ∃ n found, (runSegment ctx v.segment n v.environment).outcome = .ok found
  same : ∀ name, (∀ v ∈ vs, name ∉ v.names) → Ordered.get? env' name = Ordered.get? env name

theorem Frame.refl (env : Environment) : Frame ctx [] env env := ⟨nofun, fun _ _ => rfl⟩

theorem Frame.trans {vs ws : List Visit} {env env' env'' : Environment} (h : Frame ctx vs env env')
    (h' : Frame ctx ws env' env'') : Frame ctx (vs ++ ws) env env'' where
  ran := List.forall_mem_append.2 ⟨h.ran, h'.ran⟩
  same := by
    intro name hname
    obtain ⟨hvs, hws⟩ := List.forall_mem_append.1 hname
    exact (h'.same name hws).trans (h.same name hvs)

/-- Saving writes the names of a segment and no others. -/
theorem get?_saveAndKeep {ts : Query.Transforms} {name : Text} (h : name ∉ Transform.saveNames ts)
    (env : Environment) (v : Value) :
    Ordered.get? (Transform.saveAndKeep ts env v).2 name = Ordered.get? env name := by
  have hsame : Ordered.get? ((Transform.saveNames ts).foldl (fun env name => Ordered.put name v env) env) name =
      Ordered.get? env name := by
    rw [Ordered.get?_foldl_put, if_neg h]
  unfold Transform.saveAndKeep
  split
  · rfl
  · dsimp only
    split <;> exact hsame

/-- A segment leaves all names as they were but those under which it saves. -/
theorem get?_runSegment (s : Segment) (n : Node) (env : Environment) :
    Ensures (runSegment ctx s n env) fun found => ∀ name, name ∉ Visit.names ⟨s, env⟩ →
      Ordered.get? found.2 name = Ordered.get? env name := by
  refine ensures_runSegment_of n (fun _ _ => rfl) fun ts hfilled several v name hname => ?_
  have hnames : Visit.names ⟨s, env⟩ = Transform.saveNames ts := by
    rw [Visit.names, hfilled]
    rfl
  exact get?_saveAndKeep (hnames ▸ hname) env v

/-- A segment that is run is what has changed the environment. -/
theorem frame_runSegment {s : Segment} {n : Node} {env : Environment} {found : Results × Environment}
    (h : (runSegment ctx s n env).outcome = .ok found) : Frame ctx [⟨s, env⟩] env found.2 where
  ran := List.forall_mem_singleton.2 ⟨n, found, h⟩
  same := fun name hname =>
    get?_runSegment s n env {} found h name (hname _ (List.mem_singleton_self _))

/-- A segment that is run for each of some values. -/
theorem frame_runPiped (s : Segment) (base : Node) (vs : List Value) (env : Environment) :
    Ensures (runPiped ctx s base vs env) fun r => Frame ctx (visitsPiped ctx s base vs env) env r.2 := by
  induction vs generalizing env with
  | nil => exact ensures_pure (Frame.refl env)
  | cons v rest ih =>
    refine ensures_bind_outcome (blind_nodeFor _ _ _) fun n hn => ?_
    refine ensures_bind_outcome (blind_runSegment _ _ _ _) fun found hfound => ?_
    refine ensures_bind (ih found.2) fun others hothers => ensures_pure ?_
    rw [visitsPiped, visitsAfter_eq hn, visitsAfter_eq hfound]
    exact (frame_runSegment hfound).trans hothers

/-- One more segment of a chain. -/
theorem frame_next (n : Node) (first : Bool) (found : Results) (s : Segment) (env : Environment) :
    Ensures (next ctx n first found s env) fun r =>
      Frame ctx (visitsNext ctx n first found s env) env r.2 := by
  unfold next visitsNext
  split
  · exact frame_runPiped _ _ _ _
  · refine ensures_bind_outcome (blind_runSegment _ _ _ _) fun more hmore => ?_
    have hsegment := frame_runSegment hmore
    exact ensures_pure hsegment

/-- The segments of a chain. -/
theorem frame_runFrom (n : Node) (first : Bool) (found : Results) (ss : List Segment)
    (env : Environment) :
    Ensures (runFrom ctx n first found ss env) fun r =>
      Frame ctx (visitsFrom ctx n first found ss env) env r.2 := by
  induction ss generalizing first found env with
  | nil => exact ensures_pure (Frame.refl env)
  | cons s rest ih =>
    rw [runFrom, visitsFrom]
    split
    · exact ensures_after _ fun _ => ih _ _ _
    · refine ensures_bind_outcome (blind_next _ _ _ _ _ _) fun more hmore => ensures_after _ fun _ => ?_
      have hnext : Frame ctx (visitsNext ctx n first found s env) env more.2 :=
        frame_next n first found s env {} more hmore
      rw [visitsAfter_eq hmore]
      exact ensures_mono (ih false more.1 more.2) fun r hr => hnext.trans hr

/-- Stages leave all names as they were but those under which their segments save. -/
theorem frame_runStages (stages : List (List Segment)) (n : Node) (env : Environment) :
    Ensures (runStages ctx stages n env) fun o =>
      Frame ctx (visitsStages ctx stages n env) env o.environment := by
  induction stages generalizing n env with
  | nil => exact ensures_pure (Frame.refl env)
  | cons ss rest ih =>
    have hchain : ∀ found, (runChain ctx ss n env).outcome = .ok found →
        Frame ctx (visitsFrom ctx n true [] ss env) env found.2 := fun found hfound =>
      frame_runFrom n true [] ss env {} found hfound
    cases rest with
    | nil =>
      refine ensures_bind_outcome (blind_runChain _ _ _ _) fun found hfound => ensures_pure ?_
      -- nothing runs after the last stage
      have hlast : visitsStages ctx [ss] n env = visitsFrom ctx n true [] ss env ++ [] := by
        rw [visitsStages, visitsAfter_eq hfound]
        exact congrArg (_ ++ ·) (visitsAfter_nil _)
      rw [hlast]
      exact (hchain found hfound).trans (Frame.refl found.2)
    | cons ss' rest =>
      refine ensures_bind_outcome (blind_runChain _ _ _ _) fun found hfound => ?_
      refine ensures_bind_outcome (blind_arrayNode _ _) fun m hm => ensures_after _ fun _ => ?_
      rw [visitsStages, visitsAfter_eq hfound, visitsAfter_eq hm]
      exact ensures_mono (ih m found.2) fun o ho => (hchain found hfound).trans ho

/-! ### Whole executions -/

/-- The environment in which an execution ends has the variables of every execution and those that it was
    given. Every other name in it is one under which a segment of the query saves, filled where the segment
    was run, and a name that is no such one has the value that it started with: the one that was given, if
    there is one. -/
theorem run_frame {q : Query} {n : Node} {initial : Environment} {s : Session} {o : Outcome}
    (h : ((run ctx q n initial).exec s).1 = .ok o) :
    ∃ root, n.page.origin = .ok root ∧
      (∀ name ∈ Environment.builtinNames ++ Ordered.keys initial, name ∈ Ordered.keys o.environment) ∧
      (∀ v ∈ visits ctx q n initial, v.segment ∈ q.segments ∧
        ∃ m found, (runSegment ctx v.segment m v.environment).outcome = .ok found) ∧
      (∀ name ∈ Ordered.keys o.environment, name ∈ Environment.builtinNames ++ Ordered.keys initial ∨
        ∃ v ∈ visits ctx q n initial, name ∈ v.names) ∧
      ∀ name, (∀ v ∈ visits ctx q n initial, name ∉ v.names) →
        Ordered.get? o.environment name = (Ordered.get? (Ordered.ofList initial) name).or
          (Ordered.get? (Environment.builtins n.page.url root) name) := by
  rw [(blind_run _ _ _ _).exec_fst, outcome_run] at h
  obtain ⟨root, horigin, hstages⟩ := bind_eq_ok_iff.1 h
  have hvisits : visits ctx q n initial =
      visitsStages ctx q.stages n (Environment.seeded n.page.url root initial) := by
    rw [visits, horigin]
  have hnames : ∀ name, name ∈ Ordered.keys (Environment.seeded n.page.url root initial) ↔
      name ∈ Environment.builtinNames ++ Ordered.keys initial := by
    intro name
    rw [List.mem_append, ← Environment.keys_builtins n.page.url root]
    exact Ordered.mem_keys_overlay
  have hkept : Ordered.Extends (Environment.seeded n.page.url root initial) o.environment :=
    (ensures_runStages q.stages n _ {} o hstages).1
  have hframe : Frame ctx (visits ctx q n initial) (Environment.seeded n.page.url root initial)
      o.environment := hvisits ▸ frame_runStages q.stages n _ {} o hstages
  refine ⟨root, horigin, fun name hname => ?_, fun v hv => ⟨segment_of_mem_visits hv, hframe.ran v hv⟩,
    fun name hname => ?_, fun name hname => ?_⟩
  · exact hkept.prefixed.mem ((hnames name).2 hname)
  · -- a name under which nothing is saved is there before if it is there after
    by_cases hsaved : ∃ v ∈ visits ctx q n initial, name ∈ v.names
    · exact .inr hsaved
    · have hsame := hframe.same name fun v hv hmem => hsaved ⟨v, hv, hmem⟩
      rw [← Ordered.isSome_get?_iff, hsame, Ordered.isSome_get?_iff] at hname
      exact .inl ((hnames name).1 hname)
  · rw [hframe.same name hname]
    exact Ordered.get?_overlay _ initial name

/-- A value that one stage saves is part of the name under which the next one does. -/
theorem run_frame_stages :
    ∃ (page : Page) (q : Query) (initial : Environment) (o : Outcome),
      initial = ([("a", .text "w"), ("time", .int 5)] : Environment) ∧
      Query.parse "json:n?save=x >>> template:v?save=y${x}" = .ok q ∧
      ((run {} q page.root initial).exec {}).1 = .ok o ∧
      Ordered.keys o.environment = (["time", "pageUrl", "rootUrl", "a", "x", "y1"] : List Text) ∧
      (visits {} q page.root initial).map Visit.names = ([["x"], ["y1"]] : List (List Text)) ∧
      Ordered.get? o.environment "time" = some (.int 5) := by
  let page : Page := ⟨"https://a.org/p", ⟨.element "html" [] [], []⟩, .map [(.text "n", .int 1)]⟩
  let q : Query :=
    ⟨[[⟨.json, "n", [], { save := ["x"] }, true, false, "json:n?save=x"⟩],
      [⟨.template, "v", [], { save := ["y${x}"] }, true, false, "template:v?save=y${x}"⟩]],
      "json:n?save=x >>> template:v?save=y${x}"⟩
  let initial : Environment := [("a", .text "w"), ("time", .int 5)]
  have hkeys : ((run {} q page.root initial).exec {}).1.toOption.map (Ordered.keys ·.environment) =
      some (["time", "pageUrl", "rootUrl", "a", "x", "y1"] : List Text) := by decide +kernel
  have hvisits : (visits {} q page.root initial).map Visit.names =
      ([["x"], ["y1"]] : List (List Text)) := by decide +kernel
  cases hrun : ((run {} q page.root initial).exec {}).1 with
  | error f => simp [hrun, Except.toOption] at hkeys
  | ok o =>
    obtain ⟨root, -, -, -, -, hkept⟩ := run_frame hrun
    refine ⟨page, q, initial, o, rfl, rfl, hrun, ?_, hvisits, hkept "time" fun v hv hmem => ?_⟩
    · rw [hrun] at hkeys
      exact Option.some.inj hkeys
    · have hfree : ∀ names ∈ ([["x"], ["y1"]] : List (List Text)), ("time" : Text) ∉ names := by
        decide
      exact hfree v.names (hvisits ▸ List.mem_map_of_mem hv) hmem

end Execution

end PageQuery
