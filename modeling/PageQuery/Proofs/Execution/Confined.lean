import PageQuery.Proofs.Template
import PageQuery.Transform.Textual

namespace PageQuery

/-!
# Queries and the session

What a query finds is decided by the query, the node and the variables alone. Remarks, refused selectors and
the events of the sandbox are written to the session and never read back. The sandbox is asked for something
where a transform is a script, and nowhere else.

* `Path.confined_document`, `Path.confined_address`, `Transform.confined_applyStages`: the parts of a
  segment;
* `Execution.RunsScript`: whether a transform of a segment may turn out to be a script;
* `Execution.confined_runSegment`, `Execution.confined_runChain`, `Execution.confined_runStages`: segments,
  chains and stages, which call the sandbox only if a segment runs a script;
* `Execution.exec_run_ok`, `Execution.outcome_run`: what a query does besides running its stages;
* `Execution.blind_run`: what a query finds does not depend on the session.
-/

open Run

variable {A : Event → Prop}

/-- Refusing a selector adds no events. -/
theorem Session.events_refuse (selector detail : Text) (s : Session) :
    (s.refuse selector detail).events = s.events := by
  rw [refuse]
  split <;> rfl

theorem Run.confined_text (v : Value) : Confined A (Run.text v) := confined_of _

/-! ### Paths -/

namespace Path

theorem confined_select (e : Html.Element) (t : Text) : Confined A (select e t) := by
  unfold select
  dsimp only
  generalize Selector.search _ = searches
  rcases searches with (message | _) | searches
  · exact confined_bind (confined_modify (Session.events_refuse _ _)) fun _ => confined_pure _
  · exact confined_throw _
  · dsimp only
    split
    · exact confined_throw _
    · exact confined_pure _

theorem confined_navigate (e : Html.Element) (part : Text) : Confined A (navigate e part) := by
  unfold navigate
  repeat' split
  all_goals first
    | exact confined_pure _
    | exact confined_select _ _

theorem confined_navigateAll (parts : List Text) (es : List Html.Element) :
    Confined A (navigateAll parts es) := by
  induction parts generalizing es with
  | nil => exact confined_pure _
  | cons part rest ih =>
    rw [navigateAll]
    exact confined_bind (confined_mapM fun e _ => confined_navigate e part) fun _ => ih _

theorem confined_document (e : Html.Element) (path : Text) : Confined A (document e path) := by
  rw [document]
  refine confined_bind (confined_navigateAll _ _) fun found => ?_
  split <;> exact confined_pure _

theorem confined_apply (d : Draft) (name : Text) (values : List Text) : Confined A (d.apply name values) := by
  unfold Draft.apply
  split
  case h_3 =>
    dsimp only
    split
    · exact confined_pure _
    · exact confined_bind (confined_note _) fun _ => confined_pure _
  all_goals exact confined_pure _

theorem confined_changed (t : Text) (parameters : Ordered (List Text)) :
    Confined A (changed t parameters) := by
  refine confined_bind (confined_of _) fun u => ?_
  exact confined_bind (confined_foldlM (fun d p _ => confined_apply d p.1 p.2) _) fun _ => confined_pure _

theorem confined_address (t path : Text) (parameters : Ordered (List Text)) :
    Confined A (address t path parameters) := by
  have hrest : ∀ t, Confined A (if path.isEmpty then return [.text t]
      else return partsOf (← split t) path : Run (List Value)) := by
    intro t
    split
    · exact confined_pure _
    · exact confined_bind (confined_of _) fun _ => confined_pure _
  rw [address]
  split
  · exact hrest t
  · exact confined_bind (confined_changed _ _) hrest

end Path

/-! ### Transforms -/

namespace Transform

theorem confined_applyRegexp (v : Value) (body : Text) : Confined A (applyRegexp v body) := by
  unfold applyRegexp
  split
  · exact confined_pure _
  · split
    · exact confined_bind (confined_note _) fun _ => confined_pure _
    · split
      · exact confined_bind (confined_note _) fun _ => confined_pure _
      · exact confined_throw _
      · refine confined_bind (confined_text v) fun t => ?_
        split
        · exact confined_pure _
        · exact confined_bind (confined_of _) fun _ => confined_pure _

theorem confined_decodeOrWarn (t : Text) : Confined A (decodeOrWarn t) := by
  unfold decodeOrWarn
  split
  · exact confined_pure _
  · split
    · exact confined_bind (confined_note _) fun _ => confined_pure _
    · exact confined_pure _

theorem confined_applyJson (v : Value) (name : Option Text) : Confined A (applyJson v name) := by
  unfold applyJson
  split
  · exact confined_pure _
  · exact confined_pure _
  · exact confined_pure _
  · refine confined_bind (confined_text v) fun t => ?_
    split
    · exact confined_decodeOrWarn _
    · dsimp only
      split
      · exact confined_pure _
      · split
        · exact confined_pure _
        · exact confined_decodeOrWarn _

/-- The sandbox is called with the text of a value, if there is a sandbox. -/
theorem confined_applyScript (v : Value) (names : Option Text) {sandbox : Option Sandbox}
    (hcall : sandbox.isSome = true → AllowsCalls A) :
    Confined A (applyScript v names sandbox) := by
  unfold applyScript
  split
  · exact confined_pure _
  · split
    · exact confined_bind (confined_note _) fun _ => confined_pure _
    · refine confined_bind (confined_text v) fun t => ?_
      dsimp only
      split
      · exact confined_pure _
      · refine confined_bind (confined_record (hcall rfl _ _)) fun _ => ?_
        split
        · exact confined_pure _
        · exact confined_bind (confined_note _) fun _ => confined_pure _

theorem confined_decodeBase64 (t : Text) : Confined A (decodeBase64 t) := by
  unfold decodeBase64
  split
  · exact confined_bind (confined_note _) fun _ => confined_pure _
  · split
    · exact confined_bind (confined_note _) fun _ => confined_pure _
    · exact confined_pure _

theorem confined_textual? {name : Text} {f : Text → Run Value} (h : textual? name = some f) (t : Text) :
    Confined A (f t) := by
  rcases eq_of_textual? h with ⟨g, rfl⟩ | rfl
  · exact confined_pure _
  · exact confined_decodeBase64 t

/-- Whether a transform is a script. -/
def isScript (spec : Text) : Bool := (Text.cut ':' (Text.trim spec)).1 == "jseval"

/-- A transform calls the sandbox if it is a script and there is a sandbox. -/
theorem confined_applyTransform {ctx : Context} (v : Value) {spec : Text}
    (hcall : ctx.sandbox.isSome = true → isScript spec = true → AllowsCalls A) :
    Confined A (applyTransform ctx v spec) := by
  unfold applyTransform
  split
  · exact confined_pure _
  · dsimp only
    split
    · exact confined_applyRegexp _ _
    · split
      · exact confined_applyJson _ _
      · split
        · next hname => exact confined_applyScript _ _ fun h => hcall h (beq_iff_eq.2 hname)
        · split
          · next h => exact confined_bind (confined_text v) fun t => confined_textual? h t
          · split
            · exact confined_of _
            · exact confined_bind (confined_note _) fun _ => confined_pure _

theorem blind_applyTransform (ctx : Context) (v : Value) (spec : Text) : Blind (applyTransform ctx v spec) :=
  (confined_applyTransform (A := fun _ => True) v fun _ _ _ _ => trivial).blind

theorem confined_applyUpdate (v : Value) (update : Text) : Confined A (applyUpdate v update) := by
  unfold applyUpdate
  split
  · split
    · exact confined_bind (confined_note _) fun _ => confined_pure _
    · exact confined_pure _
    · exact confined_bind (confined_note _) fun _ => confined_pure _
  · exact confined_pure _

theorem confined_applyIndex (v : Value) (spec : Text) : Confined A (applyIndex v spec) := by
  unfold applyIndex
  split
  · exact confined_pure _
  · split
    · exact confined_bind (confined_note _) fun _ => confined_pure _
    · split
      · exact confined_pure _
      · split <;> exact confined_pure _

theorem confined_each {f : Value → Run Value} (hf : ∀ v, Confined A (f v)) (v : Value) :
    Confined A (each f v) := by
  unfold each
  split
  · exact confined_bind (confined_mapM fun v _ => hf v) fun _ => confined_pure _
  · exact hf v

theorem blind_each {f : Value → Run Value} (hf : ∀ v, Blind (f v)) (v : Value) : Blind (each f v) := by
  unfold each
  split
  · exact blind_bind (blind_mapM fun v _ => hf v) fun _ => blind_pure _
  · exact hf v

/-- The stages of a pipeline call the sandbox if a transform is a script and there is a sandbox. -/
theorem confined_applyStages {ctx : Context} {ts : Query.Transforms} (v : Value)
    (hcall : ctx.sandbox.isSome = true → (∃ spec ∈ ts.transform, isScript spec = true) → AllowsCalls A) :
    Confined A (applyStages ctx ts v) := by
  -- only the transforms, which come first, may be scripts
  refine confined_bind (confined_foldlM (fun v spec hspec => ?_) v) fun v => ?_
  · refine confined_bind (confined_each (fun v => confined_applyTransform v ?_) v) fun _ => confined_pure _
    exact fun hsome hscript => hcall hsome ⟨spec, hspec, hscript⟩
  refine confined_bind (confined_foldlM (fun v spec _ => ?_) v) fun v => ?_
  · exact confined_each (fun v => confined_applyUpdate v spec) v
  refine confined_bind (confined_foldlM (fun v spec _ => confined_of _) v) fun v => ?_
  exact confined_foldlM (fun v spec _ => confined_applyIndex v spec) v

theorem blind_applyStages (ctx : Context) (ts : Query.Transforms) (v : Value) :
    Blind (applyStages ctx ts v) :=
  (confined_applyStages (A := fun _ => True) v fun _ _ _ _ => trivial).blind

end Transform

/-! ### Segments, chains and queries -/

namespace Execution

open Query (Segment Scheme)

theorem confined_fill (env : Environment) (t : Text) : Confined A (fill env t) := by
  refine confined_bind (confined_forM fun p _ => ?_) fun _ => confined_of _
  rcases p with ⟨placeholder, e⟩
  exact confined_note _

theorem confined_fillAll (env : Environment) (ts : List Text) : Confined A (fillAll env ts) :=
  confined_mapM fun t _ => confined_fill env t

theorem confined_fillTransforms (env : Environment) (ts : Query.Transforms) :
    Confined A (fillTransforms env ts) := by
  refine confined_bind (confined_fillAll _ _) fun _ => confined_bind (confined_fillAll _ _) fun _ =>
    confined_bind (confined_fillAll _ _) fun _ => confined_bind (confined_fillAll _ _) fun _ =>
    confined_bind (confined_fillAll _ _) fun _ => confined_bind ?_ fun _ => confined_pure _
  cases ts.keep with
  | none => exact confined_pure _
  | some vs => exact confined_map _ (confined_fillAll env vs)

theorem confined_resolve (scheme : Scheme) (n : Node) (path : Text) (parameters : Ordered (List Text)) :
    Confined A (resolve scheme n path parameters) := by
  cases scheme with
  | template => exact confined_pure _
  | json => exact confined_of _
  | url => exact Path.confined_address _ _ _
  | html =>
    rw [resolve]
    split
    · exact Path.confined_document _ _
    · exact confined_pure _

/-- Whether a transform of a segment is a script in some environment, and there is a sandbox for it. -/
def RunsScript (ctx : Transform.Context) (s : Segment) : Prop :=
  ctx.sandbox.isSome = true ∧ ∃ spec ∈ s.transforms.transform, ∃ env filled,
    Template.resolve env spec = .ok filled ∧ Transform.isScript filled = true

variable {ctx : Transform.Context}

/-- One parameter with its templates filled. -/
def fillParameter (env : Environment) (p : Text × List Text) : Run (Text × List Text) := do
  return (p.1, ← fillAll env p.2)

/-- What a segment finds when its path and its parameters have been filled. -/
def runFilled (ctx : Transform.Context) (s : Segment) (n : Node) (env : Environment) (path : Text)
    (parameters : Ordered (List Text)) : Run (Results × Environment) := do
  let transforms ← fillTransforms env s.transforms
  match present s.scheme (← resolve s.scheme n path parameters) with
  | [] => return ([], env)
  | [v] =>
    let (v, env) ← Transform.applyPipeline ctx transforms env v
    return (resultsOf false v, env)
  | vs =>
    let (v, env) ← Transform.applyPipeline ctx transforms env (.list vs)
    return (resultsOf true v, env)

theorem runSegment_eq_runFilled (ctx : Transform.Context) (s : Segment) (n : Node) (env : Environment) :
    runSegment ctx s n env =
      fill env s.path >>= fun path => s.parameters.mapM (fillParameter env) >>= runFilled ctx s n env path :=
  rfl

theorem confined_fillParameter (env : Environment) (p : Text × List Text) :
    Confined A (fillParameter env p) := confined_bind (confined_fillAll _ _) fun _ => confined_pure _

theorem confined_runFilled {s : Segment} (n : Node) (env : Environment) (path : Text)
    (parameters : Ordered (List Text)) (hcall : RunsScript ctx s → AllowsCalls A) :
    Confined A (runFilled ctx s n env path parameters) := by
  refine confined_bind_of (confined_fillTransforms _ _) (ensures_fillTransforms env s.transforms)
    fun transforms hfilled => ?_
  -- a script among the filled transforms comes of one of the segment
  have hstages : ∀ v, Confined A (Transform.applyStages ctx transforms v) := by
    refine fun v => Transform.confined_applyStages v fun hsome ⟨filled, hmem, hscript⟩ => ?_
    obtain ⟨spec, hspec, hresolve⟩ := exists_of_mapM_eq_ok hfilled.1 hmem
    exact hcall ⟨hsome, spec, hspec, env, filled, hresolve, hscript⟩
  have hpipeline : ∀ v, Confined A (Transform.applyPipeline ctx transforms env v) := fun v =>
    confined_bind (hstages v) fun _ => confined_pure _
  refine confined_bind (confined_resolve _ _ _ _) fun vs => ?_
  split
  · exact confined_pure _
  · exact confined_bind (hpipeline _) fun _ => confined_pure _
  · exact confined_bind (hpipeline _) fun _ => confined_pure _

/-- A segment calls the sandbox only if it runs a script. -/
theorem confined_runSegment {s : Segment} (n : Node) (env : Environment)
    (hcall : RunsScript ctx s → AllowsCalls A) :
    Confined A (runSegment ctx s n env) := by
  rw [runSegment_eq_runFilled]
  refine confined_bind (confined_fill _ _) fun path => ?_
  refine confined_bind (confined_mapM fun p _ => confined_fillParameter env p) fun parameters => ?_
  exact confined_runFilled n env path parameters hcall

theorem confined_nodeFor (scheme : Scheme) (v : Value) (base : Node) :
    Confined A (nodeFor scheme v base) := by
  unfold nodeFor
  split
  case h_4 =>
    exact confined_bind (confined_text _) fun _ => confined_bind (confined_of _) fun _ => confined_pure _
  case h_7 => exact confined_bind (confined_text _) fun _ => confined_pure _
  case h_9 =>
    exact confined_bind (confined_text _) fun _ => confined_bind (confined_of _) fun _ => confined_pure _
  all_goals exact confined_pure _

theorem confined_arrayNode (base : Node) (vs : List Value) : Confined A (arrayNode base vs) :=
  confined_bind (confined_of _) fun _ => confined_bind (confined_of _) fun _ => confined_pure _

theorem confined_runPiped {s : Segment} (base : Node) (vs : List Value) (env : Environment)
    (hcall : RunsScript ctx s → AllowsCalls A) :
    Confined A (runPiped ctx s base vs env) := by
  induction vs generalizing env with
  | nil => exact confined_pure _
  | cons v rest ih =>
    refine confined_bind (confined_nodeFor _ _ _) fun n => ?_
    refine confined_bind (confined_runSegment n env hcall) fun found => ?_
    exact confined_bind (ih found.2) fun _ => confined_pure _

theorem confined_next (n : Node) (first : Bool) (found : Results) {s : Segment} (env : Environment)
    (hcall : RunsScript ctx s → AllowsCalls A) :
    Confined A (next ctx n first found s env) := by
  unfold next
  split
  · exact confined_runPiped _ _ _ hcall
  · exact confined_bind (confined_runSegment _ _ hcall) fun _ => confined_pure _

theorem confined_runFrom (n : Node) (first : Bool) (found : Results) {ss : List Segment}
    (env : Environment) (hcall : ∀ s ∈ ss, RunsScript ctx s → AllowsCalls A) :
    Confined A (runFrom ctx n first found ss env) := by
  induction ss generalizing first found env with
  | nil => exact confined_pure _
  | cons s rest ih =>
    obtain ⟨hs, hrest⟩ := List.forall_mem_cons.1 hcall
    rw [runFrom]
    split
    · exact confined_bind (confined_note _) fun _ => ih _ _ _ hrest
    · refine confined_bind (confined_next _ _ _ _ hs) fun more => ?_
      exact confined_bind (confined_note _) fun _ => ih _ _ _ hrest

/-- A chain calls the sandbox only if one of its segments runs a script. -/
theorem confined_runChain {ss : List Segment} (n : Node) (env : Environment)
    (hcall : ∀ s ∈ ss, RunsScript ctx s → AllowsCalls A) :
    Confined A (runChain ctx ss n env) := confined_runFrom _ _ _ _ hcall

/-- Stages call the sandbox only if one of their segments runs a script. -/
theorem confined_runStages {stages : List (List Segment)} (n : Node) (env : Environment)
    (hcall : ∀ s ∈ stages.flatten, RunsScript ctx s → AllowsCalls A) :
    Confined A (runStages ctx stages n env) := by
  induction stages generalizing n env with
  | nil => exact confined_pure _
  | cons ss rest ih =>
    rw [List.flatten_cons, List.forall_mem_append] at hcall
    cases rest with
    | nil => exact confined_bind (confined_runChain _ _ hcall.1) fun _ => confined_pure _
    | cons ss' rest =>
      refine confined_bind (confined_runChain _ _ hcall.1) fun found => ?_
      refine confined_bind (confined_arrayNode _ _) fun m => ?_
      exact confined_bind (confined_note _) fun _ => ih _ _ hcall.2

/-! ### What the session does not decide -/

theorem blind_fill (env : Environment) (t : Text) : Blind (fill env t) :=
  (confined_fill (A := fun _ => True) env t).blind

theorem blind_fillTransforms (env : Environment) (ts : Query.Transforms) :
    Blind (fillTransforms env ts) := (confined_fillTransforms (A := fun _ => True) env ts).blind

theorem blind_resolve (scheme : Scheme) (n : Node) (path : Text) (parameters : Ordered (List Text)) :
    Blind (resolve scheme n path parameters) :=
  (confined_resolve (A := fun _ => True) scheme n path parameters).blind

theorem blind_nodeFor (scheme : Scheme) (v : Value) (base : Node) : Blind (nodeFor scheme v base) :=
  (confined_nodeFor (A := fun _ => True) scheme v base).blind

theorem blind_arrayNode (base : Node) (vs : List Value) : Blind (arrayNode base vs) :=
  (confined_arrayNode (A := fun _ => True) base vs).blind

theorem blind_fillParameter (env : Environment) (p : Text × List Text) :
    Blind (fillParameter env p) :=
  (confined_fillParameter (A := fun _ => True) env p).blind

theorem blind_runFilled (ctx : Transform.Context) (s : Segment) (n : Node) (env : Environment) (path : Text)
    (parameters : Ordered (List Text)) : Blind (runFilled ctx s n env path parameters) :=
  (confined_runFilled (A := fun _ => True) n env path parameters fun _ _ _ => trivial).blind

/-- What a segment finds does not depend on the session. -/
theorem blind_runSegment (ctx : Transform.Context) (s : Segment) (n : Node) (env : Environment) :
    Blind (runSegment ctx s n env) :=
  (confined_runSegment (A := fun _ => True) n env fun _ _ _ => trivial).blind

theorem blind_runPiped (ctx : Transform.Context) (s : Segment) (base : Node) (vs : List Value)
    (env : Environment) : Blind (runPiped ctx s base vs env) :=
  (confined_runPiped (A := fun _ => True) base vs env fun _ _ _ => trivial).blind

theorem blind_next (ctx : Transform.Context) (n : Node) (first : Bool) (found : Results) (s : Segment)
    (env : Environment) : Blind (next ctx n first found s env) :=
  (confined_next (A := fun _ => True) n first found env fun _ _ _ => trivial).blind

/-- What a chain finds does not depend on the session. -/
theorem blind_runChain (ctx : Transform.Context) (ss : List Segment) (n : Node) (env : Environment) :
    Blind (runChain ctx ss n env) :=
  (confined_runChain (A := fun _ => True) n env fun _ _ _ _ _ => trivial).blind

theorem blind_runStages (ctx : Transform.Context) (stages : List (List Segment)) (n : Node)
    (env : Environment) : Blind (runStages ctx stages n env) :=
  (confined_runStages (A := fun _ => True) n env fun _ _ _ _ _ => trivial).blind

/-! ### Whole queries -/

/-- A query against a page without an origin fails before anything is run. -/
theorem exec_run_error {q : Query} {n : Node} {f : Fault} (h : n.page.origin = .error f)
    (initial : Environment) (s : Session) : (run ctx q n initial).exec s = (.error f, s) := by
  rw [run, h]
  rfl

/-- A query against any other page runs its stages, after a reset if it asks for the sandbox. -/
theorem exec_run_ok {q : Query} {n : Node} {root : Text} (h : n.page.origin = .ok root)
    (initial : Environment) (s : Session) :
    (run ctx q n initial).exec s =
      (runStages ctx q.stages n (Environment.seeded n.page.url root initial)).exec
        (if usesSandbox q && ctx.sandbox.isSome then s.record .reset else s) := by
  rw [run, h]
  cases usesSandbox q && ctx.sandbox.isSome <;> rfl

/-- What a query gives is what its stages give in the environment that it starts in. -/
theorem outcome_run (q : Query) (n : Node) (initial : Environment) :
    (run ctx q n initial).outcome = n.page.origin >>= fun root =>
      (runStages ctx q.stages n (Environment.seeded n.page.url root initial)).outcome := by
  cases h : n.page.origin with
  | error f => rw [outcome, exec_run_error h]; rfl
  | ok root =>
    -- a reset is told to the session only
    rw [outcome, exec_run_ok h]
    exact (blind_runStages _ _ _ _).exec_fst _

/-- What a query finds does not depend on the session. -/
theorem blind_run (ctx : Transform.Context) (q : Query) (n : Node) (initial : Environment) :
    Blind (run ctx q n initial) := by
  intro s s'
  cases h : n.page.origin with
  | error f => rw [exec_run_error h, exec_run_error h]
  | ok root =>
    rw [exec_run_ok h, exec_run_ok h]
    exact blind_runStages _ _ _ _ _ _

end Execution

end PageQuery
