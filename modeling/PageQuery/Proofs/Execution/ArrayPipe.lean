import PageQuery.Proofs.Environment
import PageQuery.Proofs.Execution.Confined
import PageQuery.Proofs.Query.Parsing
import PageQuery.Proofs.Results

namespace PageQuery

/-!
# Array pipes

A query with an array pipe in it does what the query before the pipe and the query after it do in turn.

* `Execution.ensures_runStages`: the names of an environment are kept, and the address of the page;
* `Execution.runStages_append`: the stages of two queries, one after the other;
* `Execution.runInTurn`: a query, and another on what the first has found and saved;
* `Execution.run_arrayPipe`: running the text with the array pipe is running both in turn.
-/

open Run

/-- Saving extends the environment. -/
theorem Transform.extends_saveAndKeep (ts : Query.Transforms) (env : Environment) (v : Value) :
    Ordered.Extends env (saveAndKeep ts env v).2 := by
  have hsaved := Ordered.extends_foldl (fun m name => Ordered.extends_put name v m) (saveNames ts) env
  unfold saveAndKeep
  split
  · exact Ordered.Extends.refl env
  · dsimp only
    split <;> exact hsaved

namespace Execution

open Query (Segment)

variable {ctx : Transform.Context}

/-! ### What executions keep -/

/-- What a segment gives has a property if having found nothing has it, and saving any value has it. -/
theorem ensures_runSegment_of {s : Segment} (n : Node) {env : Environment}
    {P : Results × Environment → Prop} (hnone : P ([], env))
    (hsave : ∀ ts : Query.Transforms, s.transforms.save.mapM (Template.resolve env) = .ok ts.save →
      ∀ several v, P (resultsOf several (Transform.saveAndKeep ts env v).1,
        (Transform.saveAndKeep ts env v).2)) :
    Ensures (runSegment ctx s n env) P := by
  refine ensures_after _ fun path => ensures_after _ fun params => ?_
  refine ensures_bind (ensures_fillTransforms env s.transforms) fun transforms hfilled => ?_
  -- one match and several pass through the same pipeline
  have hpipeline : ∀ several v, Ensures (Transform.applyPipeline ctx transforms env v) fun r =>
      P (resultsOf several r.1, r.2) := fun several v =>
    ensures_after _ fun w => ensures_pure (hsave transforms hfilled.2 several w)
  refine ensures_after _ fun vs => ?_
  split
  · exact ensures_pure hnone
  · exact ensures_bind (hpipeline false _) fun r hr => ensures_pure hr
  · exact ensures_bind (hpipeline true _) fun r hr => ensures_pure hr

/-- A segment extends the environment. -/
theorem ensures_runSegment (s : Segment) (n : Node) (env : Environment) :
    Ensures (runSegment ctx s n env) fun r => Ordered.Extends env r.2 :=
  ensures_runSegment_of n (Ordered.Extends.refl env) fun ts _ _ v =>
    Transform.extends_saveAndKeep ts env v

/-- A segment that is run for each of some values extends the environment. -/
theorem ensures_runPiped (s : Segment) (base : Node) (vs : List Value) (env : Environment) :
    Ensures (runPiped ctx s base vs env) fun r => Ordered.Extends env r.2 := by
  induction vs generalizing env with
  | nil => exact ensures_pure (Ordered.Extends.refl env)
  | cons v rest ih =>
    refine ensures_after _ fun n =>
      ensures_bind (ensures_runSegment s n env) fun found hfound => ?_
    exact ensures_bind (ih found.2) fun others hothers => ensures_pure (hfound.trans hothers)

/-- One more segment of a chain extends the environment. -/
theorem ensures_next (n : Node) (first : Bool) (found : Results) (s : Segment) (env : Environment) :
    Ensures (next ctx n first found s env) fun r => Ordered.Extends env r.2 := by
  unfold next
  split
  · exact ensures_runPiped _ _ _ _
  · exact ensures_bind (ensures_runSegment s n env) fun more hmore => ensures_pure hmore

/-- The segments of a chain extend the environment. -/
theorem ensures_runFrom (n : Node) (first : Bool) (found : Results) (ss : List Segment)
    (env : Environment) :
    Ensures (runFrom ctx n first found ss env) fun r => Ordered.Extends env r.2 := by
  induction ss generalizing first found env with
  | nil => exact ensures_pure (Ordered.Extends.refl env)
  | cons s rest ih =>
    rw [runFrom]
    split
    · exact ensures_after _ fun _ => ih _ _ _
    · refine ensures_bind (ensures_next n first found s env) fun more hmore => ?_
      refine ensures_after _ fun _ => ?_
      exact ensures_mono (ih _ _ _) fun r hr => hmore.trans hr

/-- The node behind an array pipe is of a page with the same address. -/
theorem ensures_arrayNode (base : Node) (vs : List Value) :
    Ensures (arrayNode base vs) fun n => n.page.url = base.page.url := by
  refine ensures_after _ fun t => ?_
  refine ensures_bind (P := fun p => p.url = base.page.url) (ensures_of fun p hp => ?_)
    fun p hp => ensures_pure hp
  obtain ⟨document, -, hp⟩ := bind_eq_ok_iff.1 hp
  exact Except.ok.inj hp ▸ rfl

/-- The node that an array pipe hands on depends on the address of the page before it alone. -/
theorem arrayNode_congr {base base' : Node} (h : base.page.url = base'.page.url) (vs : List Value) :
    arrayNode base vs = arrayNode base' vs := by
  rw [arrayNode, arrayNode, h]

/-- Stages extend the environment, and the last of them runs against a page with the same address. -/
theorem ensures_runStages (stages : List (List Segment)) (n : Node) (env : Environment) :
    Ensures (runStages ctx stages n env) fun o =>
      Ordered.Extends env o.environment ∧ o.node.page.url = n.page.url := by
  induction stages generalizing n env with
  | nil => exact ensures_pure ⟨Ordered.Extends.refl env, rfl⟩
  | cons ss rest ih =>
    cases rest with
    | nil =>
      refine ensures_bind (ensures_runFrom n true [] ss env) fun found hfound => ?_
      exact ensures_pure ⟨hfound, rfl⟩
    | cons ss' rest =>
      refine ensures_bind (ensures_runFrom n true [] ss env) fun found hfound => ?_
      refine ensures_bind (ensures_arrayNode n _) fun m hm => ensures_after _ fun _ => ?_
      exact ensures_mono (ih m found.2) fun o ho => ⟨hfound.trans ho.1, ho.2.trans hm⟩

/-! ### Stages in a row -/

/-- The stages of one query and those of another after them: what the first find is handed on as one
    list, with all that they have saved. -/
theorem runStages_append {ps qs : List (List Segment)} (hps : ps ≠ []) (hqs : qs ≠ []) (n : Node)
    (env : Environment) :
    runStages ctx (ps ++ qs) n env = (do
      let o ← runStages ctx ps n env
      let m ← arrayNode o.node (flattenedItems o.results)
      Run.note (.handedOn (m.data.shown.toOption.getD [])
        (shownItems ((Text.sort o.environment.keys).map .text)))
      runStages ctx qs m o.environment) := by
  obtain ⟨q, qs, rfl⟩ := List.exists_cons_of_ne_nil hqs
  -- the stages before the last of `ps` run in the same way on both sides
  induction ps generalizing n env with
  | nil => exact absurd rfl hps
  | cons ss rest ih =>
    cases rest with
    | nil => simp only [List.cons_append, List.nil_append, runStages, bind_assoc, pure_bind]
    | cons ss' rest =>
      have ih := ih (List.cons_ne_nil _ _)
      simp only [List.cons_append] at ih
      simp only [List.cons_append, runStages, bind_assoc, ih]

/-! ### Queries in turn -/

/-- A query, and another on the list of what the first has found, with all that the first has saved. -/
def runInTurn (ctx : Transform.Context) (p q : Query) (n : Node) (initial : Environment) :
    Run Outcome := do
  let o ← run ctx p n initial
  let m ← arrayNode n (flattenedItems (o.nodes.map Node.value))
  run ctx q m o.environment

/-- What the stages of two queries in a row give. -/
theorem outcome_runStages_append {ps qs : List (List Segment)} (hps : ps ≠ []) (hqs : qs ≠ [])
    (n : Node) (env : Environment) :
    (runStages ctx (ps ++ qs) n env).outcome = (runStages ctx ps n env).outcome >>= fun o =>
      (arrayNode o.node (flattenedItems o.results)).outcome >>= fun m =>
        (runStages ctx qs m o.environment).outcome := by
  have hlast : ∀ (o : Outcome) (m : Node), Blind (do
      Run.note (.handedOn (m.data.shown.toOption.getD [])
        (shownItems ((Text.sort o.environment.keys).map .text)))
      runStages ctx qs m o.environment) := fun o m =>
    blind_bind (blind_note _) fun _ => blind_runStages _ _ _ _
  rw [runStages_append hps hqs, outcome_bind]
  · refine bind_congr_ok fun o _ => ?_
    rw [outcome_bind _ (hlast o)]
    refine bind_congr_ok fun m _ => ?_
    exact outcome_bind _ fun _ => blind_runStages _ _ _ _
  · exact fun o => blind_bind (blind_arrayNode _ _) (hlast o)

/-- Running the stages of two queries in a row is running the queries in turn. -/
theorem outcome_run_append {p q r : Query} (hp : p.stages ≠ []) (hq : q.stages ≠ [])
    (hr : r.stages = p.stages ++ q.stages) (n : Node) (initial : Environment) :
    (run ctx r n initial).outcome = (runInTurn ctx p q n initial).outcome := by
  have hturn : (runInTurn ctx p q n initial).outcome = (run ctx p n initial).outcome >>= fun o =>
      (arrayNode n (flattenedItems o.results)).outcome >>= fun m =>
        (run ctx q m o.environment).outcome := by
    rw [runInTurn, outcome_bind]
    · refine bind_congr_ok fun o _ => ?_
      rw [outcome_bind _ fun _ => blind_run _ _ _ _, Outcome.map_value_nodes]
    · exact fun o => blind_bind (blind_arrayNode _ _) fun _ => blind_run _ _ _ _
  rw [hturn, outcome_run, outcome_run, bind_assoc]
  refine bind_congr_ok fun root hroot => ?_
  rw [hr, outcome_runStages_append hp hq]
  refine bind_congr_ok fun o ho => ?_
  -- what the first query leaves: the names that it has started with, and the address of the page
  obtain ⟨henv, hurl⟩ := ensures_runStages p.stages n _ _ o ho
  rw [arrayNode_congr hurl]
  refine bind_congr_ok fun m hm => ?_
  have hmurl : m.page.url = n.page.url := ensures_arrayNode n _ _ m hm
  -- the second query finds its built-in variables in what the first has left
  have horigin : m.page.origin = .ok root := by rw [← hroot, Page.origin, Page.origin, hmurl]
  rw [outcome_run, horigin]
  show _ = (runStages ctx q.stages m (Environment.seeded m.page.url root o.environment)).outcome
  rw [Environment.seeded_eq_self henv]

/-! ### Array pipes in query texts -/

/-- A query that is parsed has a stage. -/
theorem stages_ne_nil {t : Text} {q : Query} (h : Query.parse t = .ok q) : q.stages ≠ [] := by
  obtain ⟨stages, hstages, hq⟩ := bind_eq_ok_iff.1 h
  obtain rfl : ⟨stages, t⟩ = q := Except.ok.inj hq
  obtain ⟨u, us, hu⟩ := Query.stageTexts_eq_cons t
  rw [hu] at hstages
  obtain ⟨s, ss, -, -, rfl⟩ := mapM_cons_eq_ok_iff.1 hstages
  exact List.cons_ne_nil _ _

end Execution

end PageQuery
