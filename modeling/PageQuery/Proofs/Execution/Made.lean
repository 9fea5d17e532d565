import PageQuery.Proofs.Results
import PageQuery.Proofs.Transform.Made
import PageQuery.Proofs.Path.Heritable

namespace PageQuery

/-!
# Executions keep kinds of scalars

* `Execution.Clean`: the results and the environment in the course of a chain, of which the results may be
  marked as a whole;
* `Execution.clean_runFrom`: every segment keeps them so;
* `Execution.made_run`: what a query finds and saves is made of scalars of a kind to which those of the page and of
  the variables belong.
-/

open Run

variable {P : Scalar → Prop}

/-! ### Results -/

/-- Results that are opened are made of the same scalars. -/
theorem Results.madeOf_opened {rs : Results} (h : ∀ v ∈ rs, v.MarkedOutside P) :
    ∀ v ∈ rs.opened, v.MadeOf P := by
  intro v hv
  obtain ⟨u, hu, rfl⟩ := List.mem_map.1 hv
  cases h u hu with
  | discarded hw => exact hw
  | unmarked hu =>
    cases hu with
    | scalar s => exact .scalar s
    | list hvs => exact .list hvs
    | map hkeys hvalues => exact .map hkeys hvalues
    | element e => exact .element e

/-- So are those that are not discarded. -/
theorem Results.madeOf_kept {rs : Results} (h : ∀ v ∈ rs, v.MarkedOutside P) :
    ∀ v ∈ rs.kept, v.MadeOf P := by
  intro v hv
  obtain ⟨hv, hkept⟩ := List.mem_filter.1 hv
  cases h v hv with
  | discarded hw => cases hkept
  | unmarked hv => exact hv

/-- Results as one value are made of the same scalars, or nothing. -/
theorem Results.madeOf_simplified (hP : Scalar.Ample P) {rs : Results} (h : ∀ v ∈ rs, v.MadeOf P) :
    (simplified rs).MadeOf P := by
  unfold simplified
  split
  · exact Value.madeOf_null hP
  · exact h _ List.mem_cons_self
  · exact .list h

/-! ### Pages -/

/-- The data of a page is what it was built from, or JSON. -/
theorem Page.madeOf_build (hP : Scalar.Ample P) {url html embeddedId : Text} {data : Value} {p : Page}
    (hdata : data.MadeOf P) (h : build url html data embeddedId = .ok p) : p.data.MadeOf P := by
  obtain ⟨document, -, h⟩ := bind_eq_ok_iff.1 h
  cases h
  dsimp only
  split
  · unfold embedded
    split
    · exact Value.madeOf_null hP
    · split
      · exact Value.madeOf_null hP
      · exact Transform.madeOf_decode hP (Value.madeOf_text hP _)
  · exact Transform.madeOf_decode hP hdata

namespace Execution

open Query (Segment Scheme)

variable {ctx : Transform.Context}

/-! ### Segments -/

/-- What has been found and saved in the course of a chain is valid, and made of scalars of a kind. -/
structure Clean (P : Scalar → Prop) (r : Results × Environment) : Prop where
  valid : ∀ v ∈ r.1, v.isValid = true
  results : ∀ v ∈ r.1, v.MarkedOutside P
  environment : ∀ p ∈ r.2, p.2.MadeOf P

/-- What is found in two steps is clean if both finds are. -/
theorem Clean.append {r r' : Results × Environment} (h : Clean P r) (h' : Clean P r') :
    Clean P (r.1 ++ r'.1, r'.2) where
  valid := List.forall_mem_append.2 ⟨h.valid, h'.valid⟩
  results := List.forall_mem_append.2 ⟨h.results, h'.results⟩
  environment := h'.environment

/-- The matches of a path are made of the scalars of the data, or are elements and texts. -/
theorem ensures_resolve (hP : Scalar.Ample P) (scheme : Scheme) {n : Node} (hn : n.data.MadeOf P) (path : Text)
    (parameters : Ordered (List Text)) :
    Ensures (resolve scheme n path parameters) fun vs => ∀ v ∈ vs, v.MadeOf P := by
  unfold resolve
  split
  · exact ensures_pure (List.forall_mem_singleton.2 (Value.madeOf_text hP _))
  · split
    · exact Path.ensures_document hP _ _
    · exact ensures_pure (by simp)
  · exact ensures_of fun vs hvs => Path.madeOf_data hP hn (mapError_eq_ok_iff.1 hvs)
  · exact Path.ensures_address hP _ _ _

/-- The matches that are there are matches. -/
theorem mem_of_mem_present {scheme : Scheme} {vs : List Value} {v : Value} (h : v ∈ present scheme vs) :
    v ∈ vs := by
  unfold present at h
  split at h
  · exact h
  · exact (List.mem_filter.1 h).1

/-- The results of a value that is marked at the outside at most. -/
theorem clean_resultsOf {several : Bool} {v : Value} {env : Environment} (hv : v.MarkedOutside P)
    (henv : ∀ p ∈ env, p.2.MadeOf P) : Clean P (resultsOf several v, env) := by
  refine ⟨?_, ?_, henv⟩
  · unfold resultsOf
    split
    · exact fun w hw => (List.mem_filter.1 hw).2
    · split <;> simp [*]
  · unfold resultsOf
    split
    · -- a list is not marked itself, and so none of its items is
      next vs =>
      have hvs : (Value.list vs).MadeOf P := by cases hv; assumption
      exact fun w hw => .unmarked (Value.madeOf_list_iff.1 hvs w (List.mem_filter.1 hw).1)
    · split <;> simp [*]

/-- What the pipeline makes of a value is clean. -/
theorem clean_applyPipeline (hP : Scalar.Ample P) (hctx : ctx.Makes P) (ts : Query.Transforms) {env : Environment}
    (henv : ∀ p ∈ env, p.2.MadeOf P) {v : Value} (hv : v.MadeOf P) (several : Bool) :
    Ensures (Transform.applyPipeline ctx ts env v) fun r => Clean P (resultsOf several r.1, r.2) := by
  refine ensures_bind (Transform.ensures_applyStages hP hctx ts hv) fun w hw => ensures_pure ?_
  exact clean_resultsOf (Transform.markedOutside_saveAndKeep ts env hw)
    (Transform.madeOf_saveAndKeep ts henv hw)

/-- What a segment finds and saves is clean. -/
theorem clean_runSegment (hP : Scalar.Ample P) (hctx : ctx.Makes P) (s : Segment) {n : Node} (hn : n.data.MadeOf P)
    {env : Environment} (henv : ∀ p ∈ env, p.2.MadeOf P) :
    Ensures (runSegment ctx s n env) (Clean P) := by
  refine ensures_after _ fun path => ensures_after _ fun params =>
    ensures_after _ fun ts =>
    ensures_bind (ensures_resolve hP s.scheme hn path params) fun vs hvs => ?_
  have hpresent : ∀ v ∈ present s.scheme vs, v.MadeOf P := fun v hv => hvs v (mem_of_mem_present hv)
  split
  · exact ensures_pure ⟨by simp, by simp, henv⟩
  · next v heq =>
    rw [heq] at hpresent
    exact ensures_bind (clean_applyPipeline hP hctx ts henv (hpresent v List.mem_cons_self) false)
      fun r hr => ensures_pure hr
  · exact ensures_bind (clean_applyPipeline hP hctx ts henv (.list hpresent) true)
      fun r hr => ensures_pure hr

/-! ### Pipes and array pipes -/

/-- The node for a value has data of the same kind. -/
theorem ensures_nodeFor (hP : Scalar.Ample P) (scheme : Scheme) {v : Value} (hv : v.MadeOf P) (base : Node) :
    Ensures (nodeFor scheme v base) fun n => n.data.MadeOf P := by
  unfold nodeFor
  split
  case h_1 => exact ensures_pure (Value.madeOf_null hP)
  case h_4 =>
    exact ensures_after _ fun _ => ensures_after _ fun _ =>
      ensures_pure (Value.madeOf_null hP)
  case h_7 =>
    exact ensures_after _ fun _ =>
      ensures_pure (Transform.madeOf_decode hP (Value.madeOf_text hP _))
  case h_8 => exact ensures_pure (Transform.madeOf_decode hP hv)
  case h_9 =>
    refine ensures_after _ fun t => ?_
    refine ensures_bind (P := fun p => p.data.MadeOf P) (ensures_of fun p hp => ?_)
      fun p hp => ensures_pure hp
    exact Page.madeOf_build hP (Value.madeOf_null hP) hp
  all_goals exact ensures_pure hv

/-- The node behind an array pipe has data of every ample kind, whatever is handed on. -/
theorem madeOf_arrayNode (hP : Scalar.Ample P) (base : Node) (vs : List Value) :
    Ensures (arrayNode base vs) fun n => n.data.MadeOf P := by
  refine ensures_after _ fun t => ?_
  refine ensures_bind (P := fun p => p.data.MadeOf P) (ensures_of fun p hp => ?_)
    fun p hp => ensures_pure hp
  -- the values go through JSON text
  refine Page.madeOf_build hP ?_ hp
  cases hread : Json.read? t with
  | none => exact Value.madeOf_text hP _
  | some v => exact (Json.holds_madeOf hP).read? hread

/-- What a piped segment finds and saves is clean. -/
theorem clean_runPiped (hP : Scalar.Ample P) (hctx : ctx.Makes P) (s : Segment) (base : Node) {vs : List Value}
    (hvs : ∀ v ∈ vs, v.MadeOf P) {env : Environment} (henv : ∀ p ∈ env, p.2.MadeOf P) :
    Ensures (runPiped ctx s base vs env) (Clean P) := by
  induction vs generalizing env with
  | nil => exact ensures_pure ⟨by simp, by simp, henv⟩
  | cons v vs ih =>
    have hrest := List.forall_mem_cons.1 hvs
    refine ensures_bind (ensures_nodeFor hP s.scheme hrest.1 base) fun n hn => ?_
    refine ensures_bind (clean_runSegment hP hctx s hn henv) fun found hfound => ?_
    refine ensures_bind (ih hrest.2 hfound.environment) fun others hothers => ?_
    exact ensures_pure (hfound.append hothers)

/-! ### Chains and queries -/

/-- One more segment of a chain keeps what has been found clean. -/
theorem clean_next (hP : Scalar.Ample P) (hctx : ctx.Makes P) {n : Node} (hn : n.data.MadeOf P) (first : Bool)
    {found : Results} (s : Segment) {env : Environment} (h : Clean P (found, env)) :
    Ensures (next ctx n first found s env) (Clean P) := by
  unfold next
  split
  · exact clean_runPiped hP hctx s n (Results.madeOf_opened h.results) h.environment
  · exact ensures_bind (clean_runSegment hP hctx s hn h.environment) fun more hmore =>
      ensures_pure (h.append hmore)

/-- The segments of a chain keep what has been found clean. -/
theorem clean_runFrom (hP : Scalar.Ample P) (hctx : ctx.Makes P) {n : Node} (hn : n.data.MadeOf P) (first : Bool)
    {found : Results} (ss : List Segment) {env : Environment} (h : Clean P (found, env)) :
    Ensures (runFrom ctx n first found ss env) (Clean P) := by
  induction ss generalizing first found env with
  | nil => exact ensures_pure h
  | cons s ss ih =>
    rw [runFrom]
    split
    · exact ensures_after _ fun _ => ih _ h
    · refine ensures_bind (clean_next hP hctx hn first s h) fun more hmore => ?_
      exact ensures_after _ fun _ => ih _ hmore

/-- What a query has found and saved is valid, and made of scalars of a kind. -/
structure Made (P : Scalar → Prop) (o : Outcome) : Prop where
  valid : ∀ v ∈ o.results, v.isValid = true
  results : ∀ v ∈ o.results, v.MadeOf P
  environment : ∀ p ∈ o.environment, p.2.MadeOf P

/-- What stages find and save is made of scalars of the kind. -/
theorem made_runStages (hP : Scalar.Ample P) (hctx : ctx.Makes P) (stages : List (List Segment)) {n : Node}
    (hn : n.data.MadeOf P) {env : Environment} (henv : ∀ p ∈ env, p.2.MadeOf P) :
    Ensures (runStages ctx stages n env) (Made P) := by
  -- every stage starts without results, in the environment that the one before it leaves
  have hempty : Clean P ([], env) := ⟨by simp, by simp, henv⟩
  induction stages generalizing n env with
  | nil => exact ensures_pure ⟨by simp, by simp, henv⟩
  | cons ss rest ih =>
    cases rest with
    | nil =>
      refine ensures_bind (clean_runFrom hP hctx hn true ss hempty) fun found hfound => ensures_pure ?_
      exact ⟨fun v hv => hfound.valid v (List.mem_filter.1 hv).1,
        Results.madeOf_kept hfound.results, hfound.environment⟩
    | cons ss' rest =>
      refine ensures_bind (clean_runFrom hP hctx hn true ss hempty) fun found hfound => ?_
      refine ensures_bind (madeOf_arrayNode hP n _) fun m hm => ensures_after _ fun _ => ?_
      exact ih hm hfound.environment ⟨by simp, by simp, hfound.environment⟩

/-- What a query finds and saves is made of scalars of an ample kind to which those of the page and of the variables
    belong. -/
theorem made_run (hP : Scalar.Ample P) (hctx : ctx.Makes P) (q : Query) {n : Node} (hn : n.data.MadeOf P)
    {initial : Environment} (hinitial : ∀ p ∈ initial, p.2.MadeOf P) :
    Ensures (run ctx q n initial) (Made P) := by
  refine ensures_after _ fun root => ?_
  have hnow : (Value.int Environment.now).MadeOf P :=
    .scalar (hP.int _ (Value.withinDigits_int_iff.2 (by decide +kernel)))
  have hseeded : ∀ p ∈ Environment.seeded n.page.url root initial, p.2.MadeOf P := by
    refine Ordered.forall_mem_overlay ?_ hinitial
    simp only [List.forall_mem_cons]
    exact ⟨hnow, Value.madeOf_text hP _, Value.madeOf_text hP _, List.forall_mem_nil _⟩
  have hstages := made_runStages hP hctx q.stages hn hseeded
  dsimp only
  split
  · exact ensures_after _ fun _ => hstages
  · exact hstages

end Execution

end PageQuery
