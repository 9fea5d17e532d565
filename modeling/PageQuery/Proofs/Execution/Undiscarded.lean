import PageQuery.Proofs.Execution.Made
import PageQuery.Proofs.Value.Made

namespace PageQuery

/-!
# Executions give values without discarded parts

* `Transform.Context.Undiscarded`: registered functions and the sandbox give no marked values;
* `Execution.unmarked_run`: what a query finds and saves has no marks;
* `Execution.run_undiscarded`: nor has what a query returns, as one value or as parts of the page.
-/

/-- The functions of a context turn values without marks into such values, and its sandbox gives no
    others. -/
structure Transform.Context.Undiscarded (ctx : Context) : Prop where
  functions : ∀ scope ∈ ctx.scopes, ∀ table ∈ scope, ∀ entry ∈ table, ∀ v w : Value,
    v.Undiscarded → entry.2 v = .ok w → w.Undiscarded
  sandbox : ∀ box, ctx.sandbox = some box → ∀ script names v,
    box.evaluate script names = .ok v → v.Undiscarded

/-- Results as one value have no marks. -/
theorem Results.undiscarded_simplified {rs : Results} (h : ∀ v ∈ rs, v.Undiscarded) :
    (simplified rs).Undiscarded := by
  unfold simplified
  split
  · exact .scalar _
  · exact h _ List.mem_cons_self
  · exact .list h

namespace Execution

open Run

variable {ctx : Transform.Context}

/-- What a query has found and saved: valid results without marks, and nothing marked in the
    environment. -/
structure Unmarked (o : Outcome) : Prop where
  valid : ∀ v ∈ o.results, v.isValid = true
  results : ∀ v ∈ o.results, v.Undiscarded
  environment : ∀ p ∈ o.environment, p.2.Undiscarded

/-- What a query finds and saves has no marks. -/
theorem unmarked_run (hctx : ctx.Undiscarded) (q : Query) {n : Node} (hn : n.data.Undiscarded)
    {initial : Environment} (hinitial : ∀ p ∈ initial, p.2.Undiscarded) :
    Ensures (run ctx q n initial) Unmarked := by
  obtain ⟨hfunctions, hsandbox⟩ := hctx
  -- to be without marks is to be made of any scalars at all
  simp only [Value.undiscarded_iff_madeOf] at hfunctions hsandbox hn hinitial
  refine ensures_mono (made_run Scalar.ample_any ⟨hfunctions, hsandbox⟩ q hn hinitial) fun o ho => ?_
  exact ⟨ho.valid, fun v hv => Value.undiscarded_iff_madeOf.2 (ho.results v hv),
    fun p hp => Value.undiscarded_iff_madeOf.2 (ho.environment p hp)⟩

/-- What a query returns has no mark anywhere, and nor has what it has saved. Its results are valid, and
    the same whether they are returned as one value or as parts of the page. -/
theorem run_undiscarded (hctx : ctx.Undiscarded) (q : Query) {n : Node} (hn : n.data.Undiscarded)
    {initial : Environment} (hinitial : ∀ p ∈ initial, p.2.Undiscarded) {s : Session} {o : Outcome}
    (h : ((run ctx q n initial).exec s).1 = .ok o) :
    o.value.Undiscarded ∧ (∀ p ∈ o.environment, p.2.Undiscarded) ∧
    ∃ vs, o.nodes.map Node.value = vs ∧ (∀ v ∈ vs, v.isValid = true ∧ v.Undiscarded) ∧
      (vs = [] → o.value = .null) ∧ (∀ v, vs = [v] → o.value = v) ∧
      (2 ≤ vs.length → o.value = .list vs) := by
  have ho := unmarked_run hctx q hn hinitial s o h
  refine ⟨Results.undiscarded_simplified ho.results, ho.environment, o.results, o.map_value_nodes, ?_⟩
  refine ⟨fun v hv => ⟨ho.valid v hv, ho.results v hv⟩, fun hnone => ?_, fun v hone => ?_,
    fun hmany => ?_⟩
  · rw [Outcome.value, hnone]
    rfl
  · rw [Outcome.value, hone]
    rfl
  · exact Results.simplified_eq_list hmany

/-- A list that a registered function makes, saved and shown. -/
theorem run_undiscarded_pair :
    ∃ (page : Page) (q : Query) (o : Outcome), page.data = .map [(.text "n", .int 1)] ∧
      Query.parse "json:n?transform=pair&save=x ++ template:v${x}" = .ok q ∧
      ((run ⟨[[[("pair", fun v => .ok (.list [v, v]))]]], none⟩ q page.root []).exec {}).1 = .ok o ∧
      o.value = .text "v[1,1]" ∧ o.value.Undiscarded ∧ ∀ p ∈ o.environment, p.2.Undiscarded := by
  let page : Page := ⟨"https://a.org/p", ⟨.element "html" [] [], []⟩, .map [(.text "n", .int 1)]⟩
  let q : Query :=
    ⟨[[⟨.json, "n", [], { transform := ["pair"], save := ["x"] }, true, false,
        "json:n?transform=pair&save=x"⟩,
      ⟨.template, "v${x}", [], {}, true, false, "template:v${x}"⟩]],
      "json:n?transform=pair&save=x ++ template:v${x}"⟩
  let ctx : Transform.Context := ⟨[[[("pair", fun v => .ok (.list [v, v]))]]], none⟩
  let o : Outcome :=
    ⟨[.text "v[1,1]"], page.root, [("time", .int Environment.now), ("pageUrl", .text "https://a.org/p"),
      ("rootUrl", .text "https://a.org"), ("x", .list [.int 1, .int 1])]⟩
  have hctx : ctx.Undiscarded := by
    refine ⟨?_, nofun⟩
    simp only [ctx, List.mem_singleton, forall_eq, Except.ok.injEq]
    rintro v w hv rfl
    simp [hv]
  have hrun : ((run ctx q page.root []).exec {}).1 = .ok o := rfl
  have hdata : page.root.data.Undiscarded := by simp [page, Page.root]
  obtain ⟨hvalue, henv, -⟩ := run_undiscarded hctx q hdata (List.forall_mem_nil _) hrun
  exact ⟨page, q, o, rfl, rfl, hrun, rfl, hvalue, henv⟩

end Execution

end PageQuery
