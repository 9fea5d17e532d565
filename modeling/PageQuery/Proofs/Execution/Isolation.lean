import PageQuery.Proofs.Execution.Confined

namespace PageQuery.Execution

/-!
# Resets of the sandbox

A query resets the sandbox once at its start if one of its transforms is written as a script. It does not
look at the transforms that its templates become, so that a script which comes out of a placeholder is run
in a sandbox that is not reset.

* `Isolated`: the sandbox is reset at most once, and before it is called;
* `usesSandbox_iff`: which queries reset the sandbox;
* `events_run`: what a query asks of the sandbox;
* `run_isolated`: the queries that reset the sandbox, or do not call it, are those that are isolated.
-/

open Run
open Query (Segment)

/-! ### Resets and calls -/

/-- The sandbox is reset at most once, and each call comes after a reset. -/
structure Isolated (es : List Event) : Prop where
  once : es.count .reset ≤ 1
  before : ∀ {lead script names rest}, es = lead ++ .call script names :: rest → .reset ∈ lead

/-- Calls after a reset are isolated. -/
theorem isolated_cons_reset {es : List Event} (h : .reset ∉ es) : Isolated (.reset :: es) where
  once := by simp [List.count_eq_zero.2 h]
  before := by
    intro lead script names rest hes
    cases lead with
    | nil => cases hes
    | cons e lead =>
      obtain ⟨rfl, -⟩ := List.cons.inj hes
      exact List.mem_cons_self

/-- Without a reset only no calls are isolated. -/
theorem isolated_iff_eq_nil {es : List Event} (h : .reset ∉ es) : Isolated es ↔ es = [] := by
  constructor
  · intro hes
    cases es with
    | nil => rfl
    | cons e es =>
      cases e with
      | reset => exact absurd List.mem_cons_self h
      | call script names =>
        have hmem : .reset ∈ ([] : List Event) := hes.before rfl
        cases hmem
  · rintro rfl
    exact ⟨Nat.zero_le 1, fun hes => absurd hes (by simp)⟩

/-! ### Scripts in queries -/

/-- A segment uses scripts if one of its transforms is written as one. -/
theorem usesTransform_eq_any (s : Segment) :
    s.usesTransform "jseval" = s.transforms.transform.any Transform.isScript := by
  refine congrArg (s.transforms.transform.any ·) (funext fun spec => ?_)
  have hname : ':' ∉ ("jseval" : Text) := by decide
  rw [Bool.eq_iff_iff, Transform.isScript, beq_iff_eq, Text.cut_fst_eq_iff hname, Bool.or_eq_true,
    beq_iff_eq, Text.startsWith_iff]

/-- A query asks for the sandbox if a transform of one of its segments is written as a script. -/
theorem usesSandbox_iff {q : Query} : usesSandbox q = true ↔
    ∃ s ∈ q.segments, ∃ spec ∈ s.transforms.transform, Transform.isScript spec = true := by
  simp only [usesSandbox, Query.usesTransform, usesTransform_eq_any, List.any_eq_true]

/-- A script is written as one if it comes out of a template with a fixed name. -/
theorem isScript_of_resolve {env : Environment} {spec filled : Text} (hspec : Template.isNamed spec = true)
    (hfilled : Template.resolve env spec = .ok filled) (h : Transform.isScript filled = true) :
    Transform.isScript spec = true := by
  rwa [Transform.isScript, ← Template.cut_trim_resolve hspec hfilled]

/-! ### Queries -/

/-- What a query asks of the sandbox: it resets it first if it asks for it, and then calls it only if a
    segment runs a script. -/
theorem events_run (ctx : Transform.Context) (q : Query) (n : Node) (initial : Environment) (s : Session) :
    ∃ es, (∀ e ∈ es, e ≠ .reset ∧ ∃ seg ∈ q.segments, RunsScript ctx seg) ∧
      (((run ctx q n initial).exec s).2.events = s.events ++ es ∧ (usesSandbox q = true → es = []) ∨
        ((run ctx q n initial).exec s).2.events = s.events ++ .reset :: es ∧ usesSandbox q = true) := by
  have hstages : ∀ env s', ∃ es, ((runStages ctx q.stages n env).exec s').2.events = s'.events ++ es ∧
      ∀ e ∈ es, e ≠ .reset ∧ ∃ seg ∈ q.segments, RunsScript ctx seg := fun env s' =>
    (confined_runStages n env fun seg hseg hscript _ _ => ⟨Event.noConfusion, seg, hseg, hscript⟩).adds s'
  cases horigin : n.page.origin with
  | error f =>
    rw [exec_run_error horigin]
    exact ⟨[], nofun, .inl ⟨(List.append_nil s.events).symm, fun _ => rfl⟩⟩
  | ok root =>
    rw [exec_run_ok horigin]
    by_cases hreset : (usesSandbox q && ctx.sandbox.isSome) = true
    · obtain ⟨es, hes, hscripts⟩ := hstages (Environment.seeded n.page.url root initial) (s.record .reset)
      refine ⟨es, hscripts, .inr ⟨?_, (Bool.and_eq_true_iff.1 hreset).1⟩⟩
      rw [if_pos hreset, hes, Session.record, List.append_assoc, List.singleton_append]
    · obtain ⟨es, hes, hscripts⟩ := hstages (Environment.seeded n.page.url root initial) s
      refine ⟨es, hscripts, .inl ⟨by rw [if_neg hreset, hes], fun huses => ?_⟩⟩
      -- without a sandbox no segment runs a script
      refine List.eq_nil_iff_forall_not_mem.2 fun e he => ?_
      obtain ⟨-, seg, -, hsome, -⟩ := hscripts e he
      exact hreset (Bool.and_eq_true_iff.2 ⟨huses, hsome⟩)

/-- A query resets the sandbox at most once. The sandbox is reset before it is called exactly if the query
    asks for it or does not call it, in particular if no transform has a placeholder in its name. -/
theorem run_isolated (ctx : Transform.Context) (q : Query) (n : Node) (initial : Environment)
    (s : Session) :
    ∃ es, ((run ctx q n initial).exec s).2.events = s.events ++ es ∧ es.count .reset ≤ 1 ∧
      (Isolated es ↔ usesSandbox q = true ∨ es = []) ∧
      ((∀ seg ∈ q.segments, ∀ spec ∈ seg.transforms.transform, Template.isNamed spec = true) →
        Isolated es) := by
  obtain ⟨es, hes, hevents | hevents⟩ := events_run ctx q n initial s
  · obtain ⟨hevents, huses⟩ := hevents
    have hreset : .reset ∉ es := fun h => (hes _ h).1 rfl
    refine ⟨es, hevents, by simp [List.count_eq_zero.2 hreset], ?_, fun hnamed => ?_⟩
    · rw [isolated_iff_eq_nil hreset]
      exact ⟨.inr, fun h => h.elim huses id⟩
    · rw [isolated_iff_eq_nil hreset]
      -- an event would come of a script that is written as one
      refine List.eq_nil_iff_forall_not_mem.2 fun e he => ?_
      obtain ⟨-, seg, hseg, -, spec, hspec, env, filled, hfilled, hscript⟩ := hes e he
      have hwritten := isScript_of_resolve (hnamed seg hseg spec hspec) hfilled hscript
      rw [huses (usesSandbox_iff.2 ⟨seg, hseg, spec, hspec, hwritten⟩)] at he
      cases he
  · obtain ⟨hevents, huses⟩ := hevents
    have hisolated := isolated_cons_reset fun h => (hes _ h).1 rfl
    exact ⟨.reset :: es, hevents, hisolated.once, iff_of_true hisolated (.inl huses), fun _ => hisolated⟩

/-- A script that is asked for the value with the name that a variable holds. -/
theorem run_isolated_script :
    ∃ (ctx : Transform.Context) (page : Page) (q : Query) (es : List Event),
      Query.parse "template:1+1?transform=jseval:${x}" = .ok q ∧
      ((run ctx q page.root [("x", .text "a")]).exec {}).2.events = es ∧
      es = [.reset, .call "1+1" (some ["a"])] ∧
      (∀ seg ∈ q.segments, ∀ spec ∈ seg.transforms.transform, Template.isNamed spec = true) ∧
      Isolated es := by
  let page : Page := ⟨"https://a.org/p", ⟨.element "html" [] [], []⟩, .null⟩
  let ctx : Transform.Context := { sandbox := some ⟨fun _ _ => .ok (.int 2)⟩ }
  let q : Query := ⟨[[⟨.template, "1+1", [], { transform := ["jseval:${x}"] }, true, false,
    "template:1+1?transform=jseval:${x}"⟩]], "template:1+1?transform=jseval:${x}"⟩
  have hevents : ((run ctx q page.root [("x", .text "a")]).exec {}).2.events =
      [.reset, .call "1+1" (some ["a"])] := rfl
  have hnamed : ∀ seg ∈ q.segments, ∀ spec ∈ seg.transforms.transform,
      Template.isNamed spec = true := by decide
  obtain ⟨es, hes, -, -, hisolated⟩ := run_isolated ctx q page.root [("x", .text "a")] {}
  rw [hevents] at hes
  have hadded : [.reset, .call "1+1" (some ["a"])] = es := hes
  exact ⟨ctx, page, q, es, rfl, hevents.trans hadded, hadded.symm, hnamed, hisolated hnamed⟩

/-- A script that comes out of a placeholder is run in a sandbox that is not reset. -/
theorem run_not_isolated :
    ∃ (ctx : Transform.Context) (page : Page) (q : Query),
      Query.parse "template:s?transform=${t}" = .ok q ∧
      ((run ctx q page.root [("t", .text "jseval")]).exec {}).2.events = [.call "s" none] ∧
      ¬ Isolated [.call "s" none] := by
  let page : Page := ⟨"https://a.org/p", ⟨.element "html" [] [], []⟩, .null⟩
  let ctx : Transform.Context := { sandbox := some ⟨fun _ _ => .ok (.map [(.text "a", .int 7)])⟩ }
  let q : Query := ⟨[[⟨.template, "s", [], { transform := ["${t}"] }, true, false,
    "template:s?transform=${t}"⟩]], "template:s?transform=${t}"⟩
  have hevents : ((run ctx q page.root [("t", .text "jseval")]).exec {}).2.events =
      [.call "s" none] := rfl
  refine ⟨ctx, page, q, rfl, hevents, fun h => ?_⟩
  have hmem : .reset ∈ ([] : List Event) := h.before rfl
  cases hmem

end PageQuery.Execution
