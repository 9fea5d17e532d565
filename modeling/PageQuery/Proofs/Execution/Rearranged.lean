import PageQuery.Proofs.Execution.Confined
import PageQuery.Proofs.Query.Gathering

namespace PageQuery.Execution

/-!
# Parameters in another order

Two texts with the same scheme, the same path and the same pairs, of which those with one name are in the same order,
give the same segment but for the order of its parameters. Only an address looks at these: any other segment fills
them, and finds what its path and its transforms find.

* `resolve_of_ne_url`: the matches of a path that is no address;
* `outcome_runSegment_eq_ok_iff`: when a segment that is no address finds something, and what;
* `rearranged_segments`: what does not depend on the order of the parameters.
-/

open Query (Scheme Segment Rearranged Spells)
open Run

variable {ctx : Transform.Context}

/-- Only an address is made of parameters. -/
theorem resolve_of_ne_url {scheme : Scheme} (h : scheme ≠ .url) (n : Node) (path : Text)
    (parameters parameters' : Ordered (List Text)) :
    resolve scheme n path parameters = resolve scheme n path parameters' := by
  cases scheme with
  | url => exact absurd rfl h
  | html => rfl
  | json => rfl
  | template => rfl

/-- What a segment that is no address finds when its path has been filled depends on its scheme and its transforms
    alone. -/
theorem runFilled_congr {s₁ s₂ : Segment} (hscheme : s₁.scheme = s₂.scheme)
    (htransforms : s₁.transforms = s₂.transforms) (hurl : s₁.scheme ≠ .url) (n : Node) (env : Environment)
    (path : Text) (parameters parameters' : Ordered (List Text)) :
    runFilled ctx s₁ n env path parameters = runFilled ctx s₂ n env path parameters' := by
  unfold runFilled
  rw [resolve_of_ne_url hurl n path parameters parameters', hscheme, htransforms]

/-- The parameters of a segment that is no address are filled, and no more is done with them. -/
theorem outcome_runSegment_eq_ok_iff {s : Segment} (hurl : s.scheme ≠ .url) (n : Node) (env : Environment)
    (found : Results × Environment) :
    (runSegment ctx s n env).outcome = .ok found ↔
      (∀ e ∈ s.parameters, ∃ e', (fillParameter env e).outcome = .ok e') ∧
        ∃ path, (fill env s.path).outcome = .ok path ∧ (runFilled ctx s n env path []).outcome = .ok found := by
  have hparameters : ∀ e ∈ s.parameters, Blind (fillParameter env e) := fun e _ => blind_fillParameter env e
  have hrest : ∀ path, Blind (s.parameters.mapM (fillParameter env) >>= runFilled ctx s n env path) := fun path =>
    blind_bind (blind_mapM hparameters) fun _ => blind_runFilled _ _ _ _ _ _
  rw [runSegment_eq_runFilled, outcome_bind _ hrest, bind_eq_ok_iff, ← exists_outcome_mapM_iff hparameters]
  -- the parameters are filled before the rest, which does not look at them
  constructor
  · rintro ⟨path, hpath, h⟩
    rw [outcome_bind _ fun _ => blind_runFilled _ _ _ _ _ _] at h
    obtain ⟨parameters, hfilled, h⟩ := bind_eq_ok_iff.1 h
    rw [runFilled_congr rfl rfl hurl n env path parameters []] at h
    exact ⟨⟨parameters, hfilled⟩, path, hpath, h⟩
  · rintro ⟨⟨parameters, hfilled⟩, path, hpath, h⟩
    refine ⟨path, hpath, ?_⟩
    rw [outcome_bind _ fun _ => blind_runFilled _ _ _ _ _ _]
    refine bind_eq_ok_iff.2 ⟨parameters, hfilled, ?_⟩
    rw [runFilled_congr rfl rfl hurl n env path parameters []]
    exact h

/-- Segments that differ in the order of their parameters, and are no addresses, find the same. -/
theorem outcome_runSegment_congr {s₁ s₂ : Segment} (htransforms : s₁.transforms = s₂.transforms)
    (hscheme : s₁.scheme = s₂.scheme) (hpath : s₁.path = s₂.path)
    (hparameters : ∀ e, e ∈ s₁.parameters ↔ e ∈ s₂.parameters) (hurl : s₁.scheme ≠ .url) (n : Node) (env : Environment) (found : Results × Environment) :
    (runSegment ctx s₁ n env).outcome = .ok found ↔ (runSegment ctx s₂ n env).outcome = .ok found := by
  rw [outcome_runSegment_eq_ok_iff hurl, outcome_runSegment_eq_ok_iff (hscheme ▸ hurl)]
  simp only [hparameters, hpath, runFilled_congr hscheme htransforms hurl n env _ [] []]

/-- Of two texts with the same scheme, the same path and the same pairs, of which those with one name are in the same
    order, both hold a question mark where it may not stand, or both give segments. These have the same transforms, in
    which the explicit ones come first and those of the short form behind them, and under every name the same
    parameters. Unless they are addresses, one finds something in an environment if and only if the other finds the
    same there and leaves the same environment. -/
theorem rearranged_segments {t₁ t₂ : Text} {scheme : Scheme} {path : Text} {ps qs : List (Text × Text)}
    (h₁ : Spells t₁ scheme path ps) (h₂ : Spells t₂ scheme path qs) (h : Rearranged ps qs) (required piped : Bool) :
    (Query.parseSegment t₁ required piped = .error (.repeatedMark t₁) ∧
      Query.parseSegment t₂ required piped = .error (.repeatedMark t₂)) ∨
    ∃ s₁ s₂, Query.parseSegment t₁ required piped = .ok s₁ ∧ Query.parseSegment t₂ required piped = .ok s₂ ∧
      s₁.transforms = s₂.transforms ∧
      s₁.transforms.transform =
        (Query.textsUnder "transform" ps).flatMap Query.splitTransforms ++
          ((Query.textsUnder "regexp" ps).flatMap Query.splitRegexps).map (Query.regexpMark ++ ·) ∧
      (∀ name, Ordered.get? s₁.parameters name = Ordered.get? s₂.parameters name) ∧
      (scheme ≠ .url → ∀ ctx n env session found,
        ((runSegment ctx s₁ n env).exec session).1 = .ok found ↔
          ((runSegment ctx s₂ n env).exec session).1 = .ok found) := by
  rw [Query.parseSegment_of_spells h₁, Query.parseSegment_of_spells h₂, ← h.any_eq]
  by_cases hmark : (ps.any fun p => Query.hasStrayMark p.1 p.2) = true
  · rw [if_pos hmark, if_pos hmark]
    exact .inl ⟨rfl, rfl⟩
  · rw [if_neg hmark, if_neg hmark]
    have htransforms := h.transforms_segmentOf t₁ t₂ scheme path required piped
    have hparameters := h.get?_parameters t₁ t₂ scheme path required piped
    refine .inr ⟨_, _, rfl, rfl, htransforms, Query.transform_gathered ps, hparameters, ?_⟩
    intro hurl ctx n env session found
    rw [(blind_runSegment _ _ _ _).exec_fst, (blind_runSegment _ _ _ _).exec_fst]
    have hmem := h.mem_parameters_iff t₁ t₂ scheme path required piped
    exact outcome_runSegment_congr htransforms rfl rfl hmem hurl n env found

/-- Two entries of a transform and two values of a parameter, between which others stand in another order. -/
theorem rearranged_segments_template :
    ∃ s₁ s₂,
      Query.parseSegment "template:x?transform=lower&regexp=/a/&n=1&transform=upper&n=2" true false = .ok s₁ ∧
      Query.parseSegment "template:x?n=1&regexp=/a/&transform=lower&n=2&transform=upper" true false = .ok s₂ ∧
      s₁.transforms = s₂.transforms ∧ s₁.transforms.transform = (["lower", "upper", "regexp:/a/"] : List Text) ∧
      (∀ name, Ordered.get? s₁.parameters name = Ordered.get? s₂.parameters name) ∧
      ∀ ctx n env session found, ((runSegment ctx s₁ n env).exec session).1 = .ok found ↔
        ((runSegment ctx s₂ n env).exec session).1 = .ok found := by
  have h₁ : Spells "template:x?transform=lower&regexp=/a/&n=1&transform=upper&n=2" .template "x"
      [("transform", "lower"), ("regexp", "/a/"), ("n", "1"), ("transform", "upper"), ("n", "2")] :=
    ⟨_, _, _, rfl, rfl, rfl, rfl⟩
  have h₂ : Spells "template:x?n=1&regexp=/a/&transform=lower&n=2&transform=upper" .template "x"
      [("n", "1"), ("regexp", "/a/"), ("transform", "lower"), ("n", "2"), ("transform", "upper")] :=
    ⟨_, _, _, rfl, rfl, rfl, rfl⟩
  have h : Rearranged
      [("transform", "lower"), ("regexp", "/a/"), ("n", "1"), ("transform", "upper"), ("n", "2")]
      [("n", "1"), ("regexp", "/a/"), ("transform", "lower"), ("n", "2"), ("transform", "upper")] :=
    ⟨by decide, by decide⟩
  rcases rearranged_segments h₁ h₂ h true false with
    ⟨herror, -⟩ | ⟨s₁, s₂, hs₁, hs₂, htransforms, htransform, hparameters, hrun⟩
  · -- no question mark stands in these parameters
    rw [Query.parseSegment_of_spells h₁] at herror
    cases herror
  · exact ⟨s₁, s₂, hs₁, hs₂, htransforms, htransform.trans rfl, hparameters, hrun nofun⟩

end PageQuery.Execution
