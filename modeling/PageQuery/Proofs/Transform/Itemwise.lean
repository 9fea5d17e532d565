import Mathlib.Data.List.Forall2
import PageQuery.Proofs.Execution.Confined
import PageQuery.Proofs.Transform.Filters

namespace PageQuery

/-!
# Lists item by item

Transforms, updates and filters go over a list one after the other, each over all items. What an item becomes is
decided by the item alone all the same, so that a list may be cut in two, and its parts put together again afterwards.

* `Transform.Itemwise`: a computation that makes of a list what it makes of the parts, one behind the other;
* `Transform.itemwise_of_row`: what is itemwise by what it does to a row of items;
* `Transform.itemwise_bind`, `Transform.itemwise_foldlM`: itemwise computations in a row;
* `Transform.Itemwise.makesList_iff`: what an itemwise computation makes of the items one by one;
* `Transform.applyPipeline_append`: pipelines of transforms, updates and filters.
-/

open Run

namespace Transform

variable {f g : Value → Run Value} {vs ws us : List Value}

/-- Of one list a computation makes another. -/
def MakesList (f : Value → Run Value) (vs ws : List Value) : Prop := (f (.list vs)).outcome = .ok (.list ws)

/-- What is made of a list is a list: what is made of its parts, one behind the other. It is no longer than the list. -/
structure Itemwise (f : Value → Run Value) : Prop where
  blind : ∀ v, Blind (f v)
  list : ∀ {vs r}, (f (.list vs)).outcome = .ok r → ∃ ws, r = .list ws
  nil : MakesList f [] []
  append : ∀ {vs ws us}, MakesList f (vs ++ ws) us ↔
    ∃ vs' ws', MakesList f vs vs' ∧ MakesList f ws ws' ∧ us = vs' ++ ws'
  length_le : ∀ {vs ws}, MakesList f vs ws → ws.length ≤ vs.length

/-- A row of items is all that a computation looks at in a list. -/
theorem itemwise_of_row (row : List Value → Except Fault (List Value)) (hblind : ∀ v, Blind (f v))
    (hf : ∀ vs, (f (.list vs)).outcome = (row vs).map .list) (hnil : row [] = .ok [])
    (happend : ∀ vs ws, row (vs ++ ws) = do return (← row vs) ++ (← row ws))
    (hlength : ∀ vs ws, row vs = .ok ws → ws.length ≤ vs.length) : Itemwise f := by
  have hmakes : ∀ {vs ws}, MakesList f vs ws ↔ row vs = .ok ws := by
    intro vs ws
    rw [MakesList, hf, map_eq_ok_iff]
    simp
  refine ⟨hblind, fun h => ?_, hmakes.2 hnil, fun {vs ws us} => ?_, fun {vs ws} h => hlength vs ws (hmakes.1 h)⟩
  · rw [hf, map_eq_ok_iff] at h
    obtain ⟨ws, -, rfl⟩ := h
    exact ⟨ws, rfl⟩
  · simp only [hmakes, happend, bind_eq_ok_iff]
    constructor
    · rintro ⟨vs', hvs, ws', hws, h⟩
      exact ⟨vs', ws', hvs, hws, (Except.ok.inj h).symm⟩
    · rintro ⟨vs', ws', hvs, hws, rfl⟩
      exact ⟨vs', hvs, ws', hws, rfl⟩

/-! ### Computations in a row -/

/-- Of a list the second of two computations makes a list if the first does, and it of that one. -/
theorem makesList_bind_iff (hf : Itemwise f) (hg : Itemwise g) :
    MakesList (fun v => f v >>= g) vs us ↔ ∃ ws, MakesList f vs ws ∧ MakesList g ws us := by
  rw [MakesList, outcome_bind _ hg.blind, bind_eq_ok_iff]
  constructor
  · rintro ⟨w, hw, hus⟩
    obtain ⟨ws, rfl⟩ := hf.list hw
    exact ⟨ws, hw, hus⟩
  · rintro ⟨ws, hws, hus⟩
    exact ⟨.list ws, hws, hus⟩

theorem itemwise_pure : Itemwise pure :=
  itemwise_of_row pure (fun v => blind_pure v) (fun _ => rfl) rfl (fun _ _ => rfl) fun _ _ h =>
    Nat.le_of_eq (congrArg List.length (Except.ok.inj h).symm)

theorem itemwise_bind (hf : Itemwise f) (hg : Itemwise g) : Itemwise fun v => f v >>= g where
  blind := fun v => blind_bind (hf.blind v) hg.blind
  list := by
    intro vs r hr
    rw [outcome_bind _ hg.blind, bind_eq_ok_iff] at hr
    obtain ⟨w, hw, hr⟩ := hr
    obtain ⟨ws, rfl⟩ := hf.list hw
    exact hg.list hr
  nil := (makesList_bind_iff hf hg).2 ⟨[], hf.nil, hg.nil⟩
  append := by
    intro vs ws us
    simp only [makesList_bind_iff hf hg, hf.append]
    constructor
    · rintro ⟨_, ⟨vs', ws', hvs, hws, rfl⟩, hus⟩
      obtain ⟨vs'', ws'', hvs', hws', rfl⟩ := hg.append.1 hus
      exact ⟨vs'', ws'', ⟨vs', hvs, hvs'⟩, ⟨ws', hws, hws'⟩, rfl⟩
    · rintro ⟨vs'', ws'', ⟨vs', hvs, hvs'⟩, ⟨ws', hws, hws'⟩, rfl⟩
      exact ⟨vs' ++ ws', ⟨vs', ws', hvs, hws, rfl⟩, hg.append.2 ⟨vs'', ws'', hvs', hws', rfl⟩⟩
  length_le := by
    intro vs us h
    obtain ⟨ws, hws, hus⟩ := (makesList_bind_iff hf hg).1 h
    exact Nat.le_trans (hg.length_le hus) (hf.length_le hws)

/-- Entries that are itemwise are so one after the other. -/
theorem itemwise_foldlM {f : Value → Text → Run Value} (hf : ∀ spec, Itemwise fun v => f v spec)
    (specs : List Text) : Itemwise (specs.foldlM f) := by
  induction specs with
  | nil => exact itemwise_pure
  | cons spec specs ih => exact itemwise_bind (hf spec) ih

/-! ### The entries of a pipeline -/

/-- What is done to each item of a list does not look at the others. -/
theorem itemwise_each (hf : ∀ v, Blind (f v)) : Itemwise (each f) := by
  refine itemwise_of_row (fun vs => vs.mapM fun v => (f v).outcome) (blind_each hf) (fun vs => ?_) rfl
    (fun vs ws => ?_) fun vs ws h => Nat.le_of_eq (length_of_mapM_eq_ok h).symm
  · rw [each, outcome_bind _ fun _ => blind_pure _, outcome_mapM fun v _ => hf v]
    rfl
  · exact List.mapM_append

theorem itemwise_dropInvalid : Itemwise fun v => pure (dropInvalid v) := by
  refine itemwise_of_row (fun vs => pure (vs.filter Value.isValid)) (fun _ => blind_pure _) (fun _ => rfl) rfl
    (fun vs ws => ?_) fun vs ws h => ?_
  · rw [List.filter_append]
    rfl
  · rw [← Except.ok.inj h]
    exact List.length_filter_le _ vs

/-- The items of an appended list that pass are those of both parts. -/
theorem keepPassing_append (cs : List Text) (vs ws : List Value) :
    keepPassing cs (vs ++ ws) = do return (← keepPassing cs vs) ++ (← keepPassing cs ws) := by
  induction vs with
  | nil => exact (bind_pure (keepPassing cs ws)).symm
  | cons v vs ih =>
    rw [List.cons_append, keepPassing, keepPassing, ih]
    split
    · rfl
    · cases passes cs v with
      | error e => rfl
      | ok ok =>
        cases keepPassing cs vs with
        | error e => rfl
        | ok kept => cases keepPassing cs ws <;> cases ok <;> rfl

theorem itemwise_applyFilter (spec : Text) :
    Itemwise fun v => Run.of ((applyFilter v spec).mapError .ofRender) := by
  by_cases hcs : parseFilter spec = []
  · -- without conditions nothing is done
    have hpure : (fun v => Run.of ((applyFilter v spec).mapError .ofRender)) = pure := by
      funext v
      rw [applyFilter_eq_sift, hcs, sift_nil]
      rfl
    rw [hpure]
    exact itemwise_pure
  refine itemwise_of_row (fun vs => (keepPassing (parseFilter spec) vs).mapError .ofRender) (fun _ => blind_of _)
    (fun vs => ?_) rfl (fun vs ws => ?_) fun vs ws h => ?_
  · show (applyFilter (.list vs) spec).mapError Fault.ofRender = _
    rw [applyFilter_eq_sift, sift_list hcs]
    cases keepPassing (parseFilter spec) vs <;> rfl
  · rw [keepPassing_append]
    cases keepPassing (parseFilter spec) vs with
    | error e => rfl
    | ok kept => cases keepPassing (parseFilter spec) ws <;> rfl
  · have hends := ends_keepPassing_sublist (parseFilter spec) vs
    rw [mapError_eq_ok_iff.1 h] at hends
    exact hends.length_le

theorem itemwise_applyStages (ctx : Context) (transforms updates filters : List Text) :
    Itemwise (applyStages ctx { transform := transforms, update := updates, filter := filters }) := by
  have hupdate : ∀ v spec, Blind (applyUpdate v spec) := fun v spec =>
    (confined_applyUpdate (A := fun _ => True) v spec).blind
  -- items that are invalid are dropped after each transform, before the next one sees the list
  refine itemwise_bind (itemwise_foldlM (fun spec => ?_) transforms) ?_
  · exact itemwise_bind (itemwise_each fun v => blind_applyTransform ctx v spec) itemwise_dropInvalid
  refine itemwise_bind (itemwise_foldlM (fun spec => itemwise_each fun v => hupdate v spec) updates) ?_
  exact itemwise_bind (itemwise_foldlM itemwise_applyFilter filters) itemwise_pure

/-! ### Whole lists -/

/-- What is made of a list is what is made of its items one by one, each of which becomes one item or none. -/
theorem Itemwise.makesList_iff (hf : Itemwise f) :
    MakesList f vs us ↔ ∃ pieces, List.Forall₂ (fun v ws => MakesList f [v] ws ∧ ws.length ≤ 1) vs pieces ∧
      us = pieces.flatten := by
  induction vs generalizing us with
  | nil =>
    constructor
    · intro h
      obtain rfl : us = [] := List.length_eq_zero_iff.1 (Nat.le_zero.1 (hf.length_le h))
      exact ⟨[], .nil, rfl⟩
    · rintro ⟨_, hpieces, rfl⟩
      cases hpieces
      exact hf.nil
  | cons v vs ih =>
    -- the first item is a list alone, with the others behind it
    rw [← List.singleton_append, hf.append]
    simp only [ih]
    constructor
    · rintro ⟨ws, _, hws, ⟨pieces, hpieces, rfl⟩, rfl⟩
      exact ⟨ws :: pieces, .cons ⟨hws, hf.length_le hws⟩ hpieces, rfl⟩
    · rintro ⟨_, hpieces, rfl⟩
      cases hpieces with
      | cons hws hpieces => exact ⟨_, _, hws.1, ⟨_, hpieces, rfl⟩, rfl⟩

/-- A pipeline that saves nothing makes a list of a list if its stages do. -/
theorem applyPipeline_list_iff {ctx : Context} {ts : Query.Transforms} (hts : Itemwise (applyStages ctx ts))
    (hsave : ts.save = []) {env : Environment} {s : Session} {r : Value × Environment} :
    ((applyPipeline ctx ts env (.list vs)).exec s).1 = .ok r ↔
      ∃ us, MakesList (applyStages ctx ts) vs us ∧ r = (.list us, env) := by
  have hlist : ∀ us, saveAndKeep ts env (.list us) = (.list us, env) := by
    intro us
    simp [saveAndKeep, saveNames, hsave, Value.isNull]
  have hblind : Blind (applyPipeline ctx ts env (.list vs)) := blind_bind (hts.blind _) fun _ => blind_pure _
  rw [hblind.exec_fst, applyPipeline, outcome_bind _ fun _ => blind_pure _, bind_eq_ok_iff]
  constructor
  · rintro ⟨w, hw, h⟩
    obtain ⟨us, rfl⟩ := hts.list hw
    exact ⟨us, hw, (hlist us) ▸ (Except.ok.inj h).symm⟩
  · rintro ⟨us, hus, rfl⟩
    exact ⟨.list us, hus, congrArg Except.ok (hlist us)⟩

/-- A pipeline of transforms, updates and filters alone makes of the empty list the empty list, and of two lists, one
    behind the other, what it makes of both: it gives a value for them together exactly if it does for each of them. So
    it does for the items of a list one by one, each of which becomes one item or none, in the order of the list. The
    environment stays as it is. -/
theorem applyPipeline_append (ctx : Context) (transforms updates filters : List Text) (env : Environment)
    (s : Session) :
    let pipeline := fun vs => ((applyPipeline ctx { transform := transforms, update := updates, filter := filters }
      env (.list vs)).exec s).1
    pipeline [] = .ok (.list [], env) ∧
      (∀ vs ws r, pipeline (vs ++ ws) = .ok r ↔
        ∃ vs' ws', pipeline vs = .ok (.list vs', env) ∧ pipeline ws = .ok (.list ws', env) ∧
          r = (.list (vs' ++ ws'), env)) ∧
      ∀ vs r, pipeline vs = .ok r ↔
        ∃ pieces, List.Forall₂ (fun v ws => pipeline [v] = .ok (.list ws, env) ∧ ws.length ≤ 1) vs pieces ∧
          r = (.list pieces.flatten, env) := by
  intro pipeline
  have hitemwise := itemwise_applyStages ctx transforms updates filters
  have hpipeline : ∀ {vs r}, pipeline vs = .ok r ↔
      ∃ us, MakesList (applyStages ctx { transform := transforms, update := updates, filter := filters }) vs us ∧
        r = (.list us, env) := applyPipeline_list_iff hitemwise rfl
  have hmakes : ∀ {vs us}, pipeline vs = .ok (.list us, env) ↔
      MakesList (applyStages ctx { transform := transforms, update := updates, filter := filters }) vs us := by
    intro vs us
    simp [hpipeline]
  refine ⟨hmakes.2 hitemwise.nil, fun vs ws r => ?_, fun vs r => ?_⟩
  · simp only [hmakes]
    rw [hpipeline]
    constructor
    · rintro ⟨us, hus, rfl⟩
      obtain ⟨vs', ws', hvs, hws, rfl⟩ := hitemwise.append.1 hus
      exact ⟨vs', ws', hvs, hws, rfl⟩
    · rintro ⟨vs', ws', hvs, hws, rfl⟩
      exact ⟨vs' ++ ws', hitemwise.append.2 ⟨vs', ws', hvs, hws, rfl⟩, rfl⟩
  · simp only [hmakes]
    rw [hpipeline]
    constructor
    · rintro ⟨us, hus, rfl⟩
      obtain ⟨pieces, hpieces, rfl⟩ := hitemwise.makesList_iff.1 hus
      exact ⟨pieces, hpieces, rfl⟩
    · rintro ⟨pieces, hpieces, rfl⟩
      exact ⟨pieces.flatten, hitemwise.makesList_iff.2 ⟨pieces, hpieces, rfl⟩, rfl⟩

/-- An item that is blank is dropped by the transform, and one by the filter; the others stay in their order. -/
example :
    ((applyPipeline {} { transform := ["reverse"], filter := ["!b"] } []
      (.list [.text "xa", .text " ", .text "b", .text "yz"])).exec {}).1.toOption.map (·.1) =
      some (.list [.text "ax", .text "zy"]) := rfl

end Transform

end PageQuery
