import PageQuery.Execution
import PageQuery.Proofs.Value.Data

namespace PageQuery

/-!
# Laws of results

* `Results.opened_singleton`, `Results.opened_ne_list`: what opening discarded values changes;
* `Results.simplified_eq_list`: when results are returned as a list;
* `Outcome.map_value_nodes`: results as parts of a page.
-/

namespace Results

/-- Opening a value that is not discarded leaves it as it is. -/
theorem opened_singleton {v : Value} (h : ∀ w, v ≠ .discarded w) : opened [v] = [v] := by
  cases v with
  | discarded w => exact absurd rfl (h w)
  | _ => rfl

/-- Opening a discarded value changes it. -/
theorem discarded_ne_opened (v : Value) : [.discarded v] ≠ opened [.discarded v] := by
  intro h
  have hsize := congrArg sizeOf (List.head_eq_of_cons_eq h)
  simp at hsize

/-- A list is not all that opening its items gives. -/
theorem opened_ne_list (vs : List Value) : opened vs ≠ [.list vs] := by
  intro h
  obtain ⟨v, rfl, hv⟩ := List.map_eq_singleton_iff.1 h
  have hsize := congrArg sizeOf hv
  split at hsize <;> simp at hsize <;> omega

/-- Two or more results are returned as a list. -/
theorem simplified_eq_list {rs : Results} (h : 2 ≤ rs.length) : simplified rs = .list rs := by
  match rs with
  | _ :: _ :: _ => rfl

end Results

/-- The values of the parts of the page that a query has found are its results. -/
theorem Outcome.map_value_nodes (o : Outcome) : o.nodes.map Node.value = o.results := by
  rw [nodes, List.map_map, List.map_congr_left (g := id) ?_, List.map_id]
  intro v _
  cases v <;> rfl

end PageQuery
