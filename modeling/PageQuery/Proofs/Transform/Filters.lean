import PageQuery.Proofs.Except
import PageQuery.Proofs.Query.Items
import PageQuery.Proofs.Value.Data
import PageQuery.Transform.Selection

namespace PageQuery.Transform

/-!
# Filters in a row

A filter keeps the values whose texts meet all of its conditions. Each condition is met or not met by a text alone, so
that filters in a row keep what meets the conditions of all of them, in whatever order they stand and however often.

* `sift`: a filter whose conditions have been read;
* `sift_bind`: two filters in a row are one with the conditions of both;
* `parseFilter_append`: the conditions of both stand in one filter behind each other;
* `ends_sift_list`: a filter keeps items of a list in their order, unless one of them has no text;
* `ends_applyFilter`: what a filter leaves of a value;
* `filters_compose`: filters in another order, in one text, and repeated.
-/

variable {cs ds : List Text}

/-! ### Conditions -/

/-- Conditions that the same texts meet are met by the same values. -/
theorem passes_congr (h : ∀ t, cs.all (meets t) = ds.all (meets t)) : passes cs = passes ds := by
  funext v
  unfold passes
  simp only [h]

/-- The text of a value decides what it passes. -/
theorem passes_of_ok {v : Value} {t : Text} (ht : v.render = .ok t) : passes cs v = .ok (cs.all (meets t)) := by
  rw [passes, ht]
  rfl

theorem passes_of_error {v : Value} {e : RenderError} (he : v.render = .error e) : passes cs v = .error e := by
  rw [passes, he]
  rfl

/-! ### Items -/

theorem keepPassing_congr (h : passes cs = passes ds) (vs : List Value) : keepPassing cs vs = keepPassing ds vs := by
  induction vs with
  | nil => rfl
  | cons v vs ih => rw [keepPassing, keepPassing, h, ih]

/-- Items that some conditions have kept are asked for others as if all had been asked at once. -/
theorem keepPassing_bind (cs ds : List Text) (vs : List Value) :
    (keepPassing cs vs >>= keepPassing ds) = keepPassing (cs ++ ds) vs := by
  induction vs with
  | nil => rfl
  | cons v vs ih =>
    rw [keepPassing, keepPassing]
    by_cases hnull : v.isNull = true
    · rw [if_pos hnull, if_pos hnull]
      exact ih
    rw [if_neg hnull, if_neg hnull, ← ih]
    cases hv : v.render with
    | error e =>
      rw [passes_of_error hv, passes_of_error hv]
      rfl
    | ok t =>
      rw [passes_of_ok hv, passes_of_ok hv, List.all_append]
      cases keepPassing cs vs with
      | error e => rfl
      | ok kept =>
        cases hcs : cs.all (meets t) with
        | false => exact (bind_pure (keepPassing ds kept)).symm
        | true =>
          -- the item is kept by the first conditions, and the others are asked
          show keepPassing ds (v :: kept) = _
          rw [keepPassing, if_neg hnull, passes_of_ok hv]
          rfl

/-- A list ends up with some of its items, in their order, unless one of them has no text. -/
theorem ends_keepPassing_sublist (cs : List Text) (vs : List Value) :
    Ends (fun ws => ws.Sublist vs) (fun e => ∃ u ∈ vs, u.isNull = false ∧ u.render = .error e)
      (keepPassing cs vs) := by
  induction vs with
  | nil => exact List.Sublist.refl []
  | cons v vs ih =>
    have hrest : Ends (fun ws => ws.Sublist vs)
        (fun e => ∃ u ∈ v :: vs, u.isNull = false ∧ u.render = Except.error e) (keepPassing cs vs) :=
      ends_mono ih (fun _ h => h) fun _ ⟨u, hu, h⟩ => ⟨u, List.mem_cons_of_mem v hu, h⟩
    rw [keepPassing]
    split
    · exact ends_mono hrest (fun _ h => h.cons v) fun _ h => h
    · next hnull =>
      cases hv : v.render with
      | error e =>
        rw [passes_of_error hv]
        exact ⟨v, List.mem_cons_self, Bool.eq_false_iff.2 hnull, hv⟩
      | ok t =>
        rw [passes_of_ok hv]
        show Ends _ _ (keepPassing cs vs >>= fun kept => pure (if cs.all (meets t) then v :: kept else kept))
        refine ends_bind hrest fun kept hkept => ?_
        show List.Sublist (if cs.all (meets t) then v :: kept else kept) (v :: vs)
        split
        · exact hkept.cons_cons v
        · exact hkept.cons v

/-! ### Filters -/

/-- A filter whose conditions have been read. -/
def sift (v : Value) (conditions : List Text) : Except RenderError Value :=
  if v.isNull then .ok .null
  else if conditions.isEmpty then .ok v
  else match v with
    | .list items => (keepPassing conditions items).map .list
    | v => do return if ← passes conditions v then v else .null

theorem applyFilter_eq_sift (v : Value) (spec : Text) : applyFilter v spec = sift v (parseFilter spec) := rfl

theorem sift_null (cs : List Text) : sift .null cs = .ok .null := rfl

/-- Without conditions everything stays as it is. -/
theorem sift_nil (v : Value) : sift v [] = .ok v := by
  unfold sift
  split
  · next hnull => rw [Value.isNull_iff.1 hnull]
  · rfl

theorem sift_list (hcs : cs ≠ []) (vs : List Value) : sift (.list vs) cs = (keepPassing cs vs).map .list := by
  unfold sift
  rw [if_neg (by simp [Value.isNull]), if_neg (by simpa using hcs)]

/-- A value that is no list stays if it passes. -/
theorem sift_of_ne_list (hcs : cs ≠ []) {v : Value} (hnull : v.isNull = false) (hlist : ∀ vs, v ≠ .list vs) :
    sift v cs = (passes cs v).map fun ok => if ok then v else .null := by
  unfold sift
  rw [hnull, if_neg Bool.false_ne_true, if_neg (by simpa using hcs)]
  split
  · next vs => exact absurd rfl (hlist vs)
  · rfl

/-- Conditions that the same texts meet sift alike, if there are any. -/
theorem sift_congr (hcs : cs ≠ []) (hds : ds ≠ []) (h : ∀ t, cs.all (meets t) = ds.all (meets t)) (v : Value) :
    sift v cs = sift v ds := by
  have hpasses := passes_congr h
  by_cases hnull : v.isNull = true
  · rw [Value.isNull_iff.1 hnull, sift_null, sift_null]
  cases v with
  | list vs => rw [sift_list hcs, sift_list hds, keepPassing_congr hpasses]
  | _ =>
    rw [sift_of_ne_list hcs (Bool.eq_false_iff.2 hnull) nofun, sift_of_ne_list hds (Bool.eq_false_iff.2 hnull) nofun,
      hpasses]

theorem sift_bind_of_ne_list (hcs : cs ≠ []) (hds : ds ≠ []) {v : Value} (hnull : v.isNull = false)
    (hlist : ∀ vs, v ≠ .list vs) : (sift v cs >>= fun w => sift w ds) = sift v (cs ++ ds) := by
  have happend : cs ++ ds ≠ [] := by simp [hcs]
  rw [sift_of_ne_list hcs hnull hlist, sift_of_ne_list happend hnull hlist]
  cases hv : v.render with
  | error e =>
    rw [passes_of_error hv, passes_of_error hv]
    rfl
  | ok t =>
    rw [passes_of_ok hv, passes_of_ok hv, List.all_append]
    cases cs.all (meets t) with
    | false => rfl
    | true =>
      -- the value passes the first filter, and is asked for the second
      show sift v ds = _
      rw [sift_of_ne_list hds hnull hlist, passes_of_ok hv, Bool.true_and]

/-- Two filters in a row are one with the conditions of both, also in what they fail with. -/
theorem sift_bind (v : Value) (cs ds : List Text) : (sift v cs >>= fun w => sift w ds) = sift v (cs ++ ds) := by
  by_cases hcs : cs = []
  · rw [hcs, sift_nil]
    rfl
  by_cases hds : ds = []
  · simp only [hds, sift_nil, List.append_nil]
    exact bind_pure (sift v cs)
  have happend : cs ++ ds ≠ [] := by simp [hcs]
  by_cases hnull : v.isNull = true
  · rw [Value.isNull_iff.1 hnull]
    rfl
  cases v with
  | list vs =>
    rw [sift_list hcs, sift_list happend, ← keepPassing_bind]
    cases keepPassing cs vs with
    | error e => rfl
    | ok kept => exact sift_list hds kept
  | _ => exact sift_bind_of_ne_list hcs hds (Bool.eq_false_iff.2 hnull) nofun

/-- The same texts meet conditions in another order. -/
theorem sift_append_comm (v : Value) (cs ds : List Text) : sift v (cs ++ ds) = sift v (ds ++ cs) := by
  by_cases hcs : cs = []
  · rw [hcs, List.nil_append, List.append_nil]
  refine sift_congr (by simp [hcs]) (by simp [hcs]) (fun t => ?_) v
  rw [List.all_append, List.all_append, Bool.and_comm]

/-- The same texts meet conditions that are repeated. -/
theorem sift_append_self (v : Value) (cs : List Text) : sift v (cs ++ cs) = sift v cs := by
  by_cases hcs : cs = []
  · rw [hcs, List.nil_append]
  refine sift_congr (by simp [hcs]) hcs (fun t => ?_) v
  rw [List.all_append, Bool.and_self]

/-- A filter makes a list of a list: of some of the items in their order, unless one of them has no text. -/
theorem ends_sift_list (cs : List Text) (vs : List Value) :
    Ends (fun w => ∃ ws, w = .list ws ∧ ws.Sublist vs) (fun e => ∃ u ∈ vs, u.isNull = false ∧ u.render = .error e)
      (sift (.list vs) cs) := by
  by_cases hcs : cs = []
  · rw [hcs, sift_nil]
    exact ⟨vs, rfl, List.Sublist.refl vs⟩
  · rw [sift_list hcs]
    exact ends_map (ends_mono (ends_keepPassing_sublist cs vs) (fun ws h => ⟨ws, rfl, h⟩) fun _ h => h)

/-- A filter leaves a value as it is, or nothing of it, or some of the items of a list in their order, unless the value
    or an item has no text. -/
theorem ends_applyFilter (v : Value) (spec : Text) :
    Ends (fun w => w = v ∨ w = .null ∨ ∃ vs ws, v = .list vs ∧ w = .list ws ∧ ws.Sublist vs)
      (fun e => ∃ u, (u = v ∨ ∃ vs, v = .list vs ∧ u ∈ vs) ∧ u.render = .error e) (applyFilter v spec) := by
  rw [applyFilter_eq_sift]
  by_cases hcs : parseFilter spec = []
  · rw [hcs, sift_nil]
    exact .inl rfl
  by_cases hnull : v.isNull = true
  · rw [Value.isNull_iff.1 hnull, sift_null]
    exact .inl rfl
  by_cases hlist : ∃ vs, v = .list vs
  · obtain ⟨vs, rfl⟩ := hlist
    refine ends_mono (ends_sift_list _ vs) ?_ ?_
    · rintro w ⟨ws, rfl, hws⟩
      exact .inr (.inr ⟨vs, ws, rfl, rfl, hws⟩)
    · rintro e ⟨u, hu, -, he⟩
      exact ⟨u, .inr ⟨vs, rfl, hu⟩, he⟩
  rw [sift_of_ne_list hcs (Bool.eq_false_iff.2 hnull) fun vs hv => hlist ⟨vs, hv⟩]
  cases hv : v.render with
  | error e =>
    rw [passes_of_error hv]
    exact ⟨v, .inl rfl, hv⟩
  | ok t =>
    rw [passes_of_ok hv]
    cases hall : (parseFilter spec).all (meets t) with
    | true => exact .inl rfl
    | false => exact .inr (.inl rfl)

/-! ### Conditions of two filters in one text -/

/-- The conditions of two texts that a space joins are those of both, unless a backslash takes the space. -/
theorem parseFilter_append {a : Text} (ha : a.getLast? ≠ some '\\') (b : Text) :
    parseFilter (a ++ ' ' :: b) = parseFilter a ++ parseFilter b := by
  have hsplit : Query.splitUnescaped ' ' (a ++ ' ' :: b) = Query.splitUnescaped ' ' a ++ Query.splitUnescaped ' ' b :=
    Query.splitUnescapedFrom_append (fun _ => rfl) ha b
  rw [parseFilter, hsplit, List.map_append, List.filter_append]
  rfl

/-- Two filters give the same in either order, and the same as one filter with the texts of both, if the first text
    does not end with a backslash, which would take the space between them. To filter again changes nothing. If values
    without a text make one of these fail, they make the other fail in the same way. A list is filtered to a list of
    some of its items in their order, unless an item has no text. -/
theorem filters_compose (a b : Text) (v : Value) :
    (do applyFilter (← applyFilter v a) b) = (do applyFilter (← applyFilter v b) a) ∧
      (a.getLast? ≠ some '\\' → (do applyFilter (← applyFilter v a) b) = applyFilter v (a ++ ' ' :: b)) ∧
      (do applyFilter (← applyFilter v a) a) = applyFilter v a ∧
      ∀ vs, v = .list vs →
        (∃ ws, applyFilter v a = .ok (.list ws) ∧ ws.Sublist vs) ∨
          ∃ u ∈ vs, ∃ e, u.isNull = false ∧ u.render = .error e ∧ applyFilter v a = .error e := by
  simp only [applyFilter_eq_sift, sift_bind]
  refine ⟨sift_append_comm v _ _, fun ha => ?_, sift_append_self v _, ?_⟩
  · rw [parseFilter_append ha]
  · rintro vs rfl
    have hends := ends_sift_list (parseFilter a) vs
    cases hsift : sift (.list vs) (parseFilter a) with
    | ok w =>
      rw [hsift] at hends
      obtain ⟨ws, rfl, hws⟩ := hends
      exact .inl ⟨ws, rfl, hws⟩
    | error e =>
      rw [hsift] at hends
      obtain ⟨u, hu, hnull, he⟩ := hends
      exact .inr ⟨u, hu, e, hnull, he, rfl⟩

/-- Two filters and the one with both texts; a blank one leaves null where it is. -/
theorem filters_compose_blank :
    ("apple".toList).getLast? ≠ some '\\' ∧
      applyFilter (.list [.text "apple pie", .null, .int 7, .text "apple tart"]) "apple !tart" =
        .ok (.list [.text "apple pie"]) ∧
      (do applyFilter (← applyFilter (.list [.text "apple pie", .null, .int 7, .text "apple tart"]) "apple") "!tart") =
        .ok (.list [.text "apple pie"]) ∧
      applyFilter (.list [.null]) " " = .ok (.list [.null]) := by
  have hlast : ("apple".toList).getLast? ≠ some '\\' := by decide
  have hfused : applyFilter (.list [.text "apple pie", .null, .int 7, .text "apple tart"]) "apple !tart" =
      .ok (.list [.text "apple pie"]) := rfl
  exact ⟨hlast, hfused, ((filters_compose "apple" "!tart" _).2.1 hlast).trans hfused, rfl⟩

end PageQuery.Transform
