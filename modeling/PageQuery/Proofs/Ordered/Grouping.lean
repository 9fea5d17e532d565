import PageQuery.Proofs.Environment

namespace PageQuery.Ordered

/-!
# Gathering pairs and overlaying entries

* `put_of_mem`, `put_of_notMem`: the entries after writing, where no name is repeated;
* `overlay_eq_append`: entries that are overlaid by others, entry by entry;
* `group_flatMap`: pairs that are gathered under their names again.
-/

variable {α : Type}

/-! ### Overlaying -/

theorem nodup_keys_put {m : Ordered α} (name : Text) (v : α) (h : (keys m).Nodup) : (keys (put name v m)).Nodup :=
  (extends_put name v m).nodup h

/-- Under an old name the value is exchanged. -/
theorem put_of_mem {m : Ordered α} {name : Text} (v : α) (hn : (keys m).Nodup) (h : name ∈ keys m) :
    put name v m = m.map fun e => if e.1 = name then (e.1, v) else e := by
  induction m with
  | nil => cases h
  | cons e m ih =>
    rcases e with ⟨key, old⟩
    obtain ⟨hkey, hn⟩ := List.nodup_cons.1 hn
    rw [put, List.map_cons]
    by_cases hname : key = name
    · -- no other entry has the name
      have hrest : m.map (fun e => if e.1 = name then (e.1, v) else e) = m := by
        refine (List.map_congr_left fun e he => ?_).trans (List.map_id m)
        have hne : e.1 ≠ name := fun heq => hkey (List.mem_map.2 ⟨e, he, heq.trans hname.symm⟩)
        exact if_neg hne
      rw [if_pos hname, if_pos hname, hrest]
    · rw [if_neg hname, if_neg hname, ih hn ((List.mem_cons.1 h).resolve_left fun heq => hname heq.symm)]

/-- Behind entries that do not have the name, writing goes on. -/
theorem put_append {m : Ordered α} {name : Text} (v : α) (h : name ∉ keys m) (m' : Ordered α) :
    put name v (m ++ m') = m ++ put name v m' := by
  induction m with
  | nil => rfl
  | cons e m ih =>
    obtain ⟨hkey, hm⟩ := not_or.1 (mt List.mem_cons.2 h)
    rw [List.cons_append, put, if_neg fun heq => hkey heq.symm, ih hm, List.cons_append]

/-- Under a new name the value comes last. -/
theorem put_of_notMem {m : Ordered α} {name : Text} (v : α) (h : name ∉ keys m) : put name v m = m ++ [(name, v)] := by
  have hlast := put_append v h []
  rwa [List.append_nil] at hlast

theorem get?_eq_none_iff {m : Ordered α} {name : Text} : get? m name = none ↔ name ∉ keys m := by
  rw [← isSome_get?_iff]
  cases get? m name <;> simp

/-- The old entries stay in their places, with the values that are written over theirs, and the new ones come behind
    them in their own order. -/
theorem overlay_eq_append {m changes : Ordered α} (hm : (keys m).Nodup) (hchanges : (keys changes).Nodup) :
    overlay m changes =
      m.map (fun e => (e.1, (get? changes e.1).getD e.2)) ++ changes.filter fun e => !contains m e.1 := by
  induction changes generalizing m with
  | nil =>
    have hmap : m.map (fun e => (e.1, (get? ([] : Ordered α) e.1).getD e.2)) = m :=
      (List.map_congr_left fun e _ => rfl).trans (List.map_id m)
    rw [hmap, List.filter_nil, List.append_nil]
    rfl
  | cons p changes ih =>
    rcases p with ⟨name, v⟩
    obtain ⟨hname, hchanges⟩ := List.nodup_cons.1 hchanges
    have hnone : get? changes name = none := get?_eq_none_iff.2 hname
    -- none of the entries that are still to be written has the name that is written first
    have hold : changes.filter (fun e => !contains (put name v m) e.1) = changes.filter fun e => !contains m e.1 := by
      refine List.filter_congr fun e he => ?_
      have hne : e.1 ≠ name := fun heq => hname (List.mem_map.2 ⟨e, he, heq⟩)
      rw [contains, contains, get?_put, if_neg hne]
    have hstep : overlay m ((name, v) :: changes) = overlay (put name v m) changes := rfl
    rw [hstep, ih (nodup_keys_put name v hm) hchanges, hold]
    by_cases hmem : name ∈ keys m
    · have hcontains : contains m name = true := isSome_get?_iff.2 hmem
      rw [put_of_mem v hm hmem, List.map_map, List.filter_cons_of_neg (by simp [hcontains])]
      refine congrArg (· ++ _) (List.map_congr_left fun e _ => ?_)
      rw [Function.comp_apply, get?_cons]
      by_cases he : e.1 = name
      · simp only [he, if_true, hnone, Option.getD_none, Option.getD_some]
      · simp only [he, if_false]
    · have hcontains : contains m name = false := by
        rw [contains, get?_eq_none_iff.2 hmem]
        rfl
      rw [put_of_notMem v hmem, List.map_append, List.append_assoc, List.filter_cons_of_pos (by simp [hcontains])]
      refine congr (congrArg _ (List.map_congr_left fun e he => ?_)) ?_
      · have hne : e.1 ≠ name := fun heq => hmem (List.mem_map.2 ⟨e, he, heq⟩)
        rw [get?_cons, if_neg hne]
      · rw [List.map_singleton, hnone, List.singleton_append, Option.getD_none]

/-! ### Gathering -/

theorem extends_add (name : Text) (vs : List α) (m : Ordered (List α)) : Extends m (add name vs m) :=
  extends_put name _ m

theorem nodup_keys_group (pairs : List (Text × α)) : (keys (group pairs)).Nodup := by
  have hextends : Extends [] (group pairs) := extends_foldl (fun m p => extends_add p.1 [p.2] m) pairs []
  exact hextends.nodup List.nodup_nil

/-- Under a new name, values are gathered in their order. -/
theorem foldl_add_of_notMem {m : Ordered (List α)} {name : Text} (h : name ∉ keys m) {vs : List α} (hne : vs ≠ []) :
    (vs.map fun v => (name, v)).foldl (fun m p => add p.1 [p.2] m) m = m ++ [(name, vs)] := by
  -- after the first value there is an entry at the end, to which the others are added
  have hmore : ∀ vs ws : List α, (vs.map fun v => (name, v)).foldl (fun m p => add p.1 [p.2] m) (m ++ [(name, ws)]) =
      m ++ [(name, ws ++ vs)] := by
    intro vs
    induction vs with
    | nil => simp
    | cons v vs ih =>
      intro ws
      have hget : get? (m ++ [(name, ws)]) name = some ws := by
        rw [get?, List.lookup_append]
        have hnone : List.lookup name m = none := get?_eq_none_iff.2 h
        simp [hnone]
      have hadd : add name [v] (m ++ [(name, ws)]) = m ++ [(name, ws ++ [v])] := by
        rw [add, hget, put_append _ h, put, if_pos rfl, Option.getD_some]
      rw [List.map_cons, List.foldl_cons, hadd, ih, List.append_assoc, List.singleton_append]
  cases vs with
  | nil => exact absurd rfl hne
  | cons v vs =>
    have hadd : add name [v] m = m ++ [(name, [v])] := by
      rw [add, get?_eq_none_iff.2 h, put_of_notMem _ h]
      rfl
    rw [List.map_cons, List.foldl_cons, hadd, hmore]
    rfl

/-- Lists under names are gathered again from their values, each of which stands under its name; a list without values
    is gone. -/
theorem group_flatMap {m : Ordered (List α)} (hn : (keys m).Nodup) :
    group (m.flatMap fun e => e.2.map fun v => (e.1, v)) = m.filter fun e => !e.2.isEmpty := by
  -- by induction on the entries, behind any others that have none of their names
  have hbehind : ∀ before : Ordered (List α), (∀ name ∈ keys m, name ∉ keys before) →
      (m.flatMap fun e => e.2.map fun v => (e.1, v)).foldl (fun m p => add p.1 [p.2] m) before =
        before ++ m.filter fun e => !e.2.isEmpty := by
    induction m with
    | nil => simp
    | cons e m ih =>
      intro before hbefore
      rcases e with ⟨name, vs⟩
      obtain ⟨hname, hm⟩ := List.nodup_cons.1 hn
      obtain ⟨hfirst, hrest⟩ := List.forall_mem_cons.1 hbefore
      rw [List.flatMap_cons, List.foldl_append]
      cases vs with
      | nil =>
        rw [List.filter_cons_of_neg (by simp)]
        exact ih hm before hrest
      | cons v vs =>
        rw [foldl_add_of_notMem hfirst (List.cons_ne_nil v vs), ih hm, List.filter_cons_of_pos (by simp),
          List.append_assoc, List.singleton_append]
        intro other hother hmem
        rcases List.mem_append.1 ((List.map_append ..) ▸ hmem : other ∈ keys before ++ keys [(name, v :: vs)]) with
          hmem | hmem
        · exact hrest other hother hmem
        · exact hname (List.mem_singleton.1 hmem ▸ hother)
  rw [group, hbehind [] fun _ _ => List.not_mem_nil, List.nil_append]

end PageQuery.Ordered
