import PageQuery.Environment

namespace PageQuery

/-!
# Laws of environments

* `eraseDups_filter`, `nodup_eraseDups`: the items of a list, each once;
* `Ordered.keys_put_of_mem`, `Ordered.keys_put_of_notMem`: what writing does to the names;
* `Ordered.get?_put`, `Ordered.get?_add`, `Ordered.get?_overlay`: what is read after writing;
* `Ordered.get?_foldl_put`, `Ordered.keys_foldl_put`: what writing one value under several names does;
* `Ordered.get?_filter`, `Ordered.get?_of_mem`: what is read of some of the entries, and of each of them;
* `Ordered.forall_mem_put`, `Ordered.forall_mem_overlay`: what all entries have in common;
* `Ordered.Extends`: entries of which others hold all names, in the same places;
* `Ordered.overlay_eq_self`: entries that are overlaid by others with the same names first;
* `Environment.seeded_eq_self`: an environment in which an execution starts with what another has left.
-/

/-! ### Lists without repetitions -/

section

variable {α : Type} [BEq α] [LawfulBEq α]

/-- Of equal items the first one is kept, whether items are dropped before or after that. -/
theorem eraseDups_filter (p : α → Bool) : (as : List α) → (as.filter p).eraseDups = as.eraseDups.filter p
  | [] => rfl
  | a :: as => by
    -- what is left after the first item is shorter than the list, though it is not its tail
    have hrest := eraseDups_filter p (as.filter fun b => !b == a)
    by_cases ha : p a
    · rw [List.filter_cons_of_pos ha, List.eraseDups_cons, List.eraseDups_cons, List.filter_cons_of_pos ha,
        ← hrest, List.filter_filter, List.filter_filter]
      simp only [Bool.and_comm]
    · have hsame : (as.filter fun b => !b == a).filter p = as.filter p := by
        rw [List.filter_filter]
        refine List.filter_congr fun b _ => ?_
        by_cases hb : b = a
        · simp [hb, ha]
        · simp [hb]
      rw [List.filter_cons_of_neg ha, List.eraseDups_cons, List.filter_cons_of_neg ha, ← hrest, hsame]
  termination_by as => as.length
  decreasing_by exact Nat.lt_succ_of_le (List.length_filter_le _ _)

theorem nodup_eraseDups : (as : List α) → as.eraseDups.Nodup
  | [] => List.nodup_nil
  | a :: as => by
    have hrest := nodup_eraseDups (as.filter fun b => !b == a)
    have ha : a ∉ (as.filter fun b => !b == a).eraseDups := by simp [List.mem_eraseDups]
    rw [List.eraseDups_cons]
    exact List.nodup_cons.2 ⟨ha, hrest⟩
  termination_by as => as.length
  decreasing_by exact Nat.lt_succ_of_le (List.length_filter_le _ _)

end

namespace Ordered

variable {α : Type}

/-! ### Names -/

@[simp] theorem keys_nil : keys ([] : Ordered α) = [] := rfl

@[simp] theorem keys_cons (p : Text × α) (m : Ordered α) : keys (p :: m) = p.1 :: keys m := rfl

/-- Writing under an old name leaves the names as they are. -/
theorem keys_put_of_mem {name : Text} (v : α) {m : Ordered α} (h : name ∈ keys m) :
    keys (put name v m) = keys m := by
  induction m with
  | nil => cases h
  | cons p m ih =>
    rcases p with ⟨key, old⟩
    by_cases hk : key = name
    · rw [put, if_pos hk]
      rfl
    · rw [put, if_neg hk, keys_cons, keys_cons,
        ih ((List.mem_cons.1 h).resolve_left fun e => hk e.symm)]

/-- Writing under a new name adds it at the end. -/
theorem keys_put_of_notMem {name : Text} (v : α) {m : Ordered α} (h : name ∉ keys m) :
    keys (put name v m) = keys m ++ [name] := by
  induction m with
  | nil => rfl
  | cons p m ih =>
    rcases p with ⟨key, old⟩
    have hk : key ≠ name := fun e => h (e ▸ List.mem_cons_self)
    rw [put, if_neg hk, keys_cons, keys_cons, ih fun hm => h (List.mem_cons_of_mem _ hm)]
    rfl

/-! ### Reading -/

/-- There is an entry under each name, and under no other text. -/
theorem isSome_get?_iff {m : Ordered α} {name : Text} : (get? m name).isSome = true ↔ name ∈ keys m := by
  rw [get?, List.lookup_isSome_iff, keys, List.mem_map]
  simp

/-- What is read is one of the entries. -/
theorem mem_of_get? {m : Ordered α} {name : Text} {v : α} (h : get? m name = some v) : (name, v) ∈ m := by
  obtain ⟨before, after, rfl, -⟩ := List.lookup_eq_some_iff.1 h
  simp

/-- The first entry is read under its name. -/
theorem get?_cons (name : Text) (v : α) (m : Ordered α) (other : Text) :
    get? ((name, v) :: m) other = if other = name then some v else get? m other := by
  rw [get?, List.lookup_cons]
  by_cases h : other = name
  · simp [h]
  · rw [if_neg h, beq_false_of_ne h]
    rfl

/-- What is written is read under its name, and what was there under the others. -/
theorem get?_put (name : Text) (v : α) (m : Ordered α) (other : Text) :
    get? (put name v m) other = if other = name then some v else get? m other := by
  induction m with
  | nil => exact get?_cons name v [] other
  | cons p m ih =>
    rcases p with ⟨key, old⟩
    rw [put]
    by_cases hk : key = name
    · rw [if_pos hk, hk, get?_cons, get?_cons]
      split <;> rfl
    · rw [if_neg hk, get?_cons, get?_cons, ih]
      by_cases h : other = key
      · have hne : other ≠ name := fun e => hk (h ▸ e)
        rw [if_pos h, if_neg hne, if_pos h]
      · rw [if_neg h, if_neg h]

/-- Under a name to which values are added they stand behind those that were there. -/
theorem get?_add (name : Text) (vs : List α) (m : Ordered (List α)) (other : Text) :
    get? (add name vs m) other = if other = name then some ((get? m name).getD [] ++ vs) else get? m other :=
  get?_put name _ m other

/-- Of entries of which some names are left out the others are read as before. -/
theorem get?_filter (p : Text → Bool) (m : Ordered α) (name : Text) :
    get? (m.filter fun e => p e.1) name = if p name then get? m name else none := by
  induction m with
  | nil => split <;> rfl
  | cons e m ih =>
    rcases e with ⟨key, v⟩
    rw [List.filter_cons]
    by_cases hkey : p key
    · rw [if_pos hkey, get?_cons, get?_cons, ih]
      by_cases h : name = key
      · rw [if_pos h, if_pos h, h, if_pos hkey]
      · rw [if_neg h, if_neg h]
    · rw [if_neg hkey, ih, get?_cons]
      by_cases h : name = key
      · rw [h, if_neg hkey, if_neg hkey]
      · rw [if_neg h]

/-- An entry is read under its name if no other has that name. -/
theorem get?_of_mem {m : Ordered α} (hn : (keys m).Nodup) {name : Text} {v : α} (h : (name, v) ∈ m) :
    get? m name = some v := by
  induction m with
  | nil => cases h
  | cons e m ih =>
    rcases e with ⟨key, w⟩
    obtain ⟨hkey, hn⟩ := List.nodup_cons.1 hn
    rw [get?_cons]
    rcases List.mem_cons.1 h with heq | h
    · obtain ⟨rfl, rfl⟩ := Prod.mk.inj heq
      rw [if_pos rfl]
    · have hname : name ∈ keys m := List.mem_map.2 ⟨_, h, rfl⟩
      have hne : name ≠ key := fun e => hkey (e ▸ hname)
      rw [if_neg hne]
      exact ih hn h

/-- The names after writing are those before and the one that is written. -/
theorem mem_keys_put {name : Text} {v : α} {m : Ordered α} {other : Text} :
    other ∈ keys (put name v m) ↔ other = name ∨ other ∈ keys m := by
  rw [← isSome_get?_iff, ← isSome_get?_iff, get?_put]
  by_cases h : other = name <;> simp [h]

/-- The names of entries that are overlaid by others are those of both. -/
theorem mem_keys_overlay {m changes : Ordered α} {name : Text} :
    name ∈ keys (overlay m changes) ↔ name ∈ keys m ∨ name ∈ keys changes := by
  induction changes generalizing m with
  | nil => simp [overlay]
  | cons p changes ih =>
    have hcons : overlay m (p :: changes) = overlay (put p.1 p.2 m) changes := rfl
    rw [hcons, ih, mem_keys_put, keys_cons, List.mem_cons]
    grind

/-- Of entries that are overlaid by others those are read that no other has the name of; of several others
    with one name the last is read. -/
theorem get?_overlay (m changes : Ordered α) (name : Text) :
    get? (overlay m changes) name = (get? (ofList changes) name).or (get? m name) := by
  -- what is written over an empty list hides what was there before
  have hhides : ∀ (changes m' : Ordered α),
      get? (overlay m' changes) name = (get? (overlay [] changes) name).or (get? m' name) := by
    intro changes
    induction changes with
    | nil => exact fun m' => rfl
    | cons p changes ih =>
      intro m'
      have hcons : ∀ m'', overlay m'' (p :: changes) = overlay (put p.1 p.2 m'') changes := fun _ => rfl
      rw [hcons, hcons, ih, ih (put p.1 p.2 []), Option.or_assoc, get?_put, get?_put]
      by_cases h : name = p.1
      · simp [h]
      · simp [h, get?]
  exact hhides changes m

/-! ### Several names -/

/-- A value that is written under several names is read under each of them, and what was there under the others. -/
theorem get?_foldl_put (names : List Text) (v : α) (m : Ordered α) (other : Text) :
    get? (names.foldl (fun m name => put name v m) m) other = if other ∈ names then some v else get? m other := by
  induction names generalizing m with
  | nil => simp
  | cons name names ih =>
    rw [List.foldl_cons, ih, get?_put]
    by_cases h : other = name <;> simp [h]

/-- The names that are new come last, each once, in the order in which they are written first. -/
theorem keys_foldl_put (names : List Text) (v : α) (m : Ordered α) :
    keys (names.foldl (fun m name => put name v m) m) =
      keys m ++ (names.filter fun name => !(keys m).contains name).eraseDups := by
  induction names generalizing m with
  | nil => simp
  | cons name names ih =>
    rw [List.foldl_cons, ih]
    by_cases h : name ∈ keys m
    · rw [keys_put_of_mem v h, List.filter_cons_of_neg (by simpa using h)]
    · rw [keys_put_of_notMem v h, List.filter_cons_of_pos (by simpa using h), List.eraseDups_cons, List.filter_filter,
        List.append_assoc]
      -- a name that is written again is no longer new
      have hnew : (names.filter fun other => !(keys m ++ [name]).contains other) =
          names.filter fun other => !other == name && !(keys m).contains other := by
        refine List.filter_congr fun other _ => ?_
        by_cases hother : other = name <;> simp [hother]
      rw [hnew]
      rfl

/-! ### Entries -/

/-- Writing changes one entry. -/
theorem forall_mem_put {P : α → Prop} {name : Text} {v : α} {m : Ordered α} (hm : ∀ p ∈ m, P p.2)
    (hv : P v) : ∀ p ∈ put name v m, P p.2 := by
  induction m with
  | nil => exact List.forall_mem_singleton.2 hv
  | cons p m ih =>
    have hrest := List.forall_mem_cons.1 hm
    rw [put]
    split
    · exact List.forall_mem_cons.2 ⟨hv, hrest.2⟩
    · exact List.forall_mem_cons.2 ⟨hrest.1, ih hrest.2⟩

/-- Overlaying entries writes them one after the other. -/
theorem forall_mem_overlay {P : α → Prop} {m changes : Ordered α} (hm : ∀ p ∈ m, P p.2)
    (hchanges : ∀ p ∈ changes, P p.2) : ∀ p ∈ overlay m changes, P p.2 := by
  induction changes generalizing m with
  | nil => exact hm
  | cons p changes ih =>
    have hrest := List.forall_mem_cons.1 hchanges
    exact ih (forall_mem_put hm hrest.1) hrest.2

/-! ### Extension -/

/-- All names are kept in their places, and stay distinct if they were. -/
structure Extends (m m' : Ordered α) : Prop where
  prefixed : keys m <+: keys m'
  nodup : (keys m).Nodup → (keys m').Nodup

theorem Extends.refl (m : Ordered α) : Extends m m := ⟨List.prefix_rfl, id⟩

theorem Extends.trans {m m' m'' : Ordered α} (h : Extends m m') (h' : Extends m' m'') :
    Extends m m'' :=
  ⟨h.prefixed.trans h'.prefixed, fun hn => h'.nodup (h.nodup hn)⟩

/-- Writing one entry extends the names. -/
theorem extends_put (name : Text) (v : α) (m : Ordered α) : Extends m (put name v m) := by
  by_cases h : name ∈ keys m
  · have hkeys := keys_put_of_mem v h
    exact ⟨hkeys ▸ List.prefix_rfl, fun hn => hkeys ▸ hn⟩
  · refine ⟨?_, fun hn => ?_⟩
    · rw [keys_put_of_notMem v h]
      exact List.prefix_append _ _
    · rw [keys_put_of_notMem v h, List.nodup_append]
      refine ⟨hn, by simp, fun a ha b hb => ?_⟩
      rw [List.mem_singleton.1 hb]
      exact fun e => h (e ▸ ha)

/-- Writing entries one after the other extends the names. -/
theorem extends_foldl {β : Type} {f : Ordered α → β → Ordered α} (hf : ∀ m b, Extends m (f m b))
    (bs : List β) (m : Ordered α) : Extends m (bs.foldl f m) := by
  induction bs generalizing m with
  | nil => exact Extends.refl m
  | cons b bs ih => exact (hf m b).trans (ih (f m b))

/-- Being overlaid extends the names. -/
theorem extends_overlay (m changes : Ordered α) : Extends m (overlay m changes) := by
  refine extends_foldl (fun m p => ?_) changes m
  exact extends_put p.1 p.2 m

/-! ### Overlaying with an extension -/

/-- An entry that nothing is written to keeps its place in front. -/
theorem overlay_cons {name : Text} (v : α) {m changes : Ordered α} (h : name ∉ keys changes) :
    overlay ((name, v) :: m) changes = (name, v) :: overlay m changes := by
  induction changes generalizing m with
  | nil => rfl
  | cons p changes ih =>
    have hp : name ≠ p.1 := fun e => h (e ▸ List.mem_cons_self)
    have hput : put p.1 p.2 ((name, v) :: m) = (name, v) :: put p.1 p.2 m := by rw [put, if_neg hp]
    show overlay (put p.1 p.2 ((name, v) :: m)) changes = _
    rw [hput, ih fun hm => h (List.mem_cons_of_mem _ hm)]
    rfl

/-- Entries overlaid by others that have their names first become the others. -/
theorem overlay_eq_self {m changes : Ordered α} (h : keys m <+: keys changes)
    (hn : (keys changes).Nodup) : overlay m changes = changes := by
  induction changes generalizing m with
  | nil =>
    cases m with
    | nil => rfl
    | cons p m => exact absurd (List.prefix_nil.1 h) (List.cons_ne_nil _ _)
  | cons q changes ih =>
    rcases q with ⟨name, v⟩
    obtain ⟨hq, hn⟩ := List.nodup_cons.1 hn
    -- if `m` has a first name it is this one, so that writing it puts it in front
    have hhead : ∃ m', put name v m = (name, v) :: m' ∧ keys m' <+: keys changes := by
      cases m with
      | nil => exact ⟨[], rfl, List.nil_prefix⟩
      | cons p m =>
        rcases p with ⟨key, old⟩
        obtain ⟨rfl, hm⟩ := List.cons_prefix_cons.1 h
        exact ⟨m, by rw [put, if_pos rfl], hm⟩
    obtain ⟨m', hput, hm'⟩ := hhead
    show overlay (put name v m) changes = _
    rw [hput, overlay_cons v hq, ih hm' hn]

end Ordered

/-! ### The start of an execution -/

namespace Environment

/-- The variables that every execution has. -/
def builtins (pageUrl rootUrl : Text) : Environment :=
  [("time", .int now), ("pageUrl", .text pageUrl), ("rootUrl", .text rootUrl)]

/-- The names of the variables that every execution has. -/
def builtinNames : List Text := ["time", "pageUrl", "rootUrl"]

theorem keys_builtins (pageUrl rootUrl : Text) :
    Ordered.keys (builtins pageUrl rootUrl) = builtinNames := rfl

/-- The environment in which an execution starts extends the variables that every execution has. -/
theorem extends_seeded (pageUrl rootUrl : Text) (initial : Environment) :
    Ordered.Extends (builtins pageUrl rootUrl) (seeded pageUrl rootUrl initial) :=
  Ordered.extends_overlay (builtins pageUrl rootUrl) initial

/-- What an execution has left is what another starts in that is given it. -/
theorem seeded_eq_self {pageUrl rootUrl pageUrl' rootUrl' : Text} {initial env : Environment}
    (h : Ordered.Extends (seeded pageUrl rootUrl initial) env) : seeded pageUrl' rootUrl' env = env := by
  have hbuiltins := (extends_seeded pageUrl rootUrl initial).trans h
  have hprefix : Ordered.keys (builtins pageUrl' rootUrl') <+: Ordered.keys env := by
    rw [keys_builtins, ← keys_builtins pageUrl rootUrl]
    exact hbuiltins.prefixed
  refine Ordered.overlay_eq_self hprefix (hbuiltins.nodup ?_)
  rw [keys_builtins]
  decide

end Environment

end PageQuery
