import Mathlib.Data.Fintype.Basic
import Mathlib.Data.Fintype.Card
import Mathlib.Data.Fintype.EquivFin
import Mathlib.Data.List.Perm.Subperm
import Mathlib.Order.RelClasses
import PageQuery.Proofs.Environment
import PageQuery.Proofs.Text.Order
import PageQuery.Transform.Pipeline

namespace PageQuery

/-!
# Registries as scopes

Registries that fall back to each other without a cycle look names up along the way to the registry that falls back to
none.

* `Scope.mem_names`, `Scope.pairwise_names`, `Scope.nodup_names`: the names that a scope has functions for;
* `Registries.IsForest`, `Registries.Path`: registries without a cycle, and the way from one of them to its root;
* `Registries.exists_path`, `Registries.scope_of_path`: that there is one, and that it is what the registry sees;
* `Registries.scope_update_of_notMem`, `Registries.find?_unregister`: who sees a change, and what is uncovered by one;
* `Registries.Step`, `Registries.State.run`: what is done to registries, one step after the other;
* `Registries.get?_functionsAt_run`: the functions that a registry holds after that;
* `Registries.scopes_run`: what the registries answer after any steps, and how transforms are looked up in them.
-/

theorem findSome?_congr {α β : Type} {f g : α → Option β} {as : List α} (h : ∀ a ∈ as, f a = g a) :
    as.findSome? f = as.findSome? g := by
  induction as with
  | nil => rfl
  | cons a as ih =>
    obtain ⟨ha, has⟩ := List.forall_mem_cons.1 h
    rw [List.findSome?_cons, List.findSome?_cons, ha, ih has]

/-! ### Names -/

namespace Scope

theorem find?_cons (functions : Functions) (s : Scope) (name : Text) :
    find? (functions :: s) name = (Ordered.get? functions name).or (find? s name) := by
  rw [find?, List.findSome?_cons]
  cases Ordered.get? functions name <;> rfl

/-- A scope has a function under each of its names, and under no other text. -/
theorem mem_names {s : Scope} {name : Text} : name ∈ s.names ↔ (s.find? name).isSome = true := by
  rw [names, Text.mem_sort, List.mem_eraseDups]
  induction s with
  | nil => simp [find?]
  | cons functions s ih =>
    rw [List.flatMap_cons, List.mem_append, ih, ← Ordered.isSome_get?_iff, find?_cons, Option.isSome_or, Bool.or_eq_true]

theorem pairwise_names (s : Scope) : s.names.Pairwise fun t u => Text.le t u = true := Text.pairwise_sort _

theorem nodup_names (s : Scope) : s.names.Nodup := Text.nodup_sort (nodup_eraseDups _)

end Scope

/-- A name that is dropped is not read any more. -/
theorem Ordered.get?_erase {α : Type} (name : Text) (m : Ordered α) (other : Text) :
    get? (erase name m) other = if other = name then none else get? m other := by
  rw [erase, get?_filter (· != name)]
  by_cases h : other = name <;> simp [h]

namespace Registries

variable {rs : Registries}

/-! ### Registries without a cycle -/

/-- The registry that another falls back to, or that there is none; nothing if there is no such registry. -/
def parentOf? (rs : Registries) (i : Nat) : Option (Option Nat) := rs[i]?.map (·.parent)

/-- A registry and the one that it falls back to. -/
def IsParent (rs : Registries) (i j : Nat) : Prop := rs.parentOf? i = some (some j)

/-- Registries that fall back to each other, but never to themselves, whether directly or through others. -/
structure IsForest (rs : Registries) : Prop where
  inside : ∀ {i j}, rs.IsParent i j → j < rs.length
  acyclic : ∀ i, ¬Relation.TransGen rs.IsParent i i

/-- The way from a registry to its root, the one that falls back to none. -/
inductive Path (rs : Registries) : Nat → List Nat → Prop
  | root {i : Nat} : rs.parentOf? i = some none → Path rs i [i]
  | child {i j : Nat} {path : List Nat} : rs.IsParent i j → Path rs j path → Path rs i (i :: path)

theorem exists_parentOf? {i : Nat} (hi : i < rs.length) : ∃ p, rs.parentOf? i = some p := by
  rw [parentOf?, List.getElem?_eq_getElem hi]
  exact ⟨_, rfl⟩

theorem lt_of_parentOf? {i : Nat} {p : Option Nat} (h : rs.parentOf? i = some p) : i < rs.length := by
  obtain ⟨r, hr, -⟩ := Option.map_eq_some_iff.1 h
  exact (List.getElem?_eq_some_iff.1 hr).1

/-- Registries that fall back only to earlier ones. -/
theorem isForest_of_lt (h : ∀ i j, rs.IsParent i j → j < i) : rs.IsForest where
  inside hij := Nat.lt_trans (h _ _ hij) (lt_of_parentOf? hij)
  acyclic i hi := by
    have hlt : ∀ {j k}, Relation.TransGen rs.IsParent j k → k < j := by
      intro j k hjk
      induction hjk with
      | single hparent => exact h _ _ hparent
      | tail _ hparent ih => exact Nat.lt_trans (h _ _ hparent) ih
    exact Nat.lt_irrefl i (hlt hi)

/-- From each registry there is a way to a root. -/
theorem exists_path (h : rs.IsForest) {i : Nat} (hi : i < rs.length) : ∃ path, rs.Path i path := by
  -- there are finitely many registries, so that none has infinitely many behind it
  let behind : Fin rs.length → Fin rs.length → Prop := fun j i => Relation.TransGen rs.IsParent i j
  have : IsTrans (Fin rs.length) behind := ⟨fun _ _ _ hba hcb => hcb.trans hba⟩
  have : Std.Irrefl behind := ⟨fun i => h.acyclic i⟩
  have hpath : ∀ i : Fin rs.length, ∃ path, rs.Path i path := by
    intro i
    induction i using (Finite.wellFounded_of_trans_of_irrefl behind).induction with
    | _ i ih =>
      obtain ⟨p, hp⟩ := exists_parentOf? i.isLt
      cases p with
      | none => exact ⟨_, .root hp⟩
      | some j =>
        obtain ⟨path, hj⟩ := ih ⟨j, h.inside hp⟩ (.single hp)
        exact ⟨_, .child hp hj⟩
  exact hpath ⟨i, hi⟩

namespace Path

variable {i : Nat} {path : List Nat}

theorem lt_length (h : rs.Path i path) : ∀ j ∈ path, j < rs.length := by
  induction h with
  | root hroot => exact List.forall_mem_singleton.2 (lt_of_parentOf? hroot)
  | child hparent _ ih => exact List.forall_mem_cons.2 ⟨lt_of_parentOf? hparent, ih⟩

/-- All registries on a way stand behind the one where it starts. -/
theorem behind (h : rs.Path i path) : ∀ j ∈ path, j = i ∨ Relation.TransGen rs.IsParent i j := by
  induction h with
  | root => exact List.forall_mem_singleton.2 (.inl rfl)
  | child hparent _ ih =>
    refine List.forall_mem_cons.2 ⟨.inl rfl, fun k hk => .inr ?_⟩
    rcases ih k hk with rfl | hbehind
    · exact .single hparent
    · exact .head hparent hbehind

/-- A registry is not on the way from the one that it falls back to. -/
theorem notMem {j : Nat} (hrs : rs.IsForest) (hparent : rs.IsParent i j) (h : rs.Path j path) : i ∉ path := by
  intro hi
  rcases h.behind i hi with rfl | hbehind
  · exact hrs.acyclic _ (.single hparent)
  · exact hrs.acyclic _ (.head hparent hbehind)

/-- Nor is it on the way from another that falls back to the same one. -/
theorem notMem_of_sibling (hrs : rs.IsForest) {i j p : Nat} (hne : i ≠ j) (hi : rs.IsParent i p)
    (hj : rs.IsParent j p) (h : rs.Path j path) : i ∉ path := by
  cases h with
  | root hroot => exact absurd (hroot.symm.trans hj) (by simp)
  | child hparent hrest =>
    obtain rfl := Option.some.inj (Option.some.inj (hparent.symm.trans hj))
    exact fun hmem => (List.mem_cons.1 hmem).elim hne (hrest.notMem hrs hi)

theorem nodup (hrs : rs.IsForest) (h : rs.Path i path) : path.Nodup := by
  induction h with
  | root => exact List.nodup_singleton _
  | child hparent hj ih => exact List.nodup_cons.2 ⟨hj.notMem hrs hparent, ih⟩

theorem length_le (hrs : rs.IsForest) (h : rs.Path i path) : path.length ≤ rs.length := by
  have hsubset : path ⊆ List.range rs.length := fun j hj => List.mem_range.2 (h.lt_length j hj)
  simpa using (List.subperm_of_subset (h.nodup hrs) hsubset).length_le

end Path

/-- The functions of a registry's own. -/
def functionsAt (rs : Registries) (i : Nat) : Functions := (rs[i]?.map (·.functions)).getD []

theorem scopeFrom_none (fuel : Nat) : rs.scopeFrom fuel none = [] := by cases fuel <;> rfl

theorem scopeFrom_of_parentOf? {i : Nat} {p : Option Nat} (h : rs.parentOf? i = some p) (fuel : Nat) :
    rs.scopeFrom (fuel + 1) (some i) = rs.functionsAt i :: rs.scopeFrom fuel p := by
  obtain ⟨r, hr, rfl⟩ := Option.map_eq_some_iff.1 h
  simp only [scopeFrom, functionsAt, hr, Option.map_some, Option.getD_some]

/-- What a registry sees is what the registries on the way to its root hold. -/
theorem scopeFrom_of_path {i : Nat} {path : List Nat} (h : rs.Path i path) {fuel : Nat} (hfuel : path.length ≤ fuel) :
    rs.scopeFrom fuel (some i) = path.map rs.functionsAt := by
  induction h generalizing fuel with
  | root hroot =>
    obtain ⟨n, rfl⟩ := Nat.exists_eq_add_of_le' hfuel
    rw [List.length_singleton, scopeFrom_of_parentOf? hroot, scopeFrom_none, List.map_singleton]
  | child hparent _ ih =>
    obtain ⟨n, rfl⟩ := Nat.exists_eq_add_of_le' (Nat.le_trans (Nat.succ_le_succ (Nat.zero_le _)) hfuel)
    rw [scopeFrom_of_parentOf? hparent, ih (Nat.le_of_succ_le_succ hfuel), List.map_cons]

theorem scope_of_path (hrs : rs.IsForest) {i : Nat} {path : List Nat} (h : rs.Path i path) :
    rs.scope i = path.map rs.functionsAt := scopeFrom_of_path h (h.length_le hrs)

/-! ### Changes of one registry -/

theorem parentOf?_update (f : Functions → Functions) (i : Nat) : (rs.update f i).parentOf? = rs.parentOf? := by
  funext j
  rw [parentOf?, parentOf?, update, List.getElem?_modify]
  cases rs[j]? with
  | none => rfl
  | some r => by_cases h : i = j <;> simp [h]

theorem functionsAt_update (f : Functions → Functions) (i : Nat) {j : Nat} (hj : j < rs.length) :
    (rs.update f i).functionsAt j = if i = j then f (rs.functionsAt j) else rs.functionsAt j := by
  rw [functionsAt, functionsAt, update, List.getElem?_modify, List.getElem?_eq_getElem hj]
  by_cases h : i = j <;> simp [h]

theorem IsForest.of_parentOf?_eq {rs' : Registries} (h : rs'.parentOf? = rs.parentOf?) (hrs : rs.IsForest) :
    rs'.IsForest := by
  have hparent : rs'.IsParent = rs.IsParent := by
    funext i j
    rw [IsParent, IsParent, h]
  refine ⟨fun hij => ?_, hparent ▸ hrs.acyclic⟩
  obtain ⟨p, hp⟩ := exists_parentOf? (hrs.inside (hparent ▸ hij))
  exact lt_of_parentOf? ((congrFun h _).trans hp)

theorem Path.of_parentOf?_eq {rs' : Registries} (h : rs'.parentOf? = rs.parentOf?) {i : Nat} {path : List Nat}
    (hpath : rs.Path i path) : rs'.Path i path := by
  induction hpath with
  | root hroot => exact .root ((congrFun h _).trans hroot)
  | child hparent _ ih => exact .child ((congrFun h _).trans hparent) ih

/-- A change of one registry is not seen by those that do not fall back to it. -/
theorem scope_update_of_notMem (hrs : rs.IsForest) (f : Functions → Functions) {i j : Nat} {path : List Nat}
    (hpath : rs.Path j path) (hi : i ∉ path) : (rs.update f i).scope j = rs.scope j := by
  have hsame : (rs.update f i).parentOf? = rs.parentOf? := parentOf?_update f i
  rw [scope_of_path (hrs.of_parentOf?_eq hsame) (hpath.of_parentOf?_eq hsame), scope_of_path hrs hpath]
  refine List.map_congr_left fun k hk => ?_
  have hne : i ≠ k := fun heq => hi (heq ▸ hk)
  rw [functionsAt_update f i (hpath.lt_length k hk), if_neg hne]

/-- A registry that does not hold a name any more answers what the one behind it answers. -/
theorem find?_unregister (hrs : rs.IsForest) {i : Nat} {p : Option Nat} (hi : rs.parentOf? i = some p) (name : Text) :
    ((rs.unregister i name).scope i).find? name = p.bind fun j => (rs.scope j).find? name := by
  have hsame : (rs.update (Ordered.erase name) i).parentOf? = rs.parentOf? := parentOf?_update _ i
  have hforest := hrs.of_parentOf?_eq hsame
  have hown : Ordered.get? ((rs.update (Ordered.erase name) i).functionsAt i) name = none := by
    rw [functionsAt_update _ _ (lt_of_parentOf? hi), if_pos rfl, Ordered.get?_erase, if_pos rfl]
  obtain ⟨path, hpath⟩ := exists_path hrs (lt_of_parentOf? hi)
  rw [unregister, scope_of_path hforest (hpath.of_parentOf?_eq hsame)]
  cases hpath with
  | root hroot =>
    obtain rfl : none = p := Option.some.inj (hroot.symm.trans hi)
    rw [List.map_singleton, Scope.find?_cons, hown]
    rfl
  | child hparent hj =>
    obtain rfl := Option.some.inj (hparent.symm.trans hi)
    have hrest := scope_update_of_notMem hrs (Ordered.erase name) hj (hj.notMem hrs hparent)
    rw [List.map_cons, Scope.find?_cons, hown, Option.none_or, Option.bind_some, ← hrest,
      scope_of_path hforest (hj.of_parentOf?_eq hsame)]

/-! ### Steps -/

/-- What is done to registries: a function is registered, a decorator is given, a decorator that was given registers a
    function, or a name is taken away. -/
inductive Step where
  | register (i : Nat) (name : Text) (f : Function)
  | decorator (i : Nat) (name : Text)
  | decorate (k : Nat) (f : Function)
  | unregister (i : Nat) (name : Text)

/-- Registries, and the decorators that they have given. -/
structure State where
  registries : Registries
  decorators : List Decorator := []

/-- The decorators that a step gives. -/
def Step.decorators : Step → List Decorator
  | .decorator i name => [⟨i, name⟩]
  | _ => []

/-- The registries after a step. -/
def State.step (s : State) (step : Step) : State where
  registries :=
    match step with
    | .register i name f => s.registries.register i name f
    | .decorator .. => s.registries
    | .decorate k f => (s.decorators[k]?.map fun d => d.apply f s.registries).getD s.registries
    | .unregister i name => s.registries.unregister i name
  decorators := s.decorators ++ step.decorators

/-- The registries after steps, one after the other. -/
def State.run (s : State) (steps : List Step) : State := steps.foldl State.step s

/-- A function that is put under a name in a registry, or the one there taken away. -/
structure Change where
  registry : Nat
  name : Text
  function? : Option Function

/-- Whether a change is one of a name in a registry. -/
def Change.concerns (c : Change) (i : Nat) (name : Text) : Bool := c.registry == i && c.name == name

/-- The change that a step is, after some decorators have been given. -/
def Step.change? (given : List Decorator) : Step → Option Change
  | .register i name f => some ⟨i, name, some f⟩
  | .decorator .. => none
  | .decorate k f => given[k]?.map fun d => ⟨d.registry, d.name, some f⟩
  | .unregister i name => some ⟨i, name, none⟩

/-- The changes that steps are, in order. -/
def changes (given : List Decorator) : List Step → List Change
  | [] => []
  | step :: steps => (step.change? given).toList ++ changes (given ++ step.decorators) steps

/-- The function under a name in a registry after changes: what the last one of them put there, or the one that was
    there initially. -/
def latest (cs : List Change) (i : Nat) (name : Text) (initial : Option Function) : Option Function :=
  match (cs.filter (·.concerns i name)).getLast? with
  | some c => c.function?
  | none => initial

theorem latest_cons (c : Change) (cs : List Change) (i : Nat) (name : Text) (initial : Option Function) :
    latest (c :: cs) i name initial = latest cs i name (if c.concerns i name then c.function? else initial) := by
  rw [latest, latest, List.filter_cons]
  by_cases hc : c.concerns i name = true
  · rw [if_pos hc, if_pos hc, List.getLast?_cons]
    cases (cs.filter (·.concerns i name)).getLast? <;> rfl
  · rw [if_neg hc, if_neg hc]

/-- The registries after a change. -/
def Change.apply (c : Change) (rs : Registries) : Registries :=
  match c.function? with
  | some f => rs.register c.registry c.name f
  | none => rs.unregister c.registry c.name

theorem parentOf?_apply (c : Change) : (c.apply rs).parentOf? = rs.parentOf? := by
  rcases c with ⟨i, name, _ | f⟩ <;> exact parentOf?_update _ i

/-- What a registry holds after a change. -/
theorem get?_functionsAt_apply (c : Change) {i : Nat} (hi : i < rs.length) (name : Text) :
    Ordered.get? ((c.apply rs).functionsAt i) name =
      if c.concerns i name then c.function? else Ordered.get? (rs.functionsAt i) name := by
  rcases c with ⟨k, key, f?⟩
  have hconcerns : (Change.mk k key f?).concerns i name = true ↔ k = i ∧ name = key := by
    rw [Change.concerns, Bool.and_eq_true, beq_iff_eq, beq_iff_eq, eq_comm (a := key)]
  rw [ite_cond_congr (propext hconcerns)]
  cases f? with
  | none =>
    show Ordered.get? ((rs.update (Ordered.erase key) k).functionsAt i) name = _
    rw [functionsAt_update _ k hi]
    by_cases hk : k = i
    · simp [hk, Ordered.get?_erase]
    · simp [hk]
  | some f =>
    show Ordered.get? ((rs.update (Ordered.put key f) k).functionsAt i) name = _
    rw [functionsAt_update _ k hi]
    by_cases hk : k = i
    · simp [hk, Ordered.get?_put]
    · simp [hk]

/-- A step makes the change that it is. -/
theorem registries_step (s : State) (step : Step) :
    (s.step step).registries = (step.change? s.decorators).toList.foldl (fun rs c => c.apply rs) s.registries := by
  cases step with
  | register i name f => rfl
  | decorator i name => rfl
  | decorate k f =>
    simp only [State.step, Step.change?]
    cases s.decorators[k]? <;> rfl
  | unregister i name => rfl

/-- Steps make their changes one after the other. -/
theorem registries_run (s : State) (steps : List Step) :
    (s.run steps).registries = (changes s.decorators steps).foldl (fun rs c => c.apply rs) s.registries := by
  induction steps generalizing s with
  | nil => rfl
  | cons step steps ih =>
    have hcons : s.run (step :: steps) = (s.step step).run steps := rfl
    rw [hcons, ih, registries_step, changes, List.foldl_append]
    rfl

theorem parentOf?_foldl (cs : List Change) (rs : Registries) :
    (cs.foldl (fun rs c => c.apply rs) rs).parentOf? = rs.parentOf? := by
  induction cs generalizing rs with
  | nil => rfl
  | cons c cs ih => rw [List.foldl_cons, ih, parentOf?_apply]

theorem parentOf?_run (s : State) (steps : List Step) : (s.run steps).registries.parentOf? = s.registries.parentOf? := by
  rw [registries_run, parentOf?_foldl]

/-- A registry holds what was registered last. -/
theorem get?_functionsAt_run (steps : List Step) {s : State} {i : Nat} (hi : i < s.registries.length) (name : Text) :
    Ordered.get? ((s.run steps).registries.functionsAt i) name =
      latest (changes s.decorators steps) i name (Ordered.get? (s.registries.functionsAt i) name) := by
  rw [registries_run]
  generalize changes s.decorators steps = cs
  generalize s.registries = rs at hi
  induction cs generalizing rs with
  | nil => rfl
  | cons c cs ih =>
    obtain ⟨p, hp⟩ := exists_parentOf? hi
    have hi' : i < (c.apply rs).length := lt_of_parentOf? ((congrFun (parentOf?_apply c) i).trans hp)
    rw [List.foldl_cons, ih _ hi', get?_functionsAt_apply c hi, latest_cons]

/-! ### Looking up transforms -/

/-- The names of transforms that need no registry. -/
def IsBuiltIn (name : Text) : Prop :=
  name = "regexp" ∨ name = "json" ∨ name = "jseval" ∨ (Transform.textual? name).isSome = true

/-- The other transforms are looked up in one scope after the other, each time as a whole first. -/
theorem applyTransform_of_not_isBuiltIn {near far : Scope} {sandbox : Option Sandbox} {v : Value} {spec : Text}
    (hv : v.isNull = false) (hname : ¬IsBuiltIn (Text.cut ':' (Text.trim spec)).1) :
    Transform.applyTransform ⟨[near, far], sandbox⟩ v spec =
      match (((near.find? (Text.trim spec)).or (near.find? (Text.cut ':' (Text.trim spec)).1)).or
          (far.find? (Text.trim spec))).or (far.find? (Text.cut ':' (Text.trim spec)).1) with
      | some f => Run.of (f v)
      | none => do
        Run.note (.unknownTransform (Text.trim spec))
        return v := by
  obtain ⟨hregexp, hjson, hscript, htextual⟩ : (Text.cut ':' (Text.trim spec)).1 ≠ "regexp" ∧
      (Text.cut ':' (Text.trim spec)).1 ≠ "json" ∧ (Text.cut ':' (Text.trim spec)).1 ≠ "jseval" ∧
      Transform.textual? (Text.cut ':' (Text.trim spec)).1 = none := by
    simpa [IsBuiltIn] using hname
  have hfind : ∀ t name : Text, Transform.Context.find? ⟨[near, far], sandbox⟩ t name =
      (((near.find? t).or (near.find? name)).or (far.find? t)).or (far.find? name) := by
    intro t name
    rw [Option.or_assoc, Transform.Context.find?, List.findSome?_cons, List.findSome?_singleton]
    cases (near.find? t).or (near.find? name) <;> rfl
  rw [Transform.applyTransform, if_neg (by simp [hv]), ← hfind]
  cases hfound : Transform.Context.find? ⟨[near, far], sandbox⟩ (Text.trim spec) (Text.cut ':' (Text.trim spec)).1 <;>
    simp only [if_neg hregexp, if_neg hjson, if_neg hscript, htextual, hfound]

/-! ### Runs -/

/-- After any steps a registry answers with the nearest function on the way to its root, where each registry holds what
    was registered last; its names are those that it answers, each once and in order. Taking a name away uncovers what
    stands behind, and is not seen from there or from beside. A transform that is not built in is looked up in the
    first registry before the second, and as a whole before its name. -/
theorem scopes_run {rs : Registries} (hrs : rs.IsForest) (steps : List Step) {i : Nat} (hi : i < rs.length) :
    let rs' := (State.run ⟨rs, []⟩ steps).registries
    (∃ path, rs.Path i path) ∧
    (∀ path, rs.Path i path → ∀ name, (rs'.scope i).find? name =
      path.findSome? fun j => latest (changes [] steps) j name (Ordered.get? (rs.functionsAt j) name)) ∧
    (∀ name, ((rs'.scope i).find? name).isSome = true ↔ name ∈ (rs'.scope i).names) ∧
    (rs'.scope i).names.Pairwise (fun t u => Text.le t u = true) ∧
    (rs'.scope i).names.Nodup ∧
    (∀ name parent, rs.parentOf? i = some parent →
      ((rs'.unregister i name).scope i).find? name = parent.bind fun j => (rs'.scope j).find? name) ∧
    (∀ name parent, rs.IsParent i parent → (rs'.unregister i name).scope parent = rs'.scope parent) ∧
    (∀ name parent sibling, rs.IsParent i parent → rs.IsParent sibling parent → i ≠ sibling →
      (rs'.unregister i name).scope sibling = rs'.scope sibling) ∧
    (∀ d sandbox v spec, v.isNull = false → ¬IsBuiltIn (Text.cut ':' (Text.trim spec)).1 →
      Transform.applyTransform ⟨[rs'.scope i, rs'.scope d], sandbox⟩ v spec =
        match ((((rs'.scope i).find? (Text.trim spec)).or ((rs'.scope i).find? (Text.cut ':' (Text.trim spec)).1)).or
            ((rs'.scope d).find? (Text.trim spec))).or ((rs'.scope d).find? (Text.cut ':' (Text.trim spec)).1) with
        | some f => Run.of (f v)
        | none => do
          Run.note (.unknownTransform (Text.trim spec))
          return v) := by
  intro rs'
  have hsame : rs'.parentOf? = rs.parentOf? := parentOf?_run ⟨rs, []⟩ steps
  have hforest : rs'.IsForest := hrs.of_parentOf?_eq hsame
  have hparent : ∀ {j parent}, rs.IsParent j parent → rs'.IsParent j parent := fun h => (congrFun hsame _).trans h
  have hpath' : ∀ {j}, j < rs.length → ∃ path, rs'.Path j path := fun hj =>
    (exists_path hrs hj).imp fun _ => Path.of_parentOf?_eq hsame
  refine ⟨exists_path hrs hi, ?_, fun name => Scope.mem_names.symm, Scope.pairwise_names _, Scope.nodup_names _, ?_, ?_,
    ?_, ?_⟩
  · intro path hpath name
    have hlatest : ∀ j ∈ path, Ordered.get? (rs'.functionsAt j) name =
        latest (changes [] steps) j name (Ordered.get? (rs.functionsAt j) name) := fun j hj =>
      get?_functionsAt_run steps (hpath.lt_length j hj) name
    rw [scope_of_path hforest (hpath.of_parentOf?_eq hsame), Scope.find?, List.findSome?_map]
    exact findSome?_congr hlatest
  · intro name parent hi
    exact find?_unregister hforest ((congrFun hsame i).trans hi) name
  · intro name parent hi
    obtain ⟨path, hpath⟩ := hpath' (hrs.inside hi)
    exact scope_update_of_notMem hforest _ hpath (hpath.notMem hforest (hparent hi))
  · intro name parent sibling hi hsibling hne
    obtain ⟨path, hpath⟩ := hpath' (lt_of_parentOf? hsibling)
    exact scope_update_of_notMem hforest _ hpath (hpath.notMem_of_sibling hforest hne (hparent hi) (hparent hsibling))
  · intro d sandbox v spec hv hname
    exact applyTransform_of_not_isBuiltIn hv hname

/-- A function of the root, hidden by one registered in front of it until that is taken away. -/
theorem scopes_run_hidden :
    let old : Function := fun v => .ok v
    let new : Function := fun _ => .ok .null
    let rs : Registries := [⟨[("a", old)], none⟩, ⟨[], some 0⟩, ⟨[], some 0⟩]
    let steps : List Step := [.decorator 1 "b", .register 1 "a" new, .decorate 0 old]
    let rs' := (State.run ⟨rs, []⟩ steps).registries
    rs.IsForest ∧ (rs'.scope 1).find? "a" = some new ∧ (rs'.scope 1).find? "b" = some old ∧
      ((rs'.unregister 1 "a").scope 1).find? "a" = some old := by
  intro old new rs steps rs'
  have hforest : rs.IsForest := by
    refine isForest_of_lt fun i j hij => ?_
    match i, hij with
    | 1, hij => exact Option.some.inj (Option.some.inj hij) ▸ Nat.zero_lt_one
    | 2, hij => exact Option.some.inj (Option.some.inj hij) ▸ Nat.zero_lt_two
  have hroot : rs.Path 0 [0] := .root rfl
  have hone : rs.Path 1 [1, 0] := .child rfl hroot
  obtain ⟨-, hnear, -, -, -, hbehind, -⟩ := scopes_run hforest steps (i := 1) (by decide)
  obtain ⟨-, hfar, -⟩ := scopes_run hforest steps (i := 0) (by decide)
  refine ⟨hforest, hnear _ hone "a", hnear _ hone "b", ?_⟩
  exact (hbehind "a" (some 0) rfl).trans (hfar _ hroot "a")

end Registries

end PageQuery
