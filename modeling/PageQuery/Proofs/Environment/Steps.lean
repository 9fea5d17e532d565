import PageQuery.Proofs.Environment
import PageQuery.Template

namespace PageQuery.Environment

/-!
# Environments step by step

All that can be done to environments comes down to reading, writing and deleting single names. None is ever deleted, so
that environments only grow.

* `Act`: what is done to an environment, which stays as it is left even if there is an error;
* `Act.pop`, `Act.popItem`, `Act.clear`, `Act.setDefault`, `Act.update`: mappings by their primitive acts;
* `Act.exec_pop`, `Act.exec_popItem`, `Act.exec_clear`, `Act.exec_setDefault`, `Act.exec_update`: what they do to an
  environment;
* `Operation`, `Step`: what is done to one of several environments, which may be copied;
* `Step.grows`, `Step.exec_of_error`: what one step keeps, and that one that fails changes nothing;
* `steps_run`: steps one after the other.
-/

/-! ### Mappings by their primitive acts -/

/-- Something that is done to an environment, with a value or an error as its outcome. -/
abbrev Act (α : Type) := ExceptT Error (StateM Environment) α

namespace Act

/-- What comes of something that is done to an environment, and what becomes of the environment. -/
def exec {α : Type} (x : Act α) (env : Environment) : Except Error α × Environment := StateT.run x.run env

/-- The value of a name. -/
def read (name : Text) : Act Value := ExceptT.mk fun env => (env.find name, env)

/-- Writes a value under a name. -/
def write (name : Text) (v : Value) : Act Unit := ExceptT.mk fun env => (.ok (), Ordered.put name v env)

/-- Deletes a name, which fails. -/
def delete (name : Text) : Act Unit := ExceptT.mk fun env => (env.remove name, env)

/-- The first name. -/
def first : Act (Option Text) := ExceptT.mk fun env => (.ok (Ordered.keys env).head?, env)

/-- The value of what is done, unless a name is missing for it. -/
def missing? {α : Type} (x : Act α) : Act (Option α) :=
  ExceptT.mk fun env =>
    match x.exec env with
    | (.ok a, env) => (.ok (some a), env)
    | (.error .removal, env) => (.error .removal, env)
    | (.error _, env) => (.ok none, env)

/-- The value of a name, or a default. -/
def get (name : Text) : (default? : Option Value) → Act Value
  | none => read name
  | some default => do return (← missing? (read name)).getD default

/-- Takes a name away, and gives its value, or the default if there is no such name. -/
def pop (name : Text) (default? : Option Value) : Act Value := do
  match ← missing? (read name) with
  | some v =>
    delete name
    return v
  | none =>
    match default? with
    | some v => return v
    | none => throw (.unbound name)

/-- Takes the first name away, and gives it with its value. -/
def popItem : Act (Text × Value) := do
  match ← first with
  | none => throw .empty
  | some name =>
    let v ← read name
    delete name
    return (name, v)

/-- Takes names away until there is none, at most so many. -/
def popItems : Nat → Act Unit
  | 0 => return
  | n + 1 => do
    match ← missing? popItem with
    | none => return
    | some _ => popItems n

/-- Takes all names away. -/
def clear : Act Unit := do popItems ((← getThe Environment).length + 1)

/-- The value of a name, which is given the default if it has none. -/
def setDefault (name : Text) (default : Value) : Act Value := do
  match ← missing? (read name) with
  | some v => return v
  | none =>
    write name default
    return default

/-- Writes entries, one after the other. -/
def update (entries : Ordered Value) : Act Unit := entries.forM fun p => write p.1 p.2

/-! ### What they do -/

variable {α β : Type} (env : Environment)

theorem exec_bind (x : Act α) (k : α → Act β) :
    (x >>= k).exec env =
      match x.exec env with
      | (.ok a, env) => (k a).exec env
      | (.error e, env) => (.error e, env) := by
  have hbind : (x >>= k).exec env = StateT.run (ExceptT.bindCont k (x.exec env).1) (x.exec env).2 := rfl
  rw [hbind]
  rcases x.exec env with ⟨e | a, env'⟩ <;> rfl

theorem exec_missing? (x : Act α) :
    (missing? x).exec env =
      match x.exec env with
      | (.ok a, env) => (.ok (some a), env)
      | (.error .removal, env) => (.error .removal, env)
      | (.error _, env) => (.ok none, env) := rfl

theorem exec_missing?_read (name : Text) : (missing? (read name)).exec env = (.ok (Ordered.get? env name), env) := by
  have hread : (read name).exec env = (env.find name, env) := rfl
  rw [exec_missing?, hread, find]
  cases Ordered.get? env name <;> rfl

/-- Taking away a name that is there fails, as it would have to be deleted. -/
theorem exec_pop (name : Text) (default? : Option Value) : (pop name default?).exec env = (env.pop name default?, env) := by
  unfold pop
  rw [exec_bind, exec_missing?_read, Environment.pop.eq_def, Ordered.contains]
  cases Ordered.get? env name with
  | some v => rfl
  | none => cases default? <;> rfl

/-- So does taking away the first name. -/
theorem exec_popItem : popItem.exec env = (env.popItem, env) := by
  cases env with
  | nil => rfl
  | cons p env =>
    have hfirst : find (p :: env) p.1 = .ok p.2 := by rw [find, Ordered.get?_cons, if_pos rfl]
    have hread : (read p.1).exec (p :: env) = (.ok p.2, p :: env) := by
      rw [← hfirst]
      rfl
    have hhead : first.exec (p :: env) = (.ok (some p.1), p :: env) := rfl
    unfold popItem
    rw [exec_bind, hhead]
    show (read p.1 >>= fun v => delete p.1 >>= fun _ => pure (p.1, v)).exec (p :: env) = _
    rw [exec_bind, hread]
    rfl

/-- Hence names are taken away only if there are none, however often that is tried. -/
theorem exec_popItems (n : Nat) : (popItems (n + 1)).exec env = (env.clear, env) := by
  unfold popItems
  rw [exec_bind, exec_missing?, exec_popItem, Environment.popItem, Environment.clear]
  cases env <;> rfl

theorem exec_clear : clear.exec env = (env.clear, env) := exec_popItems env env.length

theorem exec_setDefault (name : Text) (default : Value) :
    (setDefault name default).exec env = (.ok (env.ensure name default).1, (env.ensure name default).2) := by
  unfold setDefault
  rw [exec_bind, exec_missing?_read, ensure]
  cases Ordered.get? env name <;> rfl

theorem exec_update (entries : Ordered Value) : (update entries).exec env = (.ok (), Ordered.overlay env entries) := by
  induction entries generalizing env with
  | nil => rfl
  | cons p entries ih =>
    have hwrite : (write p.1 p.2).exec env = (.ok (), Ordered.put p.1 p.2 env) := rfl
    have hcons : update (p :: entries) = (write p.1 p.2 >>= fun _ => update entries) := rfl
    rw [hcons, exec_bind, hwrite]
    exact ih (Ordered.put p.1 p.2 env)

theorem exec_get (name : Text) (default? : Option Value) :
    ((get name default?).exec env).2 = env := by
  cases default? with
  | none => rfl
  | some default =>
    unfold get
    rw [exec_bind, exec_missing?_read]
    rfl

end Act

/-! ### Operations -/

/-- What can be done to an environment. -/
inductive Operation where
  | set (name : Text) (v : Value)
  | get (name : Text) (default? : Option Value)
  | del (name : Text)
  | pop (name : Text) (default? : Option Value)
  | popItem
  | clear
  | setDefault (name : Text) (default : Value)
  | update (entries : Ordered Value)
  /-- The text of a template. -/
  | resolve (t : Text)
  /-- The value of an expression. -/
  | evaluate (t : Text)

/-- What an operation answers. -/
inductive Answer where
  | nothing
  | value (v : Value)
  | item (name : Text) (v : Value)
  | text (t : Text)
  /-- The number of an environment. -/
  | number (i : Nat)

/-- Why an operation fails. -/
inductive Trouble where
  | mapping (e : Error)
  | expression (f : Expression.Failure)

/-- What is done to an environment, as an operation. -/
def Act.told {α : Type} (x : Act α) (f : α → Answer) (env : Environment) : Except Trouble Answer × Environment :=
  (((x.exec env).1.map f).mapError .mapping, (x.exec env).2)

/-- What an operation answers, and what becomes of the environment. -/
def Operation.exec : Operation → Environment → Except Trouble Answer × Environment
  | .set name v => (Act.write name v).told fun _ => .nothing
  | .get name default? => (Act.get name default?).told .value
  | .del name => (Act.delete name).told fun _ => .nothing
  | .pop name default? => (Act.pop name default?).told .value
  | .popItem => Act.popItem.told fun item => .item item.1 item.2
  | .clear => Act.clear.told fun _ => .nothing
  | .setDefault name default => (Act.setDefault name default).told .value
  | .update entries => (Act.update entries).told fun _ => .nothing
  | .resolve t => fun env => (((Template.resolve env t).map .text).mapError .expression, env)
  | .evaluate t => fun env => (((Expression.evaluate env t).map .value).mapError .expression, env)

namespace Operation

variable {env : Environment} {op : Operation}

/-- There are only three operations that change an environment, all of them by writing; they never fail. -/
theorem exec_cases (op : Operation) (env : Environment) :
    (op.exec env).2 = env ∨
      ∃ (entries : Ordered Value) (a : Answer), op.exec env = (.ok a, Ordered.overlay env entries) := by
  cases op with
  | set name v => exact .inr ⟨[(name, v)], .nothing, rfl⟩
  | get name default? => exact .inl (Act.exec_get env name default?)
  | del name => exact .inl rfl
  | pop name default? => exact .inl (congrArg Prod.snd (Act.exec_pop env name default?))
  | popItem => exact .inl (congrArg Prod.snd (Act.exec_popItem env))
  | clear => exact .inl (congrArg Prod.snd (Act.exec_clear env))
  | setDefault name default =>
    have hexec : (setDefault name default).exec env =
        (.ok (.value (env.ensure name default).1), (env.ensure name default).2) := by
      rw [exec, Act.told, Act.exec_setDefault]
      rfl
    rw [hexec, ensure]
    cases Ordered.get? env name with
    | some v => exact .inl rfl
    | none => exact .inr ⟨[(name, default)], .value default, rfl⟩
  | update entries =>
    refine .inr ⟨entries, .nothing, ?_⟩
    rw [exec, Act.told, Act.exec_update]
    rfl
  | resolve t => exact .inl rfl
  | evaluate t => exact .inl rfl

theorem extends_exec (op : Operation) (env : Environment) : Ordered.Extends env (op.exec env).2 := by
  rcases op.exec_cases env with hsame | ⟨entries, a, hwritten⟩
  · rw [hsame]
    exact .refl env
  · rw [hwritten]
    exact Ordered.extends_overlay env entries

theorem exec_snd_of_error {e : Trouble} (h : (op.exec env).1 = .error e) : (op.exec env).2 = env := by
  rcases op.exec_cases env with hsame | ⟨entries, a, hwritten⟩
  · exact hsame
  · rw [hwritten] at h
    cases h

theorem exec_pop_of_mem {name : Text} (h : name ∈ Ordered.keys env) (default? : Option Value) :
    ((pop name default?).exec env).1 = .error (.mapping .removal) := by
  have hcontains : Ordered.contains env name = true := Ordered.isSome_get?_iff.2 h
  rw [exec, Act.told, Act.exec_pop, Environment.pop.eq_def, if_pos hcontains]
  rfl

theorem exec_popItem_of_ne_nil (h : env ≠ []) : (popItem.exec env).1 = .error (.mapping .removal) := by
  rw [exec, Act.told, Act.exec_popItem, Environment.popItem, if_neg (by simpa using h)]
  rfl

theorem exec_clear_of_ne_nil (h : env ≠ []) : (clear.exec env).1 = .error (.mapping .removal) := by
  rw [exec, Act.told, Act.exec_clear, Environment.clear, if_neg (by simpa using h)]
  rfl

end Operation

/-! ### Steps -/

/-- A step with one of several environments: something is done to it, or it is copied. -/
inductive Step where
  | on (i : Nat) (op : Operation)
  | copy (i : Nat)

/-- What a step answers, and what becomes of the environments. A copy is added to them. -/
def Step.exec (envs : List Environment) : Step → Except Trouble Answer × List Environment
  | .on i op =>
    match envs[i]? with
    | some env => ((op.exec env).1, envs.set i (op.exec env).2)
    | none => (.ok .nothing, envs)
  | .copy i =>
    match envs[i]? with
    | some env => (.ok (.number envs.length), envs ++ [env])
    | none => (.ok .nothing, envs)

/-- What becomes of environments by steps, one after the other. -/
def run (envs : List Environment) (steps : List Step) : List Environment :=
  steps.foldl (fun envs step => (step.exec envs).2) envs

namespace Step

variable {envs : List Environment} {i j : Nat}

theorem exec_on {env : Environment} (h : envs[i]? = some env) (op : Operation) :
    exec envs (.on i op) = ((op.exec env).1, envs.set i (op.exec env).2) := by
  rw [exec, h]

theorem exec_copy {env : Environment} (h : envs[i]? = some env) :
    exec envs (.copy i) = (.ok (.number envs.length), envs ++ [env]) := by
  rw [exec, h]

theorem exec_of_none (h : envs[i]? = none) (op : Operation) :
    exec envs (.on i op) = (.ok .nothing, envs) ∧ exec envs (.copy i) = (.ok .nothing, envs) := by
  rw [exec, exec, h]
  exact ⟨rfl, rfl⟩

/-- Doing something to one environment is not seen in another. -/
theorem getElem?_exec_on (h : i ≠ j) (op : Operation) : (exec envs (.on i op)).2[j]? = envs[j]? := by
  cases henv : envs[i]? with
  | none => rw [(exec_of_none henv op).1]
  | some env => rw [exec_on henv, List.getElem?_set_ne h]

/-- Nor is copying one. -/
theorem getElem?_exec_copy (hj : j < envs.length) : (exec envs (.copy i)).2[j]? = envs[j]? := by
  cases henv : envs[i]? with
  | none => rw [(exec_of_none henv .clear).2]
  | some env => rw [exec_copy henv, List.getElem?_append_left hj]

/-- In a step no environment is lost, and none of its names. -/
theorem grows (step : Step) {env : Environment} (h : envs[j]? = some env) :
    ∃ env', (step.exec envs).2[j]? = some env' ∧ Ordered.Extends env env' := by
  have hj : j < envs.length := (List.getElem?_eq_some_iff.1 h).1
  cases step with
  | copy i => exact ⟨env, (getElem?_exec_copy hj).trans h, .refl env⟩
  | on i op =>
    by_cases hij : i = j
    · subst hij
      refine ⟨(op.exec env).2, ?_, op.extends_exec env⟩
      rw [exec_on h, List.getElem?_set_self hj]
    · exact ⟨env, (getElem?_exec_on hij op).trans h, .refl env⟩

/-- A step that fails changes nothing. -/
theorem exec_of_error {step : Step} {e : Trouble} (h : (step.exec envs).1 = .error e) : (step.exec envs).2 = envs := by
  cases step with
  | copy i =>
    cases henv : envs[i]? with
    | none => rw [(exec_of_none henv .clear).2]
    | some env =>
      rw [exec_copy henv] at h
      cases h
  | on i op =>
    cases henv : envs[i]? with
    | none => rw [(exec_of_none henv op).1]
    | some env =>
      rw [exec_on henv] at h ⊢
      obtain ⟨hi, hget⟩ := List.getElem?_eq_some_iff.1 henv
      rw [op.exec_snd_of_error h, ← hget, List.set_getElem_self hi]

end Step

/-! ### Runs -/

theorem run_grows (steps : List Step) {envs : List Environment} {j : Nat} {env : Environment} (h : envs[j]? = some env) :
    ∃ env', (run envs steps)[j]? = some env' ∧ Ordered.Extends env env' := by
  induction steps generalizing envs env with
  | nil => exact ⟨env, h, .refl env⟩
  | cons step steps ih =>
    obtain ⟨env', henv', hstep⟩ := step.grows h
    obtain ⟨env'', henv'', hsteps⟩ := ih henv'
    exact ⟨env'', henv'', hstep.trans hsteps⟩

end PageQuery.Environment
