import PageQuery.Proofs.Environment
import PageQuery.Proofs.Run
import PageQuery.Proofs.Value.Data
import PageQuery.Transform.Pipeline

namespace PageQuery

/-!
# What a pipeline saves

A pipeline saves its value under all of its names or under none. Here the pipeline is written once more, with an
environment that is changed in place: what has been written when a fault ends the pipeline stays written. Nothing is,
since the names are written when all that may fail is done.

* `Storing`: computations that change an environment in place;
* `Storing.ofRun_bind`, `Storing.ofRun_mapM`, `Storing.ofRun_foldlM`: computations that do not see the environment;
* `Transform.storePipeline`: the pipeline that writes in place;
* `Transform.Stored`, `Transform.Discards`: what is saved, and whether the value is part of the result all the same;
* `Transform.exec_storePipeline`: a pipeline saves under all names or under none.
-/

/-- A computation that may add to a session, write to an environment and end in a fault; what it has written is kept. -/
abbrev Storing := ExceptT Fault (StateM (Session × Environment))

namespace Storing

variable {α β : Type}

/-- What a computation gives, and the session and the environment that it leaves. -/
def exec (r : Storing α) (s : Session) (env : Environment) : Except Fault α × Session × Environment :=
  Id.run (StateT.run r.run (s, env))

/-- A computation that does not see the environment. -/
def ofRun (r : Run α) : Storing α :=
  ExceptT.mk fun (s, env) => ((r.exec s).1, (r.exec s).2, env)

/-- Writes a value under a name. -/
def write (name : Text) (v : Value) : Storing Unit := modify fun (s, env) => (s, Ordered.put name v env)

theorem exec_ofRun (r : Run α) (s : Session) (env : Environment) :
    (ofRun r).exec s env = ((r.exec s).1, (r.exec s).2, env) := rfl

/-- A computation goes on with what the one before it gives and leaves. -/
theorem exec_bind (r : Storing α) (k : α → Storing β) (s : Session) (env : Environment) :
    (r >>= k).exec s env =
      match r.exec s env with
      | (.ok a, s', env') => (k a).exec s' env'
      | (.error f, s', env') => (.error f, s', env') := by
  have hbind : (r >>= k).exec s env = Id.run (StateT.run (ExceptT.bindCont k (r.exec s env).1) (r.exec s env).2) := rfl
  rw [hbind]
  rcases r.exec s env with ⟨f | a, s', env'⟩ <;> rfl

/-- Names that are written one after the other. -/
theorem exec_forM_write (names : List Text) (v : Value) (s : Session) (env : Environment) :
    (names.forM fun name => write name v).exec s env =
      (.ok (), s, names.foldl (fun env name => Ordered.put name v env) env) := by
  induction names generalizing env with
  | nil => rfl
  | cons name names ih =>
    show (write name v >>= fun _ => names.forM fun name => write name v).exec s env = _
    rw [exec_bind]
    exact ih (Ordered.put name v env)

/-! ### Computations that do not see the environment -/

theorem ofRun_bind (r : Run α) (k : α → Run β) : ofRun (r >>= k) = ofRun r >>= fun a => ofRun (k a) := by
  funext ⟨s, env⟩
  show (ofRun (r >>= k)).exec s env = (ofRun r >>= fun a => ofRun (k a)).exec s env
  rw [exec_bind, exec_ofRun, exec_ofRun, Run.exec_bind]
  rcases r.exec s with ⟨f | a, s'⟩ <;> rfl

theorem ofRun_mapM (f : α → Run β) (as : List α) : ofRun (as.mapM f) = as.mapM fun a => ofRun (f a) := by
  induction as with
  | nil => rfl
  | cons a as ih =>
    rw [List.mapM_cons, List.mapM_cons, ofRun_bind, ← ih]
    congr 1
    funext b
    exact ofRun_bind _ _

theorem ofRun_foldlM (f : β → α → Run β) (as : List α) (b : β) :
    ofRun (as.foldlM f b) = as.foldlM (fun b a => ofRun (f b a)) b := by
  induction as generalizing b with
  | nil => rfl
  | cons a as ih =>
    rw [List.foldlM_cons, List.foldlM_cons, ofRun_bind]
    congr 1
    funext b'
    exact ih b'

end Storing

namespace Transform

open Storing (ofRun)

/-! ### The pipeline in place -/

/-- A function applied in place to a value, or to each item of a list. -/
def storeEach (f : Value → Storing Value) : Value → Storing Value
  | .list items => do return .list (← items.mapM f)
  | v => f v

/-- What is done with a value in place when the stages are done: it is written under one name after the other, and then
    discarded or not. -/
def store (ts : Query.Transforms) (v : Value) : Storing Value := do
  let names := saveNames ts
  if !v.isNull then
    names.forM fun name => Storing.write name v
  return if !names.isEmpty && !ts.keeps Text.lower && !v.isNull then .discarded v else v

/-- All stages, with the environment changed in place. -/
def storePipeline (ctx : Context) (ts : Query.Transforms) (v : Value) : Storing Value := do
  let v ← ts.transform.foldlM
    (fun v spec => do return dropInvalid (← storeEach (fun v => ofRun (applyTransform ctx v spec)) v)) v
  let v ← ts.update.foldlM (fun v spec => storeEach (fun v => ofRun (applyUpdate v spec)) v) v
  let v ← ts.filter.foldlM (fun v spec => ofRun (Run.of ((applyFilter v spec).mapError .ofRender))) v
  let v ← ts.index.foldlM (fun v spec => ofRun (applyIndex v spec)) v
  store ts v

theorem ofRun_each (f : Value → Run Value) (v : Value) : ofRun (each f v) = storeEach (fun v => ofRun (f v)) v := by
  cases v with
  | list items =>
    rw [each, storeEach, Storing.ofRun_bind, Storing.ofRun_mapM]
    rfl
  | _ => rfl

/-- None of the stages sees the environment. -/
theorem storePipeline_eq (ctx : Context) (ts : Query.Transforms) (v : Value) :
    storePipeline ctx ts v = ofRun (applyStages ctx ts v) >>= store ts := by
  -- the loops of the stages are carried over one by one, down to what is done to an item
  simp only [applyStages, Storing.ofRun_bind, Storing.ofRun_foldlM, ofRun_each, bind_assoc]
  rfl

/-- Nothing fails any more when the stages are done. -/
theorem exec_store (ts : Query.Transforms) (v : Value) (s : Session) (env : Environment) :
    (store ts v).exec s env = (.ok (saveAndKeep ts env v).1, s, (saveAndKeep ts env v).2) := by
  cases hnull : v.isNull with
  | true =>
    simp only [store, saveAndKeep, hnull, Bool.not_true, Bool.and_false, if_true, Bool.false_eq_true, if_false]
    rfl
  | false =>
    simp only [store, saveAndKeep, hnull, Bool.not_false, Bool.and_true, if_true, Bool.false_eq_true, if_false,
      Storing.exec_bind, Storing.exec_forM_write]
    split <;> rfl

/-! ### What is saved -/

/-- A value has been saved under names. All others are as they were, in their places; new ones come after them, each
    once, in the order in which they are saved. -/
structure Stored (names : List Text) (v : Value) (env env' : Environment) : Prop where
  saved : ∀ name ∈ names, Ordered.get? env' name = some v
  same : ∀ name, name ∉ names → Ordered.get? env' name = Ordered.get? env name
  keys : Ordered.keys env' =
    Ordered.keys env ++ (names.filter fun name => !(Ordered.keys env).contains name).eraseDups

theorem stored_foldl_put (names : List Text) (v : Value) (env : Environment) :
    Stored names v env (names.foldl (fun env name => Ordered.put name v env) env) where
  saved := fun name hname => by rw [Ordered.get?_foldl_put, if_pos hname]
  same := fun name hname => by rw [Ordered.get?_foldl_put, if_neg hname]
  keys := Ordered.keys_foldl_put names v env

/-- A value is saved under a name at least, and there is no `keep`, or it is `false` somewhere. -/
def Discards (ts : Query.Transforms) : Prop :=
  saveNames ts ≠ [] ∧ (ts.keep = none ∨ ∃ t ∈ ts.keep.getD [], Text.lower (Text.trim t) = "false")

instance (ts : Query.Transforms) : Decidable (Discards ts) := inferInstanceAs (Decidable (_ ∧ (_ ∨ _)))

theorem discards_iff {ts : Query.Transforms} :
    Discards ts ↔ (!(saveNames ts).isEmpty && !ts.keeps Text.lower) = true := by
  unfold Discards Query.Transforms.keeps
  cases ts.keep <;> simp

/-- Nothing is saved, and there is nothing to mark. -/
theorem saveAndKeep_null (ts : Query.Transforms) (env : Environment) : saveAndKeep ts env .null = (.null, env) := rfl

/-- A value is saved under all names, and marked if it is discarded. -/
theorem saveAndKeep_of_ne_null {v : Value} (hv : v ≠ .null) (ts : Query.Transforms) (env : Environment) :
    saveAndKeep ts env v =
      (if Discards ts then .discarded v else v,
        (saveNames ts).foldl (fun env name => Ordered.put name v env) env) := by
  rw [saveAndKeep, if_neg fun hnull => hv (Value.isNull_iff.1 hnull)]
  simp only [discards_iff]
  split <;> rfl

/-- What a pipeline gives and leaves when the stages are done. -/
theorem exec_applyPipeline (ctx : Context) (ts : Query.Transforms) (env : Environment) (v : Value) (s : Session) :
    (applyPipeline ctx ts env v).exec s =
      match (applyStages ctx ts v).exec s with
      | (.ok w, s') => (.ok (saveAndKeep ts env w), s')
      | (.error f, s') => (.error f, s') := by
  rw [applyPipeline, Run.exec_bind]
  rcases (applyStages ctx ts v).exec s with ⟨f | w, s'⟩ <;> rfl

/-- A pipeline saves under all of its names or under none, whether the environment is changed in place or given back. If
    a stage fails, or the stages leave nothing, the environment is as it was. If they leave a value, this value is saved
    under every name and given back, marked as discarded or not. -/
theorem exec_storePipeline (ctx : Context) (ts : Query.Transforms) (v : Value) (s : Session) (env : Environment) :
    match (applyStages ctx ts v).exec s with
    | (.error f, s') =>
      (storePipeline ctx ts v).exec s env = (.error f, s', env) ∧
        (applyPipeline ctx ts env v).exec s = (.error f, s')
    | (.ok w, s') =>
      ∃ out env', (storePipeline ctx ts v).exec s env = (.ok out, s', env') ∧
        (applyPipeline ctx ts env v).exec s = (.ok (out, env'), s') ∧
        ((w = .null ∧ out = .null ∧ env' = env) ∨
          (w ≠ .null ∧ Stored (saveNames ts) w env env' ∧ out = if Discards ts then .discarded w else w)) := by
  rw [storePipeline_eq, Storing.exec_bind, Storing.exec_ofRun, exec_applyPipeline]
  rcases (applyStages ctx ts v).exec s with ⟨f | w, s'⟩
  · -- a stage has failed, and the names come behind the stages
    exact ⟨rfl, rfl⟩
  refine ⟨(saveAndKeep ts env w).1, (saveAndKeep ts env w).2, exec_store ts w s' env, rfl, ?_⟩
  by_cases hw : w = .null
  · rw [hw, saveAndKeep_null]
    exact .inl ⟨rfl, rfl, rfl⟩
  · rw [saveAndKeep_of_ne_null hw]
    exact .inr ⟨hw, stored_foldl_put (saveNames ts) w env, rfl⟩

/-- A blank name is none, an old one keeps its place, and a new one comes last. -/
example :
    ((storePipeline {} { save := [" x ", " ", "y"] } (.text "v")).exec {}
      [("a", .int 1), ("y", .int 2)]).2.2 = ([("a", .int 1), ("y", .text "v"), ("x", .text "v")] : Environment) := rfl

end Transform

end PageQuery
