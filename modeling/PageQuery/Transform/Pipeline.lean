import PageQuery.Registry
import PageQuery.Transform.Textual
import PageQuery.Transform.Replacement
import PageQuery.Transform.Literal
import PageQuery.Transform.Selection

namespace PageQuery.Transform

/-!
# The pipeline

What happens to the value of a segment, always in this order: transforms, updates, filters, indices,
saving and keeping. The transforms and updates are applied to each item of a list.

* `applyTransform`, `applyUpdate`: one entry on one value;
* `applyPipeline`: all entries, with the values saved into an environment.
-/

/-- What transforms can see besides the value. -/
structure Context where
  /-- The scopes in which a name is looked up, one after the other. -/
  scopes : List Scope := []
  sandbox : Option Sandbox := none

/-- The function of a spec in the first scope that has one, under the whole spec or under its name. -/
def Context.find? (ctx : Context) (spec name : Text) : Option Function :=
  ctx.scopes.findSome? fun s => (s.find? spec).or (s.find? name)

/-- The names that a script is asked for. -/
def scriptNames (names : Text) : List Text :=
  ((Text.split ',' names).map Text.trim).filter (! ·.isEmpty)

/-- The value that the sandbox gives for the text of a value as a script. -/
def applyScript (v : Value) (names : Option Text) (sandbox : Option Sandbox) : Run Value :=
  if v.isNull then return .null
  else match sandbox with
    | none => do
      Run.note .sandboxMissing
      return .null
    | some box => do
      let script := Text.trim (← Run.text v)
      if script.isEmpty then return .null
      let names := names.map scriptNames
      modify (·.record (.call script names))
      match box.evaluate script names with
      | .ok v => return v
      | .error e =>
        Run.note (.scriptFailed e)
        return .null

/-- A map overlaid by the map that JSON text stands for; other values stay as they are. -/
def applyUpdate (v : Value) (update : Text) : Run Value :=
  match v with
  | .map entries =>
    match Json.read update with
    | .error e => do
      Run.note (.updateText update e.message)
      return v
    | .ok (.map changes) => return .map (Entries.overlay entries changes)
    | .ok _ => do
      Run.note (.updateKind update)
      return v
  | v => return v

/-- A text that is there only if it is not empty. -/
def nonEmpty? (t : Text) : Option Text := if t.isEmpty then none else some t

/-- One transform of one value: the part before the colon is its name, the part after it what it is
    given. An unknown one leaves the value as it is. -/
def applyTransform (ctx : Context) (v : Value) (spec : Text) : Run Value :=
  if v.isNull then return .null
  else
    let spec := Text.trim spec
    let (name, arg?) := Text.cut ':' spec
    let arg := arg?.getD []
    if name = "regexp" then applyRegexp v arg
    else if name = "json" then applyJson v (nonEmpty? arg)
    else if name = "jseval" then applyScript v (nonEmpty? arg) ctx.sandbox
    else match textual? name with
      | some f => do f (← Run.text v)
      | none =>
        match ctx.find? spec name with
        | some f => Run.of (f v)
        | none => do
          Run.note (.unknownTransform spec)
          return v

/-- A function applied to a value, or to each item of a list. -/
def each (f : Value → Run Value) : Value → Run Value
  | .list items => do return .list (← items.mapM f)
  | v => f v

/-- A list without the items that cannot be part of a result. -/
def dropInvalid : Value → Value
  | .list items => .list (items.filter Value.isValid)
  | v => v

/-- The names under which a value is saved. -/
def saveNames (ts : Query.Transforms) : List Text := (ts.save.map Text.trim).filter (! ·.isEmpty)

/-- The value after transforms, updates, filters and indices. -/
def applyStages (ctx : Context) (ts : Query.Transforms) (v : Value) : Run Value := do
  let v ← ts.transform.foldlM
    (fun v spec => do return dropInvalid (← each (applyTransform ctx · spec) v)) v
  let v ← ts.update.foldlM (fun v spec => each (applyUpdate · spec) v) v
  let v ← ts.filter.foldlM (fun v spec => Run.of ((applyFilter v spec).mapError .ofRender)) v
  ts.index.foldlM applyIndex v

/-- What saving and keeping make of a value: the environment in which it is saved, and the value,
    discarded if it is saved and not kept. -/
def saveAndKeep (ts : Query.Transforms) (env : Environment) (v : Value) : Value × Environment :=
  if v.isNull then (v, env)
  else
    let names := saveNames ts
    let env := names.foldl (fun env name => Ordered.put name v env) env
    if !names.isEmpty && !ts.keeps Text.lower then (.discarded v, env) else (v, env)

/-- All stages, with the environment in which values are saved. -/
def applyPipeline (ctx : Context) (ts : Query.Transforms) (env : Environment) (v : Value) :
    Run (Value × Environment) := do
  return saveAndKeep ts env (← applyStages ctx ts v)

end PageQuery.Transform
