import PageQuery.Format.Writer
import PageQuery.Page
import PageQuery.Path.Address
import PageQuery.Path.Data
import PageQuery.Path.Document
import PageQuery.Query.Parser
import PageQuery.Transform.Pipeline

namespace PageQuery

/-!
# Running queries

A query runs against a part of a page. Its segments give results one after the other, and values that
they save are seen by the segments after them.

* `Execution.runSegment`, `Execution.runChain`: one segment, and the segments of one stage;
* `Execution.run`: a whole query;
* `Outcome.value`, `Outcome.nodes`: what a query has found, as a value and as parts of pages.
-/

/-- What a query has found. -/
structure Outcome where
  results : Results
  /-- What the last stage ran against. -/
  node : Node
  environment : Environment
  deriving Repr, Inhabited

namespace Execution

open Query (Segment Scheme Transforms)

/-! ### One segment -/

/-- The text of a template, with a remark for each placeholder that stays. -/
def fill (env : Environment) (t : Text) : Run Text := do
  (Template.unresolved env t).forM fun (placeholder, e) => Run.note (.unresolved placeholder e.message)
  Run.of ((Template.resolve env t).mapError .expression)

/-- The texts of templates. -/
def fillAll (env : Environment) (ts : List Text) : Run (List Text) := ts.mapM (fill env)

/-- Transforms with their templates filled. -/
def fillTransforms (env : Environment) (ts : Transforms) : Run Transforms := do
  return {
    transform := ← fillAll env ts.transform
    update := ← fillAll env ts.update
    filter := ← fillAll env ts.filter
    index := ← fillAll env ts.index
    save := ← fillAll env ts.save
    keep := ← ts.keep.mapM (fillAll env) }

/-- The matches of a path. -/
def resolve (scheme : Scheme) (n : Node) (path : Text) (parameters : Ordered (List Text)) :
    Run (List Value) :=
  match scheme with
  | .template => return [.text path]
  | .html =>
    match n.element with
    | some e => Path.document e path
    | none => return []
  | .json => Run.of ((Path.data n.data path).mapError .numeral)
  | .url => Path.address n.page.url path parameters

/-- The matches of a segment that are there, before anything is done to them. -/
def present (scheme : Scheme) (vs : List Value) : List Value :=
  match scheme with
  | .template => vs
  | _ => vs.filter fun v => !v.isNull

/-- The results that the value of a pipeline gives: the items of a list only if there were several
    matches. -/
def resultsOf (several : Bool) (v : Value) : Results :=
  match several, v with
  | true, .list vs => vs.filter Value.isValid
  | _, v => if v.isValid then [v] else []

/-- The results of one segment. Several matches pass through the pipeline as one list. -/
def runSegment (ctx : Transform.Context) (s : Segment) (n : Node) (env : Environment) :
    Run (Results × Environment) := do
  let path ← fill env s.path
  let parameters ← s.parameters.mapM fun (name, ts) => do return (name, ← fillAll env ts)
  let transforms ← fillTransforms env s.transforms
  match present s.scheme (← resolve s.scheme n path parameters) with
  | [] => return ([], env)
  | [v] =>
    let (v, env) ← Transform.applyPipeline ctx transforms env v
    return (resultsOf false v, env)
  | vs =>
    let (v, env) ← Transform.applyPipeline ctx transforms env (.list vs)
    return (resultsOf true v, env)

/-! ### The nodes that segments run against -/

/-- The node for a segment that runs once for each result. -/
def nodeFor (scheme : Scheme) (v : Value) (base : Node) : Run Node :=
  match scheme, v with
  | .html, .element e => return ⟨base.page, some e, .null⟩
  | .html, .map _ | .html, .list _ => return ⟨base.page, none, v⟩
  | .html, v => do return ⟨base.page, some (← Run.of (readDocument (← Run.text v))), .null⟩
  | .json, .map _ | .json, .list _ => return ⟨base.page, none, v⟩
  | .json, .element e => do
    return ⟨base.page, some e, Transform.decode (.text (← Run.text v))⟩
  | .json, v => return ⟨base.page, none, Transform.decode v⟩
  | .url, v => do return (← Run.of (Page.build (← Run.text v) [] .null [])).root
  | .template, v => return ⟨base.page, base.element, v⟩

/-- The node that the stage after an array pipe runs against: the results as one JSON list. -/
def arrayNode (base : Node) (vs : List Value) : Run Node := do
  let t ← Run.of ((Json.write .line (Value.list vs).bare).mapError .writing)
  let data := (Json.read? t).getD (.text t)
  return (← Run.of (Page.build base.page.url [] data [])).root

/-! ### Chains and queries -/

/-- A segment run once for each of some values. -/
def runPiped (ctx : Transform.Context) (s : Segment) (base : Node) :
    List Value → Environment → Run (Results × Environment)
  | [], env => return ([], env)
  | v :: rest, env => do
    let (found, env) ← runSegment ctx s (← nodeFor s.scheme v base) env
    let (others, env) ← runPiped ctx s base rest env
    return (found ++ others, env)

/-- The results after one more segment of a chain: what it finds for each result so far, or besides
    them. -/
def next (ctx : Transform.Context) (n : Node) (first : Bool) (found : Results) (s : Segment)
    (env : Environment) : Run (Results × Environment) := do
  if s.piped && !first then runPiped ctx s n found.opened env
  else
    let (more, env) ← runSegment ctx s n env
    return (found ++ more, env)

/-- The form of values in a remark. -/
def shownItems (vs : List Value) : Text := (Value.list vs).shown.toOption.getD []

/-- The results of the segments of a chain, of which `found` have been found before; `first` says that
    no segment has come before. -/
def runFrom (ctx : Transform.Context) (n : Node) :
    (first : Bool) → (found : Results) → List Segment → Environment → Run (Results × Environment)
  | _, found, [], env => return (found, env)
  | first, found, s :: rest, env => do
    if !found.isEmpty && !s.required && !s.piped then
      Run.note (.skipped s.source)
      runFrom ctx n false found rest env
    else
      let (found, env) ← next ctx n first found s env
      Run.note (.reached s.source (shownItems found))
      runFrom ctx n false found rest env

/-- The results of a chain. -/
def runChain (ctx : Transform.Context) (ss : List Segment) (n : Node) (env : Environment) :
    Run (Results × Environment) := runFrom ctx n true [] ss env

/-- The results of the last stage, where the results of each stage but the last are handed on as one
    list. -/
def runStages (ctx : Transform.Context) : List (List Segment) → Node → Environment → Run Outcome
  | [], n, env => return ⟨[], n, env⟩
  | [last], n, env => do
    let (found, env) ← runChain ctx last n env
    return ⟨found.kept, n, env⟩
  | ss :: rest, n, env => do
    let (found, env) ← runChain ctx ss n env
    let n ← arrayNode n (flattenedItems found.kept)
    Run.note (.handedOn (n.data.shown.toOption.getD []) (shownItems ((Text.sort env.keys).map .text)))
    runStages ctx rest n env

/-- Whether a query asks for the sandbox. -/
def usesSandbox (q : Query) : Bool := q.usesTransform "jseval"

/-- A query run against a part of a page, with some variables set. The sandbox is reset if the query
    asks for it. -/
def run (ctx : Transform.Context) (q : Query) (n : Node) (initial : Environment) : Run Outcome := do
  let env := Environment.seeded n.page.url (← Run.of n.page.origin) initial
  if usesSandbox q && ctx.sandbox.isSome then modify (·.record .reset)
  runStages ctx q.stages n env

end Execution

namespace Outcome

/-- The results as one value. -/
def value (o : Outcome) : Value := Results.simplified o.results

/-- The results as parts of the page that the last stage ran against. -/
def nodes (o : Outcome) : List Node :=
  o.results.map fun
    | .element e => ⟨o.node.page, some e, .null⟩
    | v => ⟨o.node.page, none, v⟩

/-- The results as one text, where the items of a list stand between separators. -/
def text (o : Outcome) (separator : Text) : Run Text :=
  match o.value with
  | .list vs => do return Text.join separator (← vs.mapM Run.text)
  | .null => return []
  | v => Run.text v

end Outcome

end PageQuery
