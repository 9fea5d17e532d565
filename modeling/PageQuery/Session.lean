import PageQuery.Fault
import PageQuery.Log

namespace PageQuery

/-!
# Sessions

What running queries leaves behind besides values.

* `Notice`: a remark about something that was done or passed over, and `Notice.level`, how much it
  matters;
* `Sandbox`: the outside evaluator of scripts, and `Event`, what it has been asked to do;
* `Session`: the notices and events so far;
* `Run`: a computation that may add to a session or end in a fault.
-/

/-- A remark about something that was done or passed over. The details come from whatever found
    fault. -/
inductive Notice where
  /-- A query was parsed; so many stages it has. -/
  | parsed (query : Text) (stages : Nat)
  /-- A placeholder was left as it is. -/
  | unresolved (placeholder detail : Text)
  /-- A segment was passed over, since there were results. -/
  | skipped (source : Text)
  /-- The results after a segment, as they are shown. -/
  | reached (source results : Text)
  /-- What an array pipe hands on, and the names that are known then, as they are shown. -/
  | handedOn (items names : Text)
  | undecodable (start detail : Text)
  | regexpForm (body : Text)
  | regexpPattern (pattern detail : Text)
  | jsonText (start : Text)
  | sandboxMissing
  | scriptFailed (detail : Text)
  | updateText (update detail : Text)
  | updateKind (update : Text)
  | index (spec : Text)
  | unknownTransform (spec : Text)
  | selector (t detail : Text)
  | port (t : Text)
  deriving Repr, DecidableEq

namespace Notice

/-- The text of a remark. `reveal` says how the details are told. -/
def message (reveal : Text → Text) : Notice → Text
  | .parsed query n =>
    "parsed " ++ Text.quoted query ++ " into " ++ Text.ofNat n ++ " stage(s)"
  | .unresolved placeholder e => "placeholder " ++ placeholder ++ " left unresolved: " ++ reveal e
  | .skipped source => "skip " ++ source
  | .reached source results => "segment " ++ source ++ " -> QueryResult(" ++ results ++ [')']
  | .handedOn items names => "array pipe -> " ++ items ++ " vars " ++ names
  | .undecodable start e => "Failed to decode base64 " ++ Text.quoted start ++ ": " ++ reveal e
  | .regexpForm body =>
    "Invalid regexp format " ++ Text.quoted body ++ ". Use: /pattern/ or /pattern/replacement/"
  | .regexpPattern p e => "Failed to apply regexp: " ++ p ++ ", error: " ++ reveal e
  | .jsonText start => "Failed to parse JSON: " ++ Text.quoted start
  | .sandboxMissing =>
    "JavaScript sandbox not configured; pass sandbox= to QueryString to use jseval"
  | .scriptFailed e => "JavaScript evaluation failed: " ++ reveal e
  | .updateText u e => "Failed to apply update " ++ Text.quoted u ++ ": " ++ reveal e
  | .updateKind u => "Failed to apply update " ++ Text.quoted u ++ ": not a JSON object"
  | .index spec => "Invalid index " ++ Text.quoted spec ++ ", expected an integer"
  | .unknownTransform spec => "Unknown transform: " ++ spec
  | .selector t e => "Invalid CSS selector " ++ Text.quoted t ++ ": " ++ reveal e
  | .port t => "Ignoring invalid port " ++ Text.quoted t

/-- Whether a remark only follows the course of a query. -/
def isTrace : Notice → Bool
  | .skipped _ => true
  | .reached .. => true
  | .handedOn .. => true
  | _ => false

/-- How much a remark matters. -/
def level : Notice → Log.Level
  | .parsed .. => .debug
  | .unresolved .. => .debug
  | n => if n.isTrace then .debug else .warning

/-- The part of the program that a remark comes from. -/
def origin : Notice → Text
  | .parsed .. => "webq.webq_parser"
  | .unresolved .. => "webq.webq_variables"
  | .selector .. => "webq.webq_resolvers"
  | .port _ => "webq.webq_resolvers"
  | n => if n.isTrace then "webq.webq_engine" else "webq.webq_transforms"

end Notice

/-- An outside evaluator: the value, or the complaint, that a script gives when the named globals are
    asked for. -/
structure Sandbox where
  evaluate : (script : Text) → (names : Option (List Text)) → Except Text Value

/-- What a sandbox is asked to do. -/
inductive Event where
  | reset
  | call (script : Text) (names : Option (List Text))
  deriving Repr, DecidableEq

/-- What has happened so far. -/
structure Session where
  notices : List Notice := []
  events : List Event := []
  /-- The selectors that have been refused; each is warned about once. -/
  refused : List Text := []
  deriving Repr, DecidableEq

namespace Session

/-- The session with one more remark. -/
def note (n : Notice) (s : Session) : Session := { s with notices := s.notices ++ [n] }

/-- The remarks that warn of something. -/
def warnings (s : Session) : List Notice := s.notices.filter fun n => n.level == .warning

/-- The session with one more event. -/
def record (e : Event) (s : Session) : Session := { s with events := s.events ++ [e] }

/-- The session with a selector refused, and a warning if that is the first time. -/
def refuse (selector detail : Text) (s : Session) : Session :=
  if s.refused.contains selector then s
  else { s.note (.selector selector detail) with refused := selector :: s.refused }

/-- How often the sandbox was reset. -/
def resets (s : Session) : Nat := s.events.count .reset

/-- What the sandbox was asked to evaluate. -/
def calls (s : Session) : List (Text × Option (List Text)) :=
  s.events.filterMap fun
    | .reset => none
    | .call script names => some (script, names)

end Session

/-- A computation that may add to a session or end in a fault; what it has added is kept. -/
abbrev Run := ExceptT Fault (StateM Session)

namespace Run

/-- Adds a remark. -/
def note (n : Notice) : Run Unit := modify (·.note n)

/-- The outcome of a computation without a session. -/
def of {α : Type} (r : Except Fault α) : Run α := ExceptT.mk (pure r)

/-- The outcome of a computation, which may be a fault. -/
def attempt {α : Type} (r : Run α) : Run (Except Fault α) := ExceptT.mk (Except.ok <$> r.run)

/-- The text of a value. -/
def text (v : Value) : Run Text := of (v.render.mapError .ofRender)

end Run

end PageQuery
