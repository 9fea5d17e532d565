import PageQuery.Execution

namespace PageQuery

/-!
# Runners

A runner parses queries and runs them against pages. It keeps the queries that were used last, and turns
every fault into a report.

* `Cache.lookup`: a query from the cache, or parsed anew;
* `Attempt`: how running a query has gone;
* `Runner.attempt`: a query run against a page.
-/

/-- Parsed queries by their texts, the one used last first, and how often a query was found here. -/
structure Cache where
  capacity : Nat
  entries : List (Text × Query) := []
  hits : Nat := 0
  misses : Nat := 0
  deriving Repr, DecidableEq

namespace Cache

/-- A query found or parsed. One that cannot be parsed is not kept; of the others as many are kept as
    there is room for. -/
def lookup (c : Cache) (t : Text) : Except Query.FormatError Query × Cache :=
  match List.lookup t c.entries with
  | some q =>
    (.ok q, { c with entries := (t, q) :: c.entries.filter (·.1 != t), hits := c.hits + 1 })
  | none =>
    let c := { c with misses := c.misses + 1 }
    match Query.parse t with
    | .ok q => (.ok q, { c with entries := ((t, q) :: c.entries).take c.capacity })
    | .error e => (.error e, c)

end Cache

/-- How running a query has gone. -/
inductive Attempt where
  | success (value : Value) (environment : Environment)
  | failure (message : Text) (position : Option Nat)
  deriving Repr, Inhabited

namespace Attempt

/-- What a fault is called in a report, and what it says. -/
def describe : Fault → Text
  | .format (.unsupportedScheme scheme _) => "UnsupportedScheme: " ++ scheme
  | f => f.kind ++ ": " ++ f.message

/-- Where in a query the segment at fault stands, if the fault names one. -/
def place? (query : Text) : Fault → Option Nat
  | .format e => if e.source.isEmpty then none else Text.find? (Text.trim e.source) query
  | _ => none

/-- The report of a fault. -/
def ofFault (query : Text) (f : Fault) : Attempt := .failure (describe f) (place? query f)

/-- A failure in words, with a mark under its place in the query; empty for a success. -/
def text (query : Text) : Attempt → Text
  | .success .. => []
  | .failure message none => message
  | .failure message (some i) =>
    if query.isEmpty then message
    else message ++ "\n  " ++ query ++ "\n  " ++ List.replicate i ' ' ++ ['^']

end Attempt

namespace Runner

/-- A query run against a page, with some variables set. -/
def attempt (ctx : Transform.Context) (c : Cache) (query : Text) (page : Page)
    (env : Environment) : Run (Attempt × Cache) := do
  let isNew := (List.lookup query c.entries).isNone
  let (parsed, c) := c.lookup query
  if let .ok q := parsed then
    if isNew then Run.note (.parsed query q.stages.length)
  let outcome ← (do Execution.run ctx (← Run.of (parsed.mapError .format)) page.root env).attempt
  match outcome with
  | .ok o => return (.success o.value o.environment, c)
  | .error f => return (.ofFault query f, c)

end Runner

end PageQuery
