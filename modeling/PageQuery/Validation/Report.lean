import PageQuery.Query.Segment
import PageQuery.Value

namespace PageQuery.Validation

/-!
# Reports on queries

* `Finding`: something that is wrong, or may be wrong, at a place in a query;
* `Part`, `Summary`: what a query is made of;
* `Report`: all that is found out about a query without running it;
* `Report.value`, `Report.text`: a report as data and in words.
-/

/-- Whether a finding keeps a query from being run. -/
inductive Severity where
  | error
  | warning
  deriving Repr, DecidableEq

/-- Something to be said about a place in a query. A suggestion or example that is missing is empty. -/
structure Finding where
  message : Text
  position : Nat
  suggestion : Text := []
  example_ : Text := []
  part : Option Nat := none
  deriving Repr, DecidableEq

/-- A segment of a query as it was read. -/
structure Part where
  scheme : Text
  path : Text
  parameters : Ordered (List Text)
  transforms : Ordered (List Text)
  piped : Bool
  required : Bool
  deriving Repr, DecidableEq

/-- What a query is made of. -/
structure Summary where
  parts : List Part
  operators : List Text
  mentioned : List Text
  deriving Repr, DecidableEq

/-- All that is found out about a query. There is a summary only where nothing is wrong. -/
structure Report where
  query : Text
  errors : List Finding
  warnings : List Finding
  summary : Option Summary
  deriving Repr, DecidableEq

/-! ### Reports as data -/

/-- A map with texts for keys. -/
def mapOf (fields : List (Text × Value)) : Value := .map (fields.map fun (k, v) => (.text k, v))

/-- A list of texts. -/
def textsOf (ts : List Text) : Value := .list (ts.map .text)

/-- A field that is left out if its text is empty. -/
def optionalField (key t : Text) : List (Text × Value) := if t.isEmpty then [] else [(key, .text t)]

/-- A finding as data. -/
def Finding.value (f : Finding) : Value :=
  mapOf ([("message".toList, .text f.message), ("position".toList, .int f.position)] ++
    optionalField "suggestion" f.suggestion ++ optionalField "example" f.example_ ++
    f.part.toList.map fun i => ("queryPartIndex".toList, .int i))

/-- A part as data, where `lists` says how named lists are shown. -/
def Part.value (lists : Ordered (List Text) → Value) (p : Part) : Value :=
  mapOf [("scheme".toList, .text p.scheme), ("path".toList, .text p.path),
    ("parameters".toList, lists p.parameters), ("transforms".toList, lists p.transforms),
    ("isPipe".toList, .bool p.piped), ("isRequired".toList, .bool p.required)]

/-- A summary as data. -/
def Summary.value (lists : Ordered (List Text) → Value) (s : Summary) : Value :=
  mapOf [("totalParts".toList, .int s.parts.length), ("operators".toList, textsOf s.operators),
    ("variables".toList, textsOf s.mentioned), ("parts".toList, .list (s.parts.map (·.value lists)))]

namespace Report

/-- Whether nothing is wrong. -/
def isValid (r : Report) : Bool := r.errors.isEmpty

/-- A report as data. -/
def value (lists : Ordered (List Text) → Value) (r : Report) : Value :=
  mapOf [("query".toList, .text r.query), ("isValid".toList, .bool r.isValid),
    ("errors".toList, .list (r.errors.map Finding.value)),
    ("warnings".toList, .list (r.warnings.map Finding.value)),
    ("info".toList, match r.summary with
      | some s => s.value lists
      | none => .null)]

end Report

/-! ### Reports in words -/

/-- How much of a long query is shown on either side of a place. -/
def radius : Nat := 40

/-- A query with a mark under a place. Of a long query only the surroundings of the place are shown. -/
def snippet (query : Text) (position : Nat) (pointer : Text) : Text :=
  let (start, stop) : Nat × Nat :=
    if 2 * radius < query.length then
      (min (position - radius) query.length, min (position + radius) query.length)
    else (0, query.length)
  let lead : Text := if 0 < start then "..." else []
  let tail : Text := if stop < query.length then "..." else []
  "Query: " ++ lead ++ Text.slice start stop query ++ tail ++ '\n' ::
    List.replicate (7 + lead.length + (position - start)) ' ' ++ pointer

/-- The word for a severity. -/
def Severity.word : Severity → Text
  | .error => "Error"
  | .warning => "Warning"

/-- The mark under a place. -/
def Severity.pointer : Severity → Text
  | .error => "^^^"
  | .warning => "^"

/-- A finding in words. -/
def Finding.text (severity : Severity) (query : Text) (f : Finding) : Text :=
  let place : Text :=
    match f.part with
    | some i => " (in query part " ++ Text.ofNat (i + 1) ++ ")"
    | none => []
  let lines : List Text :=
    [severity.word ++ " at position " ++ Text.ofNat f.position ++ place ++ ": " ++ f.message, [],
      snippet query f.position severity.pointer, []] ++
    [f.suggestion, f.example_].filter fun t => !t.isEmpty
  Text.join ['\n'] lines

/-- The names of lists in words, unless there are none. -/
def namedLists (what : Text) (lists : Ordered (List Text)) : Text :=
  if lists.isEmpty then [] else " [" ++ what ++ ": " ++ Text.join ", " lists.keys ++ "]"

/-- A part in words. -/
def Part.text (p : Part) : Text :=
  p.scheme ++ ':' :: p.path ++ namedLists "params" p.parameters ++
    namedLists "transforms" p.transforms ++ (if p.piped then " [pipe]".toList else []) ++
    (if p.required then " [required]".toList else [])

/-- A line that lists texts, unless there are none. -/
def listing (what : Text) (ts : List Text) : List Text :=
  if ts.isEmpty then [] else ["  " ++ what ++ ": " ++ Text.join ", " ts]

/-- A summary in words. -/
def Summary.text (s : Summary) : Text :=
  let head : List Text := ["Query Information:", "  Total parts: " ++ Text.ofNat s.parts.length]
  let parts := s.parts.zipIdx.map fun (p, i) => "    " ++ Text.ofNat (i + 1) ++ ". " ++ p.text
  Text.join ['\n']
    (head ++ listing "Operators" s.operators ++ listing "Variables" s.mentioned ++
      "  Parts:".toList :: parts)

/-- Findings in words, after a line with their count, unless there are none. -/
def findingLines (severity : Severity) (query : Text) (fs : List Finding) : List Text :=
  if fs.isEmpty then []
  else (severity.word ++ "s (" ++ Text.ofNat fs.length ++ "):") :: fs.map (·.text severity query)

/-- A report in words: what a query is made of if there is nothing to be said against it, else what
    there is to be said. -/
def Report.text (r : Report) : Text :=
  match r.summary, r.warnings with
  | some s, [] => s.text
  | _, _ =>
    Text.join ['\n'] (findingLines .error r.query r.errors ++ findingLines .warning r.query r.warnings)

end PageQuery.Validation
