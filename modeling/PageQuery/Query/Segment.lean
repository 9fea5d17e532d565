import PageQuery.Ordered

namespace PageQuery

/-!
# Queries

A query is a row of stages linked by array pipes, and a stage a row of segments.

* `Segment`: one step, with its scheme, path, parameters and the transforms of its result;
* `Transforms`: the texts given for each of the six things that are done to a result;
* `FormatError`: what makes a query text no query.
-/

namespace Query

/-- Where a segment takes its matches from. -/
inductive Scheme where
  | html
  | json
  | url
  | template
  deriving Repr, DecidableEq

namespace Scheme

/-- All schemes, in the order in which they are listed in messages. -/
def all : List Scheme := [.html, .json, .url, .template]

/-- The word for a scheme in front of a colon. -/
def name : Scheme → Text
  | .html => "html"
  | .json => "json"
  | .url => "url"
  | .template => "template"

/-- The scheme of a word. -/
def ofName? (t : Text) : Option Scheme := all.find? (·.name == t)

end Scheme

/-- What is done to the result of a segment, in this order whatever the order in the query. The texts
    of an absent entry are none, except that `keep` tells an absent entry from one without texts. -/
structure Transforms where
  transform : List Text := []
  update : List Text := []
  filter : List Text := []
  index : List Text := []
  save : List Text := []
  keep : Option (List Text) := none
  deriving Repr, DecidableEq

namespace Transforms

/-- Whether a saved value stays part of the result: there is a `keep`, and it is never `false`. -/
def keeps (ts : Transforms) (lower : Text → Text) : Bool :=
  match ts.keep with
  | none => false
  | some vs => vs.all fun v => lower (Text.trim v) != "false"

/-- A function applied to every text. -/
def map (f : Text → Text) (ts : Transforms) : Transforms where
  transform := ts.transform.map f
  update := ts.update.map f
  filter := ts.filter.map f
  index := ts.index.map f
  save := ts.save.map f
  keep := ts.keep.map (·.map f)

/-- The entries that are there, with their names, in their fixed order. -/
def entries (ts : Transforms) : List (Text × List Text) :=
  let given := [(("transform" : Text), ts.transform), ("update", ts.update), ("filter", ts.filter),
    ("index", ts.index), ("save", ts.save)].filter fun e => !e.2.isEmpty
  given ++ match ts.keep with
    | none => []
    | some vs => [("keep", vs)]

end Transforms

/-- One step of a query. Path, parameters and transforms are templates: placeholders in them are
    resolved when the step runs. -/
structure Segment where
  scheme : Scheme
  path : Text
  parameters : Ordered (List Text)
  transforms : Transforms
  /-- Whether the step runs although there are results already. -/
  required : Bool
  /-- Whether the step runs once for each result so far. -/
  piped : Bool
  /-- The text that the step was written as. -/
  source : Text
  deriving Repr, DecidableEq

namespace Segment

/-- Whether one of the transforms has the given name, alone or before a colon. -/
def usesTransform (s : Segment) (name : Text) : Bool :=
  s.transforms.transform.any fun spec =>
    let t := Text.trim spec
    t == name || Text.startsWith (name ++ [':']) t

/-- Whether the step saves its result and does not keep it. -/
def discards (s : Segment) (lower : Text → Text) : Bool :=
  !s.transforms.save.isEmpty && !s.transforms.keeps lower

end Segment

end Query

/-- A query: its stages, each the segments of one chain. -/
structure Query where
  stages : List (List Query.Segment)
  source : Text
  deriving Repr, DecidableEq

namespace Query

/-- The segments of all stages in order. -/
def segments (q : Query) : List Query.Segment := q.stages.flatten

/-- Whether some segment has a transform of the given name. -/
def usesTransform (q : Query) (name : Text) : Bool := q.segments.any (·.usesTransform name)

/-- Why a text is no query. -/
inductive FormatError where
  /-- The word before the first colon is no scheme. -/
  | unsupportedScheme (scheme source : Text)
  /-- A second question mark stands where parameters are to be separated. -/
  | repeatedMark (source : Text)
  /-- An array pipe stands inside a chain. -/
  | nestedArrayPipe (source : Text)
  deriving Repr, DecidableEq

namespace FormatError

/-- The text in which the error was found. -/
def source : FormatError → Text
  | .unsupportedScheme _ source => source
  | .repeatedMark source => source
  | .nestedArrayPipe source => source

/-- The error in words. -/
def message : FormatError → Text
  | .unsupportedScheme scheme _ => "Unsupported scheme: " ++ scheme
  | .repeatedMark _ => "Multiple \"?\" found in parameters. Use \"&\" to separate parameters"
  | .nestedArrayPipe _ => "array pipe inside a chain"

end FormatError

end Query

end PageQuery
