import PageQuery.Query.Lexeme
import PageQuery.Query.Segment
import PageQuery.Query.Parameters

namespace PageQuery.Query

/-!
# Reading queries

    query   := chain (">>>" chain)*
    chain   := segment (op segment)*
    op      := "||" | "++" | ">>"
    segment := [scheme ":"] path ["?" parameters]

* `parseSegment`, `parseChain`, `parse`: the three levels of the grammar.
-/

/-- Pseudo-classes of selectors: a word before a colon is no scheme when one of them follows. -/
def pseudoClasses : List Text :=
  ["active", "checked", "contains", "default", "disabled", "empty", "enabled", "first",
    "first-child", "first-of-type", "focus", "has", "hover", "in-range", "invalid", "is", "lang",
    "last", "last-child", "last-of-type", "link", "not", "nth-child", "nth-last-child",
    "nth-last-of-type", "nth-of-type", "only-child", "only-of-type", "optional", "out-of-range",
    "read-only", "read-write", "required", "root", "target", "valid", "visited", "where"].map String.toList

/-- Whether a text starts with the name of a pseudo-class. -/
def startsPseudoClass (t : Text) : Bool :=
  pseudoClasses.contains (t.takeWhile fun c => c.isAlpha || c == '-')

/-- The word before a colon at the start of a text, if it has the form of a scheme, and the rest. -/
def schemeWord? (t : Text) : Option (Text × Text) :=
  match t with
  | [] => none
  | c :: rest =>
    if c.isAlpha then
      let isPart (d : Char) : Bool := d.isAlphanum || d == '+' || d == '.' || d == '-'
      match rest.dropWhile isPart with
      | ':' :: after => some (c :: rest.takeWhile isPart, after)
      | _ => none
    else none

/-- The scheme of a segment and the rest of its text; without one the scheme is HTML. -/
def detectScheme (t : Text) : Except FormatError (Scheme × Text) :=
  match schemeWord? t with
  | none => .ok (.html, t)
  | some (word, rest) =>
    match Scheme.ofName? word with
    | some scheme => .ok (scheme, rest)
    | none =>
      if startsPseudoClass rest then .ok (.html, t) else .error (.unsupportedScheme word t)

/-- The values of a parameter. -/
def paramValues (key value : Text) : List Text :=
  if key = "transform" then splitTransforms value
  else if key = "regexp" then splitRegexps value
  else if key = "keep" || key = "index" then [value]
  else splitUnescaped ';' value

/-- Whether a parameter holds a question mark where it may not. -/
def hasStrayMark (key value : Text) : Bool :=
  key.contains '?' ||
    ((key = "save" || key = "keep" || key = "index") && value.contains '?')

/-- The parameters gathered by name. -/
def gatherParams (source : Text) :
    Ordered (List Text) → List (Text × Text) → Except FormatError (Ordered (List Text))
  | params, [] => .ok params
  | params, (key, value) :: rest =>
    if hasStrayMark key value then .error (.repeatedMark source)
    else gatherParams source (params.add key (paramValues key value)) rest

/-- The names of parameters that say what is done to the result. -/
def transformNames : List Text :=
  ["transform", "regexp", "update", "filter", "index", "save", "keep"]

/-- What is done to the result, as the parameters say; regular expressions of the short form come
    after the other transforms. -/
def transformsOf (params : Ordered (List Text)) : Transforms :=
  let given (name : Text) : List Text := (params.get? name).getD []
  { transform := given "transform" ++ (given "regexp").map (regexpMark ++ ·)
    update := given "update"
    filter := given "filter"
    index := given "index"
    save := given "save"
    keep := params.get? "keep" }

/-- A path as it is used; those of addresses and templates lose one leading slash. -/
def cleanPath (scheme : Scheme) (path : Text) : Text :=
  match scheme, path with
  | .url, '/' :: rest => rest
  | .template, '/' :: rest => rest
  | _, _ => path

/-- One segment. -/
def parseSegment (t : Text) (required piped : Bool) : Except FormatError Segment := do
  let (scheme, body) ← detectScheme (Text.trim t)
  let (path, paramsText) := cutParams 0 body
  let params ← gatherParams t [] (splitParams (paramsText.getD []))
  return {
    scheme, required, piped
    path := cleanPath scheme path
    parameters := params.filter fun p => !transformNames.contains p.1
    transforms := transformsOf params
    source := Text.trim t }

/-- The segments of a chain, given its tokens and the flags of the next segment. -/
def parseTokens (source : Text) :
    (required piped : Bool) → List Lexeme → Except FormatError (List Segment)
  | _, _, [] => .ok []
  | _, piped, .separator op :: rest =>
    if op = fallbackMark then parseTokens source false piped rest
    else if op = joinMark then parseTokens source true piped rest
    else if op = pipeMark then parseTokens source true true rest
    else .error (.nestedArrayPipe source)
  | required, piped, .plain t :: rest => do
    let segment ← parseSegment t required piped
    return segment :: (← parseTokens source required false rest)

/-- The segments of a text without array pipes. -/
def parseChain (t : Text) : Except FormatError (List Segment) := parseTokens t true false (tokens t)

/-- A whole query. -/
def parse (t : Text) : Except FormatError Query := do
  return ⟨← (stageTexts t).mapM parseChain, t⟩

end PageQuery.Query
