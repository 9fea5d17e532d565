import PageQuery.Text.Word

namespace PageQuery.Query

/-!
# Parameters of a segment

How the text after the question mark is cut into parameters and their values. Bodies of regular
expressions are carried whole, so that the separators inside them count as text.

* `isCompleteRegexp`: whether the body of a `regexp:` transform is closed;
* `splitTransforms`, `splitRegexps`: the entries of a `transform` and of a `regexp` parameter;
* `splitParams`: the parameters and their values;
* `cutParams`: where the parameters of a segment begin.
-/

/-- The pieces between the separators that no backslash precedes. `escaped` says whether the
    character before the text is a backslash. -/
def splitUnescapedFrom (sep : Char) (escaped : Bool) : Text → List Text
  | [] => [[]]
  | c :: rest =>
    if c = sep && !escaped then [] :: splitUnescapedFrom sep false rest
    else match splitUnescapedFrom sep (c == '\\') rest with
      | [] => [[c]]
      | first :: others => (c :: first) :: others

/-- The pieces of a text between the separators that no backslash precedes. -/
def splitUnescaped (sep : Char) (t : Text) : List Text := splitUnescapedFrom sep false t

/-- What follows the next slash, where a backslash protects the character after it. -/
def afterSlash? : Text → Option Text
  | [] => none
  | '\\' :: _ :: rest => afterSlash? rest
  | c :: rest => if c = '/' then some rest else afterSlash? rest

/-- What starts a transform by a regular expression. -/
def regexpMark : Text := "regexp:"

/-- Whether the body after `regexp:` is closed: `/pattern/` or `/pattern/replacement/`. -/
def isCompleteBody (body : Text) : Bool :=
  match Text.cut '/' body with
  | (_, none) => false
  | (_, some pattern) =>
    match afterSlash? pattern with
    | none => false
    | some [] => true
    | some replacement => afterSlash? replacement == some []

/-- Whether a transform is whole; all but regular expressions always are. -/
def isCompleteRegexp (t : Text) : Bool :=
  match Text.after? regexpMark t with
  | none => true
  | some body => isCompleteBody body

/-- Joins pieces of a `transform` value that belong to one regular expression. `pending` is an
    expression that is not closed yet. -/
def gatherTransforms (pending : Option Text) : List Text → List Text
  | [] => pending.toList
  | part :: rest =>
    let opened : Option Text := match pending with
      | some open_ => some (open_ ++ ';' :: part)
      | none =>
        let t := Text.trim part
        if Text.startsWith regexpMark t then some t else none
    match opened with
    | none => part :: gatherTransforms none rest
    | some t =>
      if isCompleteRegexp t then t :: gatherTransforms none rest
      else gatherTransforms (some t) rest

/-- The entries of a `transform` value, which semicolons separate. -/
def splitTransforms (value : Text) : List Text :=
  gatherTransforms none (splitUnescaped ';' value)

/-- Joins pieces of a `regexp` value that belong to one body. -/
def gatherRegexps (pending : Option Text) : List Text → List Text
  | [] => pending.toList
  | part :: rest =>
    let t := match pending with
      | some open_ => open_ ++ ';' :: part
      | none => part
    if isCompleteRegexp (regexpMark ++ Text.trim t) then t :: gatherRegexps none rest
    else gatherRegexps (some t) rest

/-- The bodies of a `regexp` value, which semicolons separate. -/
def splitRegexps (value : Text) : List Text := gatherRegexps none (splitUnescaped ';' value)

/-- Whether the value of a parameter, as far as it is read, stops inside a regular expression. -/
def insideRegexp (key value : Text) : Bool :=
  if key = "regexp" then
    Text.startsWith ['/'] value && !isCompleteRegexp (regexpMark ++ value)
  else if key = "transform" then
    match (splitTransforms value).getLast? with
    | none => false
    | some last => !isCompleteRegexp (Text.trim last)
  else false

/-- A text at its first `=`: the key, and the value, which is empty where there is none. -/
def keyValue (t : Text) : Text × Text :=
  let (key, value) := Text.cut '=' t
  (key, value.getD [])

/-- Whether a character may stand in the name of a parameter after its first one. -/
def isNameChar (c : Char) : Bool := Text.isWord c || c == '-'

/-- Whether a text starts like a parameter: a name, and then `=`, `&` or the end. A line break at the
    very end counts as the end. -/
def startsParam : Text → Bool
  | [] => false
  | c :: rest =>
    (c.isAlpha || c == '_') &&
      match rest.dropWhile isNameChar with
      | [] => true
      | ['\n'] => true
      | d :: _ => d == '=' || d == '&'

/-- The parameters of a text, not yet cut at `=`. `current` is what has been read of the present one,
    last character first. -/
def paramPieces (current : Text) : Text → List Text
  | [] => [current.reverse]
  | ['\\'] => [('\\' :: current).reverse]
  | '\\' :: c :: rest => paramPieces (c :: '\\' :: current) rest
  | '&' :: rest =>
    let (key, value) := keyValue current.reverse
    if !insideRegexp key value && startsParam rest then current.reverse :: paramPieces [] rest
    else paramPieces ('&' :: current) rest
  | c :: rest => paramPieces (c :: current) rest

/-- The parameters of a text. An `&` separates two of them where no backslash precedes it, it stands
    in no regular expression, and what follows looks like a parameter. -/
def splitParams (t : Text) : List (Text × Text) :=
  ((paramPieces [] t).filter (! ·.isEmpty)).map fun piece =>
    let (key, value) := keyValue piece
    (Text.trim key, value)

/-- The text up to the question mark that opens the parameters, and the parameters if there are any.
    Question marks inside placeholders do not count; `depth` says how many are open. -/
def cutParams (depth : Nat) : Text → Text × Option Text
  | [] => ([], none)
  | '$' :: '{' :: rest =>
    let (before, found) := cutParams (depth + 1) rest
    ('$' :: '{' :: before, found)
  | c :: rest =>
    if c = '?' && depth = 0 then ([], some rest)
    else
      let (before, found) := cutParams (if c = '}' then depth - 1 else depth) rest
      (c :: before, found)

end PageQuery.Query
