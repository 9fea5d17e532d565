import PageQuery.Text.Case

namespace PageQuery

/-!
# Formats of documents

* `Format`: the formats that documents arrive in, `Format.ofName?` among them;
* `Format.detect`: the format that a content type or the start of a text suggests.
-/

/-- The formats that documents arrive in. -/
inductive Format where
  | json
  | yaml
  | xml
  | html
  deriving Repr, DecidableEq

namespace Format

/-- The name of a format. -/
def name : Format → Text
  | .json => "json"
  | .yaml => "yaml"
  | .xml => "xml"
  | .html => "html"

/-- The formats in the order in which their names are looked for in a content type. -/
def searched : List Format := [.json, .yaml, .html, .xml]

/-- The format with a name. -/
def ofName? (t : Text) : Option Format := searched.find? fun f => f.name == t

/-- The format that a content type names. -/
def ofContentType? (contentType : Text) : Option Format :=
  let low := Text.lower contentType
  searched.find? fun f => Text.holds f.name low

/-- The format that the first characters of a text suggest. -/
def ofStart? (t : Text) : Option Format :=
  match Text.trimLeft t with
  | '{' :: _ => some .json
  | '[' :: _ => some .json
  | '<' :: rest => some (if Text.startsWith "?xml" rest then .xml else .html)
  | _ => none

/-- The format that a content type names, or else that a text suggests. -/
def detect (contentType hint : Option Text) : Option Format :=
  match ofContentType? (contentType.getD []) with
  | some f => some f
  | none => hint.bind ofStart?

end Format

end PageQuery
