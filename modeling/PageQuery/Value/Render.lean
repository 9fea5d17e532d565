import PageQuery.Json.Writer

namespace PageQuery

/-!
# Values as text

* `Value.render`: the text that a value has inside a template and for every text transform.
-/

/-- Why a value has no text. -/
inductive RenderError where
  /-- The value is a number of too many digits. -/
  | numeral (e : Numeral.Error)
  /-- The value is a list or a map that has no JSON form. -/
  | writing (e : Json.WriteError)
  deriving Repr, DecidableEq

/-- What is wrong with the value. -/
def RenderError.message : RenderError → Text
  | .numeral e => e.message
  | .writing e => e.message

namespace Value

/-- The text of a double: a whole one is written without a point. -/
def floatText (x : Float) : Except RenderError Text :=
  match Binary64.whole? x with
  | some n => (Numeral.ofInt n).mapError .numeral
  | none => .ok (Decimal.text x)

/-- The text of a value: texts stand for themselves, an element for the text inside it, lists and
    maps for their JSON. -/
def render : Value → Except RenderError Text
  | .scalar .null => .ok "null"
  | .scalar (.bool b) => .ok (if b then "true" else "false")
  | .scalar (.text t) => .ok t
  | .scalar (.float x) => floatText x
  | .list vs => (Json.write .compact (.list vs)).mapError .writing
  | .map es => (Json.write .compact (.map es)).mapError .writing
  | .element e => .ok (Text.trim e.text)
  | v => v.plain.mapError .numeral

end Value

end PageQuery
