import PageQuery.Session
import PageQuery.Query.Parameters

namespace PageQuery.Transform

/-!
# Choosing among values

* `parseFilter`, `applyFilter`: values whose text holds, or does not hold, given texts;
* `applyIndex`: one item of a list.
-/

/-- The texts of a filter. Spaces separate them; spaces, semicolons and ampersands that belong to a
    text have a backslash in front. -/
def parseFilter (spec : Text) : List Text :=
  ((Query.splitUnescaped ' ' spec).map fun part =>
    Text.replace "\\&" "&" (Text.replace "\\;" ";" (Text.replace "\\ " " " (Text.trim part)))).filter
      (! ·.isEmpty)

/-- Whether a text meets one condition: that it holds a text, or, after an exclamation mark, that it
    does not. An exclamation mark alone is always met. -/
def meets (t : Text) : (condition : Text) → Bool
  | '!' :: needle => needle.isEmpty || !Text.holds needle t
  | needle => Text.holds needle t

/-- Whether the text of a value meets all conditions. -/
def passes (conditions : List Text) (v : Value) : Except RenderError Bool := do
  let t ← v.render
  return conditions.all (meets t)

/-- The items of a list that are not null and meet all conditions. -/
def keepPassing (conditions : List Text) : List Value → Except RenderError (List Value)
  | [] => .ok []
  | v :: rest =>
    if v.isNull then keepPassing conditions rest
    else do
      let ok ← passes conditions v
      let kept ← keepPassing conditions rest
      return if ok then v :: kept else kept

/-- A list without the items that fail the filter; another value, or null if it fails. -/
def applyFilter (v : Value) (spec : Text) : Except RenderError Value :=
  if v.isNull then .ok .null
  else
    let conditions := parseFilter spec
    if conditions.isEmpty then .ok v
    else match v with
      | .list items => (keepPassing conditions items).map .list
      | v => do return if ← passes conditions v then v else .null

/-- The item of a list at a position, which counts from the end when it is negative. -/
def itemAt? (items : List Value) (i : Int) : Option Value :=
  let j := if i < 0 then i + items.length else i
  if j < 0 then none else items[j.toNat]?

/-- One item of a list; another value counts as a list of itself alone. -/
def applyIndex (v : Value) (spec : Text) : Run Value :=
  if v.isNull then return .null
  else match Numeral.readInt? (Text.trim spec) with
    | none => do
      Run.note (.index spec)
      return .null
    | some i =>
      match v with
      | .list items => return (itemAt? items i).getD .null
      | v => return if i = 0 then v else .null

end PageQuery.Transform
