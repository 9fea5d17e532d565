import PageQuery.Session
import PageQuery.Bytes.Digest
import PageQuery.Bytes.Base64
import PageQuery.Text.Case

namespace PageQuery.Transform

/-!
# Transforms of text

* `textual? name`: the transform of a name that works on the text of any value;
* `eq_of_textual?`: what such a transform is.
-/

/-- The code of a text; of the empty text it is empty. -/
def encodeBase64 (t : Text) : Value := .text (Base64.encode (Utf8.encode t))

/-- The text that a code stands for; null and a warning if there is none. -/
def decodeBase64 (t : Text) : Run Value :=
  let refuse (detail : Text) : Run Value := do
    Run.note (.undecodable (t.take 40) detail)
    return .null
  match Base64.decode t with
  | .error e => refuse e.message
  | .ok bs =>
    match Utf8.decodeStrict bs with
    | .error e => refuse e.message
    | .ok decoded => return .text decoded

/-- A function from texts to texts as a transform. -/
def plain (f : Text → Text) (t : Text) : Run Value := return .text (f t)

/-- The transform of a name. -/
def textual? (name : Text) : Option (Text → Run Value) :=
  if name = "upper" then some (plain Text.upper)
  else if name = "lower" then some (plain Text.lower)
  else if name = "base64" then some fun t => return encodeBase64 t
  else if name = "base64decode" || name = "base64Decode" then some decodeBase64
  else if name = "reverse" then some (plain List.reverse)
  else if name = "md5" then some (plain fun t => Digest.md5 (Utf8.encode t))
  else if name = "sha1" then some (plain fun t => Digest.sha1 (Utf8.encode t))
  else if name = "sha256" then some (plain fun t => Digest.sha256 (Utf8.encode t))
  else none

/-- A transform of text gives a text, or decodes a code. -/
theorem eq_of_textual? {name : Text} {f : Text → Run Value} (h : textual? name = some f) :
    (∃ g : Text → Text, f = fun t => pure (.text (g t))) ∨ f = decodeBase64 := by
  unfold textual? at h
  repeat' split at h
  all_goals cases h
  all_goals first
    | exact .inl ⟨_, rfl⟩
    | exact .inr rfl

end PageQuery.Transform
