import PageQuery.Session
import PageQuery.Regexp.Matching

namespace PageQuery.Transform

/-!
# JSON in texts

* `decode v`: the value of JSON text; JSON text inside a JSON string is decoded once more;
* `assigned? name t`: the literal that script text assigns to a name;
* `applyJson`: the transform.
-/

/-- Whether a text looks like a JSON list or map. -/
def looksStructured (t : Text) : Bool :=
  match Text.trimLeft t with
  | '{' :: _ => true
  | '[' :: _ => true
  | _ => false

/-- The value of JSON text, unless it is none. -/
def decodeText? (t : Text) : Option Value :=
  match Json.read? t with
  | some (.scalar (.text inner)) =>
    some (if looksStructured inner then (Json.read? inner).getD (.text inner) else .text inner)
  | other => other

/-- The value of JSON text; all else stays as it is. -/
def decode : Value → Value
  | .scalar (.text t) => (decodeText? t).getD (.text t)
  | v => v

/-! ### Literals in scripts -/

open Regexp (Pattern Charset Item) in
section

/-- One of the characters of a text. -/
def oneOf (t : Text) : Pattern := .one ⟨.exact, false, t.map fun c => .single c.toNat⟩

/-- A class of characters. -/
def category (k : Regexp.Category) : Pattern := .one ⟨.exact, false, [.category k false false]⟩

/-- Any characters, as few as possible. -/
def anything : Pattern := .star .lazy (.one (.any true))

/-- White space, as much as there is. -/
def gap : Pattern := .star .greedy (category .space)

/-- One or more digits. -/
def someDigits : Pattern := .repeated .greedy 1 none (category .digit)

/-- A pattern that may be left out. -/
def optional (p : Pattern) : Pattern := .repeated .greedy 0 (some 1) p

/-- The characters of a text in a row. -/
def word (t : Text) : Pattern := .row (t.map fun c => .one (.single .exact c.toNat))

/-- The forms of a literal, in the order in which they are tried: map, list, number, text, truth value
    and null. -/
def literalForms : List Pattern := [
  .row [oneOf "\x7b", anything, oneOf "\x7d"],
  .row [oneOf "[", anything, oneOf "]"],
  .row [optional (oneOf "-"), someDigits, optional (oneOf "."), .star .greedy (category .digit),
    optional (.row [oneOf "eE", optional (oneOf "+-"), someDigits])],
  .row [oneOf "\"'", anything, oneOf "\"'"],
  .oneOf [word "true", word "false"],
  word "null"]

/-- A name, in which a star stands for any characters of a line. -/
def namePattern (name : Text) : Pattern :=
  .row (name.map fun c =>
    if c == '*' then .star .greedy (.one (.any false)) else .one (.single .exact c.toNat))

/-- The assignment of a literal of one form: name, equals sign, the literal as the first group, and a
    semicolon or the end. -/
def assignmentPattern (name : Text) (form : Pattern) : Pattern :=
  .row [namePattern name, gap, oneOf "=", gap, .group 1 form, gap,
    .oneOf [oneOf ";", .anchor .lastLineEnd]]

end

/-- The literal that is assigned to a name in a text, in the first form that is found at all. -/
def assigned? (name t : Text) : Option Text :=
  literalForms.findSome? fun form =>
    ((assignmentPattern name form).search t).bind (·.group? 1)

/-- A text in single quotes without them. -/
def unquoted? (t : Text) : Option Text :=
  match t with
  | '\'' :: rest => if rest.getLast? == some '\'' then some rest.dropLast else none
  | _ => none

/-- The value of JSON text, or the text itself and a warning. -/
def decodeOrWarn (t : Text) : Run Value :=
  match decodeText? t with
  | some v => return v
  | none => do
    if !t.isEmpty then Run.note (.jsonText (t.take 80))
    return .text t

/-- The value of JSON text, or of the literal assigned to a name. Lists and maps stay as they are. -/
def applyJson (v : Value) (name : Option Text) : Run Value :=
  match v with
  | .null => return .null
  | .list _ => return v
  | .map _ => return v
  | v => do
    let t := Text.trim (← Run.text v)
    match name with
    | none => decodeOrWarn t
    | some n =>
      match assigned? (Text.trim n) t with
      | none => return .null
      | some literal =>
        match unquoted? literal with
        | some inner => return .text inner
        | none => decodeOrWarn literal

end PageQuery.Transform
