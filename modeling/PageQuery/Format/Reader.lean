import PageQuery.Bytes.Charset
import PageQuery.Fault
import PageQuery.Format.Kind
import PageQuery.Json.Reader
import PageQuery.Value.Display
import PageQuery.Xml.Reader
import PageQuery.Yaml.Reader

namespace PageQuery

/-!
# Reading documents

* `Body`: a document as it arrives, and `Body.text`, its characters;
* `Format.load`: the value of a text in a format. A text that is not in its format is its own value;
* `Format.read`: the value of a body in a format that is given or detected.
-/

/-- A document as it arrives. -/
inductive Body where
  | text (t : Text)
  | bytes (bs : Bytes)
  /-- Anything else. -/
  | value (v : Value)
  deriving Repr, Inhabited

namespace Body

/-- The encoding that the text after the word `charset` names. -/
def charsetAfter? (t : Text) : Option Text :=
  match t.dropWhile Text.isSpace with
  | '=' :: rest =>
    let rest := rest.dropWhile Text.isSpace
    let rest := match rest with
      | '"' :: r => r
      | '\'' :: r => r
      | _ => rest
    let name := rest.takeWhile fun c => !(Text.isSpace c || c == ';' || c == '"' || c == '\'')
    if name.isEmpty then none else some name
  | _ => none

/-- The encoding that a content type names. -/
def charset? : Text → Option Text
  | [] => none
  | c :: rest =>
    let here := if ((c :: rest).take 7).map Char.toLower = "charset" then
        charsetAfter? ((c :: rest).drop 7) else none
    match here with
    | some name => some name
    | none => charset? rest

/-- The text of bytes in the encoding that a content type names, if that is known, or else in UTF-8. -/
def decode (contentType : Option Text) (bs : Bytes) : Text :=
  let named := (charset? (contentType.getD [])).bind fun name => Charset.decode? name bs
  named.getD (Utf8.decodeReplacing bs)

/-- The characters of a body. -/
def toText (contentType : Option Text) : Body → Except Numeral.Error Text
  | .text t => .ok t
  | .bytes bs => .ok (decode contentType bs)
  | .value v => v.plain

end Body

namespace Format

/-- The value of YAML text. A text that is not YAML is its own value. -/
def loadYaml (t : Text) : Except Fault Value :=
  match Yaml.read t with
  | .ok v => .ok v
  | .error .malformed => .ok (.text t)
  | .error e => .error (.document e)

/-- The value of XML text. A text that is not well-formed is its own value. -/
def loadXml (t : Text) : Except Fault Value :=
  match Xml.read t with
  | .ok v => .ok v
  | .error .malformed => .ok (.text t)
  | .error .entity => .error .entities

/-- The value of JSON text. What is not JSON may still be YAML. -/
def loadJson (t : Text) : Except Fault Value :=
  match Json.read t with
  | .ok v => .ok v
  | .error _ => loadYaml t

/-- The value of a text in a format; HTML stays text. -/
def load (f : Format) (t : Text) : Except Fault Value :=
  match f with
  | .json => loadJson t
  | .yaml => loadYaml t
  | .xml => loadXml t
  | .html => .ok (.text t)

/-- The format that a name stands for, when the name is not empty; else the detected one. -/
def chosen (name : Option Text) (contentType : Option Text) (t : Text) : Option Format :=
  match name with
  | none | some [] => detect contentType (some t)
  | some n => ofName? n

/-- The value of a body, in the format of a name or in the one that is detected. -/
def read (b : Body) (contentType name : Option Text) : Except Fault Value := do
  let t ← (b.toText contentType).mapError .numeral
  match chosen name contentType t with
  | none => return .text t
  | some f => load f t

end Format

end PageQuery
