import PageQuery.Value.Display

namespace PageQuery.Xml

/-!
# Writing XML

A map is an element with its entries inside: under names that begin with `@` are the attributes, under
`#text` is the text, under `#comment` are comments, and all others are child elements. A list stands
for several elements of one name.

* `escape`, `quoted`: texts and attribute values;
* `write`: a document with one root.
-/

/-- Why a value has no XML form. -/
inductive WriteError where
  /-- A name that no element or attribute can have. -/
  | name
  /-- There is more than one root, or none. -/
  | roots
  /-- A comment holds two hyphens in a row, or ends with one. -/
  | comment
  /-- A whole number has too many digits. -/
  | numeral (e : Numeral.Error)
  deriving Repr, DecidableEq

/-- Text between tags. -/
def escape (t : Text) : Text :=
  t.flatMap fun
    | '&' => "&amp;"
    | '<' => "&lt;"
    | '>' => "&gt;"
    | c => [c]

/-- The value of an attribute with its quotes. Single quotes are taken if only double ones occur in it. -/
def quoted (t : Text) : Text :=
  let body := (escape t).flatMap fun
    | '\n' => "&#10;"
    | '\r' => "&#13;"
    | '\t' => "&#9;"
    | c => [c]
  if !t.contains '"' then '"' :: body ++ ['"']
  else if t.contains '\'' then '"' :: Text.replace ['"'] "&quot;" body ++ ['"']
  else '\'' :: body ++ ['\'']

/-- A name that does not break out of its tag. -/
def checkedName (k : Scalar) : Except WriteError Text :=
  match k with
  | .text n =>
    let bad (c : Char) : Bool := Text.isSpace c || "<>/\"'=".toList.contains c
    if n.head?.any (fun c => c == '?' || c == '!') || n.any bad then .error .name else .ok n
  | _ => .error .name

/-- The text of a value. -/
def textOf : Value → Except WriteError Text
  | .bool b => .ok (if b then "true" else "false")
  | v => v.plain.mapError .numeral

/-- The value of an attribute. -/
def attributeValue : Value → Except WriteError Text
  | .null => .ok []
  | v => textOf v

/-- What an entry of a map is for the element that the map stands for. -/
inductive Role where
  | text
  | attribute (name : Text)
  | child
  deriving Repr, DecidableEq

/-- The role of an entry with a key. -/
def Role.ofKey : Scalar → Role
  | .text ('@' :: n) => .attribute n
  | .text t => if t = "#text" then .text else .child
  | _ => .child

/-- The attributes that declare namespaces. -/
def namespaces : Entries → Except WriteError (List (Text × Text))
  | [] => .ok []
  | (k, v) :: rest => do
    let n ← checkedName k
    let value ← match v with
      | .null => pure []
      | v => v.plain.mapError .numeral
    return ("xmlns" ++ (if n.isEmpty then [] else ':' :: n), value) :: (← namespaces rest)

/-- The attributes among the entries of a map. -/
def attributesOf : Entries → Except WriteError (List (Text × Text))
  | [] => .ok []
  | (k, v) :: rest =>
    match Role.ofKey k, v with
    | .attribute n, .map es =>
      if n = "xmlns" then do return (← namespaces es) ++ (← attributesOf rest)
      else do
        let value ← attributeValue v
        return (← checkedName (.text n), value) :: (← attributesOf rest)
    | .attribute n, v => do
      let value ← attributeValue v
      return (← checkedName (.text n), value) :: (← attributesOf rest)
    | _, _ => attributesOf rest

/-- The text among the entries of a map. -/
def textEntry : Entries → Except WriteError Text
  | [] => .ok []
  | (k, v) :: rest =>
    if Role.ofKey k = .text then attributeValue v else textEntry rest

/-- Whether an entry of a map is to be written as child elements or comments. -/
def isChild (k : Scalar) (v : Value) : Bool :=
  Role.ofKey k = .child && match v with
    | .list [] => false
    | _ => true

/-- A start tag. -/
def startTag (name : Text) (attributes : List (Text × Text)) : Text :=
  '<' :: name ++ attributes.flatMap (fun (k, v) => ' ' :: k ++ '=' :: quoted v) ++ ['>']

/-- An end tag. -/
def endTag (name : Text) : Text := "</" ++ name ++ ['>']

/-- The layout of a document: on one line, or a line for each tag with tabs in front of it. -/
structure Layout where
  lines : Bool
  deriving Repr, DecidableEq

/-- The tabs in front of a tag. -/
def Layout.lead (l : Layout) (depth : Nat) : Text :=
  if l.lines then List.replicate depth '\t' else []

/-- The end of a line. -/
def Layout.newline (l : Layout) : Text := if l.lines then ['\n'] else []

/-- A comment, unless there is nothing to say. -/
def writeComment (l : Layout) (depth : Nat) (v : Value) : Except WriteError Text := do
  let t ← attributeValue v
  if t.isEmpty then return []
  else if Text.holds "--" t || t.getLast? == some '-' then throw .comment
  else return l.lead depth ++ "<!--" ++ escape t ++ "-->" ++ l.newline

/-- An element whose content has no elements in it. -/
def writeLeaf (l : Layout) (depth : Nat) (name : Text) (t : Text) : Text :=
  l.lead depth ++ startTag name [] ++ escape t ++ endTag name ++
    (if depth = 0 then [] else l.newline)

/-- The comments that a value stands for: one, or one for every item of a list. -/
def writeComments (l : Layout) (depth : Nat) : Value → Except WriteError Text
  | .list vs => do return (← vs.mapM (writeComment l depth)).flatten
  | v => writeComment l depth v

/-- The key of comments. -/
def isCommentKey (k : Scalar) : Bool :=
  match k with
  | .text t => t = "#comment"
  | _ => false

mutual

/-- An element. -/
def writeElement (l : Layout) (depth : Nat) (name : Text) : Value → Except WriteError Text
  | .map es => do
    let attrs ← attributesOf es
    let own ← textEntry es
    let hasChildren := es.any fun (k, v) => isChild k v
    let inside ← writeChildren l (depth + 1) es
    return l.lead depth ++ startTag name attrs ++ (if hasChildren then l.newline else []) ++ inside ++
      escape own ++ (if hasChildren then l.lead depth else []) ++ endTag name ++
      (if depth = 0 then [] else l.newline)
  | v => do return writeLeaf l depth name (← attributeValue v)

/-- One element for every item of a list; lists among the items are written as their text. -/
def writeItems (l : Layout) (depth : Nat) (name : Text) : List Value → Except WriteError Text
  | [] => .ok []
  | .list vs :: rest => do
    let t ← textOf (.list vs)
    return writeLeaf l depth name t ++ (← writeItems l depth name rest)
  | v :: rest => do
    let t ← writeElement l depth name v
    return t ++ (← writeItems l depth name rest)

/-- The child elements and comments among the entries of a map. -/
def writeChildren (l : Layout) (depth : Nat) : List (Scalar × Value) → Except WriteError Text
  | [] => .ok []
  | (k, v) :: rest => do
    let t ← if !isChild k v then pure []
      else if isCommentKey k then writeComments l depth v
      else do
        let name ← checkedName k
        match v with
        | .list vs => writeItems l depth name vs
        | v => writeElement l depth name v
    return t ++ (← writeChildren l depth rest)

end

/-- The line that a document begins with. -/
def header : Text := "<?xml version=\"1.0\" encoding=\"utf-8\"?>\n"

/-- A document whose root has the given name and value. A list stands for one root at most. -/
def write (l : Layout) (root : Scalar) (v : Value) : Except WriteError Text := do
  if isCommentKey root then throw .roots
  let name ← checkedName root
  match v with
  | .list vs => if 1 < vs.length then throw .roots else return header ++ (← writeItems l 0 name vs)
  | v => return header ++ (← writeElement l 0 name v)

end PageQuery.Xml
