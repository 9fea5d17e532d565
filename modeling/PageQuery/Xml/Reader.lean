import PageQuery.Number.Numeral
import PageQuery.Ordered
import PageQuery.Value
import PageQuery.Xml.Name

namespace PageQuery.Xml

/-!
# Reading XML

A reader for well-formed documents. Namespaces have no meaning, and neither have declarations of
elements and attributes; a declaration of an entity is refused.

* `Node`: text and elements;
* `Node.value`: an element as a value: a map of its attributes, its children and its text, the text
  alone if there is nothing else, and null if there is nothing at all;
* `Node.read t`: the root of a document;
* `read t`: its value.
-/

/-! ### Elements as values -/

/-- A part of a document. -/
inductive Node where
  | text (t : Text)
  | element (name : Text) (attributes : List (Text × Text)) (children : List Node)
  deriving Repr, Inhabited

/-- Adds the value of a child; a name that comes again makes a list of its values. -/
def addChild (name : Text) (v : Value) (entries : Entries) : Entries :=
  match Entries.get? entries (.text name) with
  | none => Entries.put (.text name) v entries
  | some (.list vs) => Entries.put (.text name) (.list (vs ++ [v])) entries
  | some first => Entries.put (.text name) (.list [first, v]) entries

/-- The text that stands directly in an element, without white space around. -/
def ownText (children : List Node) : Text :=
  Text.trim <| children.flatMap fun
    | .text t => t
    | .element .. => []

/-- The value of an element of which the attributes and children are entries already. -/
def elementValue (entries : Entries) (own : Text) : Value :=
  match entries, own with
  | [], [] => .null
  | [], t => .text t
  | es, [] => .map es
  | es, t => .map (addChild "#text" (.text t) es)

mutual

/-- A part of a document as a value. -/
def Node.value : Node → Value
  | .text t => .text t
  | .element _ attributes children =>
    let start := attributes.map fun (k, v) => (Scalar.text ('@' :: k), Value.text v)
    elementValue (childEntries start children) (ownText children)

/-- Entries with those of the elements among children added. -/
def childEntries (entries : Entries) : List Node → Entries
  | [] => entries
  | .text _ :: rest => childEntries entries rest
  | .element name attributes children :: rest =>
    childEntries (addChild name (Node.value (.element name attributes children)) entries) rest

end

/-- A document with one root as a value: a map from the root's name to its value. -/
def Node.entry : Node → Value
  | .text t => .text t
  | .element name attributes children =>
    .map [(.text name, Node.value (.element name attributes children))]

/-! ### Reading -/

/-- Why a text is not read. -/
inductive Error where
  /-- The text is not well-formed. -/
  | malformed
  /-- The text declares an entity. -/
  | entity
  deriving Repr, DecidableEq

/-- A reading step that may fail; most steps give a value and the text that follows it. -/
abbrev Reading := Except Error

/-- The text without white space at its start. -/
def skipGap (t : Text) : Text := t.dropWhile isGap

/-- The text after white space, which has to be there. -/
def needGap (t : Text) : Reading Text :=
  if t.head?.any isGap then .ok (skipGap t) else .error .malformed

/-- The text after given characters, which have to be there. -/
def need (lead t : Text) : Reading Text :=
  match Text.after? lead t with
  | some rest => .ok rest
  | none => .error .malformed

/-- The text before and after the first occurrence of some characters, which has to be there. -/
def upTo (stop t : Text) : Reading (Text × Text) :=
  match Text.find? stop t with
  | some n => .ok (t.take n, t.drop (n + stop.length))
  | none => .error .malformed

/-- A name. -/
def name (t : Text) : Reading (Text × Text) :=
  match t with
  | c :: rest =>
    if isNameStart c then .ok (c :: rest.takeWhile isNameChar, rest.dropWhile isNameChar)
    else .error .malformed
  | [] => .error .malformed

/-- The text of which every line ends with a line feed. -/
def normalLines : Text → Text
  | '\r' :: '\n' :: rest => '\n' :: normalLines rest
  | '\r' :: rest => '\n' :: normalLines rest
  | c :: rest => c :: normalLines rest
  | [] => []

/-! ### References -/

/-- The character of a number, if a document may hold it. -/
def character (n : Nat) : Reading Char :=
  if 0x10FFFF < n || (0xD800 ≤ n && n < 0xE000) then .error .malformed
  else
    let c := Char.ofNat n
    if isChar c then .ok c else .error .malformed

/-- The character that a name stands for. -/
def named? (n : Text) : Option Char :=
  if n = "amp" then some '&'
  else if n = "lt" then some '<'
  else if n = "gt" then some '>'
  else if n = "quot" then some '"'
  else if n = "apos" then some '\''
  else none

/-- The number that digits of a base stand for. -/
def digitsValue? (base : Nat) (ds : Text) : Option Nat :=
  if ds.isEmpty then none
  else ds.foldlM (fun n c => ((Text.hexDigit? c).filter (· < base)).map (base * n + ·)) 0

/-- What stands for a reference, after its ampersand. Names that nothing declares are refused, unless
    declarations elsewhere may declare them; then they stand for nothing. -/
def reference (lenient : Bool) (t : Text) : Reading (Text × Text) :=
  match t with
  | '#' :: rest => do
    let (body, after) ← upTo [';'] rest
    let number := match body with
      | 'x' :: ds => digitsValue? 16 ds
      | ds => digitsValue? 10 ds
    match number with
    | some n => return ([← character n], after)
    | none => throw .malformed
  | _ => do
    let (n, rest) ← name t
    let after ← need [';'] rest
    match named? n with
    | some c => return ([c], after)
    | none => if lenient then return ([], after) else throw .malformed

/-! ### Tags -/

/-- The value of an attribute up to the closing quote. Each white space stands for a space. -/
def attributeText (lenient : Bool) (quote : Char) : (fuel : Nat) → Text → Reading (Text × Text)
  | 0, _ => .error .malformed
  | fuel + 1, t =>
    match t with
    | [] => .error .malformed
    | c :: rest =>
      if c == quote then .ok ([], rest)
      else if c == '<' then .error .malformed
      else do
        let (cs, rest) ← if c == '&' then reference lenient rest
          else pure ([if isGap c then ' ' else c], rest)
        let (more, after) ← attributeText lenient quote fuel rest
        return (cs ++ more, after)

/-- The value of an attribute with its quotes. -/
def quotedText (lenient : Bool) (t : Text) : Reading (Text × Text) :=
  match t with
  | '"' :: rest => attributeText lenient '"' (rest.length + 1) rest
  | '\'' :: rest => attributeText lenient '\'' (rest.length + 1) rest
  | _ => .error .malformed

/-- The attributes of a start tag after its name or an attribute, and what follows them: the end of the
    tag. No attribute comes twice. -/
def attributes (lenient : Bool) (seen : List Text) :
    (fuel : Nat) → Text → Reading (List (Text × Text) × Text)
  | 0, _ => .error .malformed
  | fuel + 1, t =>
    match skipGap t with
    | '>' :: rest => .ok ([], '>' :: rest)
    | '/' :: rest => .ok ([], '/' :: rest)
    | start => do
      if !t.head?.any isGap then throw .malformed
      let (k, rest) ← name start
      if seen.contains k then throw .malformed
      let rest ← need ['='] (skipGap rest)
      let (v, rest) ← quotedText lenient (skipGap rest)
      let (more, rest) ← attributes lenient (k :: seen) fuel rest
      return ((k, v) :: more, rest)

/-! ### Comments and instructions -/

/-- The text after a comment of which the first four characters have been read. -/
def comment (t : Text) : Reading Text := do
  let (_, rest) ← upTo "--" t
  need ['>'] rest

/-- The text after an instruction of which the first two characters have been read. -/
def instruction (t : Text) : Reading Text := do
  let (target, rest) ← name t
  if target.map Char.toLower = "xml" then throw .malformed
  match Text.after? "?>" rest with
  | some rest => return rest
  | none =>
    if !rest.head?.any isGap then throw .malformed
    return (← upTo "?>" rest).2

/-! ### Content -/

mutual

/-- An element after its opening angle bracket. -/
def element (lenient : Bool) : (fuel : Nat) → Text → Reading (Node × Text)
  | 0, _ => .error .malformed
  | fuel + 1, t => do
    let (n, rest) ← name t
    let (attrs, rest) ← attributes lenient [] (rest.length + 1) rest
    match rest with
    | '/' :: '>' :: rest => return (.element n attrs [], rest)
    | '>' :: rest => do
      let (children, rest) ← content lenient fuel rest
      let (close, rest) ← name rest
      if close != n then throw .malformed
      let rest ← need ['>'] (skipGap rest)
      return (.element n attrs children, rest)
    | _ => throw .malformed

/-- The content of an element, up to after the first two characters of its end tag. -/
def content (lenient : Bool) : (fuel : Nat) → Text → Reading (List Node × Text)
  | 0, _ => .error .malformed
  | fuel + 1, t =>
    match t with
    | [] => .error .malformed
    | '<' :: '/' :: rest => .ok ([], rest)
    | '<' :: '!' :: '-' :: '-' :: rest => do content lenient fuel (← comment rest)
    | '<' :: '!' :: rest => do
      let (data, rest) ← upTo "]]>" (← need "[CDATA[" rest)
      let (more, rest) ← content lenient fuel rest
      return (.text data :: more, rest)
    | '<' :: '?' :: rest => do content lenient fuel (← instruction rest)
    | '<' :: rest => do
      let (e, rest) ← element lenient fuel rest
      let (more, rest) ← content lenient fuel rest
      return (e :: more, rest)
    | '&' :: rest => do
      let (cs, rest) ← reference lenient rest
      let (more, rest) ← content lenient fuel rest
      return (.text cs :: more, rest)
    | _ => do
      let run := t.takeWhile fun c => c != '<' && c != '&'
      if Text.holds "]]>" run then throw .malformed
      let (more, rest) ← content lenient fuel (t.drop run.length)
      return (.text run :: more, rest)

end

/-! ### What stands before and after the root -/

/-- A name and a quoted word, separated by an equals sign, after white space. -/
def pseudoAttribute (t : Text) : Reading (Text × Text × Text) := do
  let rest ← needGap t
  let key := rest.takeWhile fun c => !(isGap c || c == '=')
  let rest ← need ['='] (skipGap (rest.drop key.length))
  match skipGap rest with
  | q :: rest => do
    if q != '"' && q != '\'' then throw .malformed
    let (v, after) ← upTo [q] rest
    if v.all fun c => c.isAlphanum || c == '.' || c == '-' || c == '_' then return (key, v, after)
    else throw .malformed
  | [] => throw .malformed

/-- What follows the value of one of the words of the XML declaration: another of them or the end. -/
def declarationEnd (t : Text) : Bool := (skipGap t).isEmpty

/-- Whether the text between `<?xml` and `?>` is that of an XML declaration, and whether it says that
    nothing is declared elsewhere. -/
def declaration (t : Text) : Reading Bool := do
  let (key, _, rest) ← pseudoAttribute t
  if key != "version".toList then throw .malformed
  if declarationEnd rest then return false
  let (key, v, rest) ← pseudoAttribute rest
  let standing (key v rest : Text) : Reading Bool :=
    if key = "standalone" && (v = "yes" || v = "no") && declarationEnd rest then .ok (v = "yes")
    else .error .malformed
  if key = "encoding" then
    if !v.head?.any Char.isAlpha then throw .malformed
    if declarationEnd rest then return false
    let (key, v, rest) ← pseudoAttribute rest
    standing key v rest
  else standing key v rest

/-- The text after a literal in quotes. -/
def literal (t : Text) : Reading (Text × Text) :=
  match t with
  | '"' :: rest => upTo ['"'] rest
  | '\'' :: rest => upTo ['\''] rest
  | _ => .error .malformed

/-- The characters of public identifiers. -/
def isPublicChar (c : Char) : Bool :=
  c.isAlphanum || " \n\r-'()+,./:=?;!*#@$_%".toList.contains c

/-- The text after the names by which a document type is found elsewhere, if there are any. -/
def external (t : Text) : Reading (Bool × Text) := do
  if let some rest := Text.after? "SYSTEM" t then
    let (_, rest) ← literal (← needGap rest)
    return (true, rest)
  else if let some rest := Text.after? "PUBLIC" t then
    let (id, rest) ← literal (← needGap rest)
    if !id.all isPublicChar then throw .malformed
    let (_, rest) ← literal (← needGap rest)
    return (true, rest)
  else return (false, t)

/-- The text after a declaration, of which quoted parts are passed over. -/
def declarationRest : (fuel : Nat) → Text → Reading Text
  | 0, _ => .error .malformed
  | fuel + 1, t =>
    match t with
    | [] => .error .malformed
    | '>' :: rest => .ok rest
    | '<' :: _ => .error .malformed
    | c :: rest =>
      if c == '"' || c == '\'' then do declarationRest fuel (← upTo [c] rest).2
      else declarationRest fuel rest

/-- The declarations between brackets, up to after the closing one, and whether some may stand
    elsewhere. -/
def subset (elsewhere : Bool) : (fuel : Nat) → Text → Reading (Bool × Text)
  | 0, _ => .error .malformed
  | fuel + 1, t =>
    match skipGap t with
    | ']' :: rest => .ok (elsewhere, rest)
    | '%' :: rest => do
      let (_, rest) ← name rest
      subset true fuel (← need [';'] rest)
    | '<' :: '!' :: '-' :: '-' :: rest => do subset elsewhere fuel (← comment rest)
    | '<' :: '?' :: rest => do subset elsewhere fuel (← instruction rest)
    | '<' :: '!' :: rest => do
      let (word, rest) ← name rest
      if !rest.head?.any isGap then throw .malformed
      if word = "ENTITY" then throw .entity
      if (["ELEMENT", "ATTLIST", "NOTATION"].map String.toList).contains word then
        subset elsewhere fuel (← declarationRest (rest.length + 1) rest)
      else throw .malformed
    | _ => .error .malformed

/-- The text after a document type of which the first two characters have been read, and whether
    declarations may stand elsewhere. -/
def documentType (t : Text) : Reading (Bool × Text) := do
  let rest ← needGap (← need "DOCTYPE" t)
  let (_, rest) ← name rest
  let (found, rest) ← if rest.head?.any isGap then external (skipGap rest) else pure (false, rest)
  let (elsewhere, rest) ← match skipGap rest with
    | '[' :: rest => subset found (rest.length + 1) rest
    | rest => pure (found, rest)
  return (elsewhere, ← need ['>'] (skipGap rest))

/-- What stands between the parts of a document: white space, comments, instructions. -/
def between : (fuel : Nat) → Text → Reading Text
  | 0, t => .ok t
  | fuel + 1, t =>
    match skipGap t with
    | '<' :: '!' :: '-' :: '-' :: rest => do between fuel (← comment rest)
    | '<' :: '?' :: rest => do between fuel (← instruction rest)
    | rest => .ok rest

/-- The root of a document. -/
def document (t : Text) : Reading Node := do
  let size := t.length + 1
  let (alone, t) ← match Text.after? "<?xml" t with
    | some rest =>
      if rest.head?.any isGap then do
        let (words, rest) ← upTo "?>" rest
        pure (← declaration words, rest)
      else pure (false, t)
    | none => pure (false, t)
  let t ← between size t
  let (elsewhere, t) ← match t with
    | '<' :: '!' :: rest => documentType rest
    | _ => pure (false, t)
  match ← between size t with
  | '<' :: rest => do
    let (root, rest) ← element (elsewhere && !alone) (2 * size) rest
    if (← between size rest).isEmpty then return root else throw .malformed
  | _ => throw .malformed

/-- The root of a document. A byte order mark in front of it does not count. -/
def Node.read (t : Text) : Reading Node :=
  let t := if t.head? == some '\ufeff' then t.drop 1 else t
  let good := t.takeWhile isChar
  match document (normalLines good) with
  | .error e => .error e
  | .ok root => if good.length = t.length then .ok root else .error .malformed

/-- The value of a document. -/
def read (t : Text) : Reading Value := (Node.read t).map Node.entry

end PageQuery.Xml
