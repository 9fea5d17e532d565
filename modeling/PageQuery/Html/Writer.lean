import PageQuery.Bytes.Utf8
import PageQuery.Html.Reader

namespace PageQuery.Html

/-!
# Writing documents

* `Element.outer`, `Element.inner`: an element as HTML, with its tags and without them.
-/

/-- The special characters of a text written as references. -/
def escape (t : Text) : Text :=
  t.flatMap fun c =>
    if c == '&' then "&amp;".toList
    else if c == '<' then "&lt;".toList
    else if c == '>' then "&gt;".toList
    else [c]

/-- Whether a character of an address may stand as it is. -/
def staysInAddress (c : Char) : Bool :=
  c.isAlphanum || ("-_.!~*'()\"#$%&+,/:;<=>?@[\\]^`\x7b|\x7d".toList).contains c

/-- An address with the other characters written as percent signs and bytes. -/
def escapeAddress (t : Text) : Text :=
  (t.dropWhile isBlankChar).flatMap fun c =>
    if staysInAddress c then [c]
    else (Utf8.encodeChar c).flatMap fun b =>
      '%' :: (Text.padLeft 2 '0' (Text.digits 16 b.toNat)).map Char.toUpper

/-- Whether an attribute holds an address. -/
def isAddress (element name : Text) : Bool :=
  (names "href action src").contains name || (name == "name" && element == "a")

/-- A value in the quotes that suit it. -/
def quote (t : Text) : Text :=
  if !t.contains '"' then '"' :: t ++ ['"']
  else if !t.contains '\'' then '\'' :: t ++ ['\'']
  else '"' :: Text.replace ['"'] "&quot;" t ++ ['"']

/-- What stands in an attribute's value for something that is worked out elsewhere, with the count of its
    characters: a script in braces after an ampersand, or a comment. -/
def insertion? (t : Text) : Option Nat :=
  match t with
  | '&' :: '\x7b' :: rest => (Text.find? ['\x7d'] rest).map (· + 3)
  | '<' :: '!' :: '-' :: '-' :: rest => (Text.find? "-->" ('-' :: '-' :: rest)).map (· + 5)
  | _ => none

/-- The special characters of an attribute's value written as references, except in insertions. The
    number counts characters of an insertion still to be passed over. -/
def escapeValueFrom : Nat → Text → Text
  | _, [] => []
  | skip + 1, c :: rest => c :: escapeValueFrom skip rest
  | 0, c :: rest =>
    match insertion? (c :: rest) with
    | some n => c :: escapeValueFrom (n - 1) rest
    | none => escape [c] ++ escapeValueFrom 0 rest

/-- The special characters of an attribute's value written as references. -/
def escapeValue (t : Text) : Text := escapeValueFrom 0 t

/-- An attribute with a space before it. -/
def writeAttribute (element : Text) (a : Attribute) : Text :=
  match a.value with
  | none => ' ' :: a.name
  | some v =>
    if isFlag a.name then ' ' :: a.name
    else
      let v := escapeValue v
      let v := if isAddress element a.name then escapeAddress v else v
      ' ' :: a.name ++ '=' :: quote v

/-- Whether an element is written without an end tag when it is empty. -/
def endsSilently (name : Text) : Bool := name == "li"

mutual

/-- A node as HTML; `verbatim` says that text is written as it is. -/
def writeNode (verbatim : Bool) : Node → Text
  | .text t => if verbatim then t else escape t
  | .comment t => "<!--" ++ t ++ "-->"
  | .instruction t => "<?" ++ t ++ ">"
  | .element name attributes children =>
    let start : Text := '<' :: name ++ attributes.flatMap (writeAttribute name) ++ ['>']
    if isVoid name || (children.isEmpty && endsSilently name) then start
    else
      start ++ writeNodes (isRaw name) children ++ "</" ++ name ++ ['>']

/-- Nodes as HTML, one after the other. -/
def writeNodes (verbatim : Bool) : List Node → Text
  | [] => []
  | n :: rest => writeNode verbatim n ++ writeNodes verbatim rest

end

/-- The tags that declare the type of a document start like this. -/
def declaration : Text := "<meta http-equiv=\"Content-Type\""

/-- HTML without the tags that declare its type. The number counts characters of such a tag still to be
    passed over. -/
def withoutDeclarations : Nat → Text → Text
  | _, [] => []
  | skip + 1, _ :: rest => withoutDeclarations skip rest
  | 0, c :: rest =>
    match (Text.after? declaration (c :: rest)).map (Text.find? ['>']) with
    | some (some n) => withoutDeclarations (declaration.length + n) rest
    | _ => c :: withoutDeclarations 0 rest

namespace Element

/-- The element as HTML, with its tags. -/
def outer (e : Element) : Text := withoutDeclarations 0 (writeNode false e.node)

/-- What stands inside the element as HTML. -/
def inner (e : Element) : Text := withoutDeclarations 0 (writeNodes false e.node.children)

end Element

end PageQuery.Html
