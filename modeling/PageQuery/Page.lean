import PageQuery.Format.Reader
import PageQuery.Html.Reader
import PageQuery.Transform.Literal

namespace PageQuery

/-!
# Pages

* `Page`: a document with its address, its elements and its data;
* `Page.build`: the page that is made of an address, HTML and data;
* `Page.ofText`: the page of a text whose format is found out;
* `Page.ofBody`: the page of a document as it arrives;
* `Node`: what a query starts from, an element or data of a page.
-/

/-- A document that has been read. -/
structure Page where
  url : Text
  document : Html.Element
  data : Value
  deriving Repr, Inhabited

/-- A part of a page: an element, data, or both. -/
structure Node where
  page : Page
  element : Option Html.Element
  data : Value
  deriving Repr, Inhabited

/-- The document of a text. -/
def readDocument (t : Text) : Except Fault Html.Element :=
  match Html.document? t with
  | some e => .ok e
  | none => .error .noElement

/-- The elements from an element on that have an identifier, in document order. -/
def Html.Element.withId (e : Html.Element) (id : Text) : List Html.Element :=
  (e :: e.descendants).filter fun d => d.attribute? "id" == some id

namespace Page

/-- The data that the element with an identifier holds as JSON, if it holds other than a text. -/
def embedded (document : Html.Element) (id : Text) : Value :=
  match (document.withId id).head? with
  | none => .null
  | some e =>
    match Transform.decode (.text (Text.trim e.text)) with
    | .scalar (.text _) => .null
    | v => v

/-- The page of an address, HTML and data. Data may be given as JSON text; if there is none, the element
    with the identifier `embeddedId` may hold it. -/
def build (url html : Text) (data : Value) (embeddedId : Text) : Except Fault Page := do
  let document ← readDocument html
  let data := Transform.decode data
  let data := if data.isNull && !embeddedId.isEmpty then embedded document embeddedId else data
  return ⟨url, document, data⟩

/-- The part of the page's address that all pages of a site share. -/
def origin (p : Page) : Except Fault Text := (Url.origin p.url).mapError .url

/-- The whole page. -/
def root (p : Page) : Node := ⟨p, some p.document, p.data⟩

/-! ### Pages from documents -/

/-- The value of a text in a format, if it is more than a text. -/
def structured? (f : Format) (t : Text) : Except Fault (Option Value) := do
  match ← f.load t with
  | .scalar (.text _) => return none
  | v => return some v

/-- The formats in which a text is to be tried: what looks like XML is tried as that first. -/
def candidates (contentType : Option Text) (t : Text) : List Format :=
  let detected := Format.detect contentType (some t)
  let marked := Text.startsWith "<?xml" (Text.trimLeft t)
  (if detected = some .xml || marked then [.xml] else []) ++
    match detected with
    | some .json => [.json]
    | some .yaml => [.yaml]
    | _ => []

/-- The value of a text in the first of some formats that fits. -/
def firstStructured? (t : Text) : List Format → Except Fault (Option Value)
  | [] => .ok none
  | f :: rest => do
    match ← structured? f t with
    | some v => return some v
    | none => firstStructured? t rest

/-- The page of a text: its data if it has a format for data, else its HTML. -/
def ofText (url t : Text) (contentType : Option Text) : Except Fault Page := do
  match ← firstStructured? t (candidates contentType t) with
  | some v => build url [] v []
  | none => build url t .null []

/-- The page of a document as it arrives: bytes are UTF-8, and lists and maps are data. -/
def ofBody (url : Text) (b : Body) (contentType : Option Text) : Except Fault Page :=
  match b with
  | .text t => ofText url t contentType
  | .bytes bs => ofText url (Utf8.decodeReplacing bs) contentType
  | .value (.list vs) => build url [] (.list vs) []
  | .value (.map es) => build url [] (.map es) []
  | .value v => do
    let t ← if v.isNothing then pure [] else v.plain.mapError .numeral
    ofText url t contentType

end Page

/-- The value of a part of a page: the element if there is one. -/
def Node.value (n : Node) : Value :=
  match n.element with
  | some e => .element e
  | none => n.data

end PageQuery
