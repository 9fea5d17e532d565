import PageQuery.Html.Lexer

namespace PageQuery.Html

/-!
# Reading documents

The tree that the tokens of a document build. Tags that may be left out are supplied: elements are
closed by what cannot stand inside them, and `html`, `head` and `body` are opened when they are
needed.

* `Builder`: the open elements and what has been seen;
* `Builder.start`, `Builder.stop`, `Builder.text`: what a token does;
* `document?`: the root element of a document, if it holds an element.
-/

/-! ### What closes what -/

/-- A row of a table of names. -/
def names (t : String) : List Text := Text.words t.toList

/-- The start tags that close the head. -/
def bodyNames : List Text :=
  names "a abbr acronym address b bdo big blockquote body br center cite code dd dfn dir div dl dt" ++
    names "em fieldset font form frameset h1 h2 h3 h4 h5 h6 hr i iframe img kbd li listing map menu" ++
    names "ol p pre q s samp small span strike strong sub sup table tt u ul var xmp"

/-- The start tags that close a paragraph. -/
def blockNames : List Text :=
  names "address blockquote body caption center col colgroup dd dir div dl dt frameset h1 h2 h3 h4" ++
    names "h5 h6 head hr li listing menu ol p pre table tbody td tfoot th title tr ul xmp"

/-- Open elements, and the start tags that close them. -/
def closedBy : List (Text × List Text) :=
  [("a".toList, names "a fieldset table td th"),
    ("address".toList, names "dd dl dt form li ul"),
    ("b".toList, names "center p td th"),
    ("big".toList, names "p"),
    ("caption".toList, names "col colgroup tbody tfoot thead tr"),
    ("col".toList, names "col colgroup tbody tfoot thead tr"),
    ("colgroup".toList, names "colgroup tbody tfoot thead tr"),
    ("dd".toList, names "dt"),
    ("dir".toList, names "dd dl dt form ul"),
    ("dl".toList, names "form li"),
    ("dt".toList, names "dd dl"),
    ("font".toList, names "center td th"),
    ("form".toList, names "form"),
    ("h1".toList, names "fieldset form li p table"),
    ("h2".toList, names "fieldset form li p table"),
    ("h3".toList, names "fieldset form li p table"),
    ("h4".toList, names "fieldset form li p table"),
    ("h5".toList, names "fieldset form li p table"),
    ("h6".toList, names "fieldset form li p table"),
    ("head".toList, bodyNames),
    ("hr".toList, names "form"),
    ("i".toList, names "center"),
    ("legend".toList, names "fieldset"),
    ("li".toList, names "li"),
    ("link".toList, names "body frameset"),
    ("listing".toList, names "dd dl dt fieldset form li table ul"),
    ("menu".toList, names "dd dl dt form ul"),
    ("ol".toList, names "form"),
    ("option".toList, names "optgroup option"),
    ("p".toList, blockNames),
    ("pre".toList, names "dd dl dt fieldset form li table ul"),
    ("s".toList, names "p"),
    ("script".toList, names "noscript"),
    ("small".toList, names "p"),
    ("span".toList, names "td th"),
    ("strike".toList, names "p"),
    ("style".toList, names "body frameset"),
    ("tbody".toList, names "tbody tfoot"),
    ("td".toList, names "tbody td tfoot th tr"),
    ("tfoot".toList, names "tbody"),
    ("th".toList, names "tbody td tfoot th tr"),
    ("thead".toList, names "tbody tfoot"),
    ("title".toList, names "body frameset"),
    ("tr".toList, names "tbody tfoot tr"),
    ("tt".toList, names "p"),
    ("u".toList, names "p td th"),
    ("ul".toList, names "address form menu ol pre"),
    ("xmp".toList, names "dd dl dt fieldset form li table ul")]

/-- Whether the start tag `next` closes the open element `current`. -/
def closes (current next : Text) : Bool :=
  match closedBy.lookup current with
  | some names => names.contains next
  | none => false

/-- The elements that never hold anything. -/
def isVoid (name : Text) : Bool :=
  (names "area base basefont bgsound br col embed frame hr img input isindex keygen link meta" ++
    names "param source track wbr").contains name

/-- How strongly an element holds its place when an end tag further out is met. -/
def strength (name : Text) : Nat :=
  if name = "div" then 150
  else if (names "td th").contains name then 160
  else if name = "tr" then 170
  else if (names "thead tbody tfoot").contains name then 180
  else if name = "table" then 190
  else if (names "head body").contains name then 200
  else if name = "html" then 220
  else 100

/-! ### The builder -/

/-- An element that is still open, with its children so far, the last one first. -/
structure Open where
  name : Text
  attributes : List Attribute
  children : List Node
  deriving Repr, Inhabited

/-- A document that is being read. -/
structure Builder where
  /-- The open elements, the innermost first. -/
  stack : List Open := []
  /-- The first element that was closed with none around it. -/
  root : Option Node := none
  /-- Whether a head, or a body without one, has been opened. -/
  headSeen : Bool := false
  bodySeen : Bool := false
  /-- How many start tags of `html`, `head` or `body` were passed over; as many end tags will be. -/
  misplaced : Nat := 0
  deriving Repr, Inhabited

namespace Builder

/-- The name of the innermost open element. -/
def current? (b : Builder) : Option Text := b.stack.head?.map (·.name)

/-- Whether an element of a name is open. -/
def isOpen (name : Text) (b : Builder) : Bool := b.stack.any (·.name == name)

/-- A node added to the innermost open element; outside of all elements it is dropped, unless it is
    the first element there. Text joins with text before it. -/
def add (n : Node) (b : Builder) : Builder :=
  match b.stack with
  | [] => if n.isElement && b.root.isNone then { b with root := some n } else b
  | top :: rest =>
    match n, top.children with
    | .text t, .text s :: before =>
      { b with stack := { top with children := .text (s ++ t) :: before } :: rest }
    | n, children => { b with stack := { top with children := n :: children } :: rest }

/-- The innermost element closed. -/
def pop (b : Builder) : Builder :=
  match b.stack with
  | [] => b
  | top :: rest =>
    add (.element top.name top.attributes top.children.reverse) { b with stack := rest }

/-- The innermost elements closed, as many as given. -/
def popMany : Nat → Builder → Builder
  | 0, b => b
  | n + 1, b => popMany n b.pop

/-- An element opened. -/
def push (name : Text) (attributes : List Attribute) (b : Builder) : Builder :=
  { b with
    stack := ⟨name, attributes, []⟩ :: b.stack
    headSeen := b.headSeen || name == "head" || name == "body"
    bodySeen := b.bodySeen || name == "body" }

/-- The elements closed that cannot hold the start tag of a name. -/
def closeFor (next : Text) (b : Builder) : Builder :=
  popMany (b.stack.takeWhile fun o => closes o.name next).length b

/-- The elements opened that a tag of the name needs around it. -/
def imply (next : Text) (b : Builder) : Builder :=
  if next = "html" then b
  else
    let b := if b.stack.isEmpty then b.push "html" [] else b
    if next = "body" || next = "head" then b
    else if b.stack.length ≤ 1 && (names "script style meta link title base").contains next then
      if b.headSeen then b else b.push "head" []
    else if (names "noframes frame frameset").contains next then b
    else if b.bodySeen || b.isOpen "body" || b.isOpen "head" then b
    else b.push "body" []

/-- Whether a start tag has no place. -/
def isMisplaced (name : Text) (b : Builder) : Bool :=
  (name == "html" && !b.stack.isEmpty) || (name == "head" && b.stack.length != 1) ||
    (name == "body" && b.isOpen "body")

/-- What a start tag does. -/
def start (name : Text) (attributes : List Attribute) (closed : Bool) (b : Builder) : Builder :=
  let b := (b.closeFor name).imply name
  if b.isMisplaced name then { b with misplaced := b.misplaced + 1 }
  else
    let b := b.push name attributes
    if closed || isVoid name then b.pop else b

/-- How many elements an end tag closes: those up to its own, if none of them holds its place more
    strongly. -/
def closedByStop (name : Text) : List Open → Option Nat
  | [] => none
  | o :: rest =>
    if o.name = name then some 1
    else if strength name < strength o.name then none
    else (closedByStop name rest).map (· + 1)

/-- What an end tag does. -/
def stop (name : Text) (b : Builder) : Builder :=
  if 0 < b.misplaced && (names "html head body").contains name then
    { b with misplaced := b.misplaced - 1 }
  else
    match closedByStop name b.stack with
    | some n => popMany n b
    | none => b

/-- What text does: outside of the body its leading white space stays where it is, and the rest opens
    the body. -/
def text (t : Text) (b : Builder) : Builder :=
  let outside : Bool :=
    match b.current? with
    | none => true
    | some name => name == "html" || name == "head"
  if !outside then b.add (.text t)
  else
    let lead := t.takeWhile isBlankChar
    let rest := t.drop lead.length
    let b := if lead.isEmpty then b else b.add (.text lead)
    if rest.isEmpty then b
    else
      let b := if b.current? = some "head".toList then b.closeFor "p" else b
      (b.imply "p").add (.text rest)

/-- What a token does. -/
def step (b : Builder) : Token → Builder
  | .text t => b.text t
  | .comment t => b.add (.comment t)
  | .start name attributes closed => b.start name attributes closed
  | .stop name => b.stop name

/-- The root element once every element is closed. -/
def finish (b : Builder) : Option Node := (popMany b.stack.length b).root

end Builder

/-- The tree under the root element of a document, if it holds an element. -/
def read? (t : Text) : Option Node := ((tokens t).foldl Builder.step {}).finish

/-- The root element of a document, if it holds an element. A blank document has an empty root. -/
def document? (t : Text) : Option Element :=
  (read? (if Text.isBlank t then "<html></html>" else t)).map fun root => ⟨root, []⟩

end PageQuery.Html
