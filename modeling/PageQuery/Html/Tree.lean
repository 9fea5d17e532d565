import PageQuery.Text.Basic

namespace PageQuery.Html

/-!
# Document trees

Nodes of an HTML document, and elements as places in a document.

* `Node`: elements, runs of text, comments and processing instructions;
* `Element`: a document together with the way from its root to one of its elements;
* `Element.parent?`, `Element.children`, `Element.before`, `Element.following`,
  `Element.descendants`: the neighbours of an element, in document order;
* `Element.text`: all text inside an element.
-/

/-- An attribute; one written without `=` has no value. -/
structure Attribute where
  name : Text
  value : Option Text
  deriving Repr, DecidableEq, Inhabited

/-- A node of a document. -/
inductive Node where
  | text (content : Text)
  | comment (content : Text)
  | instruction (content : Text)
  | element (name : Text) (attributes : List Attribute) (children : List Node)
  deriving Repr, Inhabited

namespace Node

/-- Whether a node is an element, as against text, comments and instructions. -/
def isElement : Node → Bool
  | .element .. => true
  | _ => false

/-- The name of an element, and nothing for other nodes. -/
def name : Node → Text
  | .element name .. => name
  | _ => []

/-- The attributes of an element. -/
def attributes : Node → List Attribute
  | .element _ attributes _ => attributes
  | _ => []

/-- The child nodes of an element. -/
def children : Node → List Node
  | .element _ _ children => children
  | _ => []

mutual

/-- The text inside a node: its text runs in document order, without comments. -/
def innerText : Node → Text
  | .text t => t
  | .element _ _ children => innerTexts children
  | .comment _ => []
  | .instruction _ => []

/-- The text inside a list of nodes. -/
def innerTexts : List Node → Text
  | [] => []
  | n :: rest => innerText n ++ innerTexts rest

end

/-- The node at the end of a way that lists child positions, the last step first. -/
def locate? (root : Node) : (way : List Nat) → Option Node
  | [] => some root
  | i :: up => (locate? root up).bind (·.children[i]?)

mutual

/-- The ways to the elements inside a node that stands at `way`, in document order. -/
def waysBelow (way : List Nat) : Node → List (List Nat)
  | .element _ _ children => waysAmong way 0 children
  | _ => []

/-- The ways to the elements among children from position `i` on, and to those inside them. -/
def waysAmong (way : List Nat) (i : Nat) : List Node → List (List Nat)
  | [] => []
  | n :: rest =>
    let here := if n.isElement then [i :: way] else []
    here ++ waysBelow (i :: way) n ++ waysAmong way (i + 1) rest

end

end Node

/-- An element: a document, and the way to the element as child positions, the last step first. -/
structure Element where
  root : Node
  way : List Nat
  deriving Repr, Inhabited

namespace Element

/-- The element's own node. -/
def node (e : Element) : Node := (e.root.locate? e.way).getD (.text [])

/-- The tag name. -/
def name (e : Element) : Text := e.node.name

/-- The value of an attribute; one written without a value counts as empty. -/
def attribute? (e : Element) (name : Text) : Option Text :=
  (e.node.attributes.find? (·.name == name)).map fun a => a.value.getD []

/-- All text inside the element. -/
def text (e : Element) : Text := e.node.innerText

/-- The root element of the document. -/
def top (e : Element) : Element := { e with way := [] }

/-- The parent element, unless the element is the root. -/
def parent? (e : Element) : Option Element :=
  match e.way with
  | [] => none
  | _ :: up => some { e with way := up }

/-- The elements among the nodes that stand in the parent at `way` from position `i` on. -/
def amongFrom (root : Node) (way : List Nat) : (i : Nat) → List Node → List Element
  | _, [] => []
  | i, n :: rest =>
    if n.isElement then ⟨root, i :: way⟩ :: amongFrom root way (i + 1) rest
    else amongFrom root way (i + 1) rest

/-- The element children. -/
def children (e : Element) : List Element := amongFrom e.root e.way 0 e.node.children

/-- The siblings after the element, nearest first. -/
def following (e : Element) : List Element :=
  match e.way with
  | [] => []
  | i :: up =>
    let siblings : List Node := (Element.mk e.root up).node.children
    amongFrom e.root up (i + 1) (siblings.drop (i + 1))

/-- The siblings before the element, nearest first. -/
def preceding (e : Element) : List Element :=
  match e.way with
  | [] => []
  | i :: up =>
    let siblings : List Node := (Element.mk e.root up).node.children
    (amongFrom e.root up 0 (siblings.take i)).reverse

/-- The elements inside the element, in document order. -/
def descendants (e : Element) : List Element :=
  (Node.waysBelow e.way e.node).map fun way => ⟨e.root, way⟩

/-- The elements around the element, nearest first. -/
def ancestors (e : Element) : List Element :=
  go e.root e.way
where
  /-- The elements on a way, without the one at its end. -/
  go (root : Node) : List Nat → List Element
    | [] => []
    | _ :: up => ⟨root, up⟩ :: go root up

end Element

end PageQuery.Html
