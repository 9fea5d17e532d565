import PageQuery.Html.Tree
import PageQuery.Selector.Plan

namespace PageQuery.Selector

/-!
# Searching

* `Condition.holds`: whether a condition holds of an element;
* `select`: the elements below an element that a selector selects, in document order.

Names with the prefix of a namespace cannot be looked up, because nothing declares prefixes; only the
prefix `xml` is known, and no name has it.
-/

open Html (Element)

/-- A prefix that nothing declares was to be looked up. -/
structure Undeclared where
  space : Text
  deriving Repr, DecidableEq

/-- The outcome of looking something up. -/
abbrev Lookup := Except Undeclared

/-- A name without its prefix, if it can be looked up and has none. -/
def Name.local? (n : Name) : Lookup (Option Text) :=
  match n.space with
  | none => .ok (some n.name)
  | some space => if space = "xml" then .ok none else .error ⟨space⟩

/-- The elements that have the name of a test. -/
def Test.keep (t : Test) (es : List Element) : Lookup (List Element) :=
  match t with
  | .any => .ok es
  | .named n => do
    match ← n.local? with
    | some name => return es.filter (·.name == name)
    | none => return []

/-- The value of an attribute, if the element has it. -/
def Place.value? (a : Place) (e : Element) : Lookup (Option Text) :=
  match a with
  | .plain n => return (← n.local?).bind e.attribute?
  | .spelled t => .ok (e.attribute? t)

/-- The white space between the words of an attribute. -/
def isWordGap (c : Char) : Bool := c == ' ' || c == '\t' || c == '\r' || c == '\n'

/-- Whether the value of an attribute, which may be absent, compares so. -/
def Comparison.accepts (how : Comparison) (value : Text) (actual : Option Text) : Bool :=
  match how, actual with
  | .differs, none => !value.isEmpty
  | .differs, some t => t != value
  | _, none => false
  | .equals, some t => t == value
  | .word, some t => (Text.pieces isWordGap t).contains value
  | .dash, some t => t == value || Text.startsWith (value ++ ['-']) t
  | .starts, some t => Text.startsWith value t
  | .ends, some t => Text.endsWith value t
  | .holds, some t => Text.holds value t

/-- Whether a count is of the amount asked for. -/
def Amount.holds (n : Nat) : Amount → Bool
  | .exactly m => (n : Int) = m
  | .atLeast m => m ≤ (n : Int)
  | .atMost m => (n : Int) ≤ m
  | .step start stride => (n + start) % stride = 0

/-- The siblings that are counted. -/
def Siblings.of (which : Siblings) (e : Element) : List Element :=
  match which with
  | .before => e.preceding
  | .after => e.following
  | .all => (e.parent?.map Element.children).getD []

/-- The elements that stand so to an element, nearest first where it matters. -/
def Combinator.from (how : Combinator) (e : Element) : List Element :=
  match how with
  | .descendant => e.descendants
  | .child => e.children
  | .next | .later => e.following

/-! ### Forms and links -/

/-- Whether an element has one of the names. -/
def isOneOf (names : List String) (e : Element) : Bool := (names.map String.toList).contains e.name

/-- Whether an element has an attribute. -/
def hasAttribute (name : String) (e : Element) : Bool := (e.attribute? name.toList).isSome

/-- Whether an element is an input field that says its type, and is not hidden. -/
def isShownInput (e : Element) : Bool :=
  e.name == "input" && (e.attribute? "type").any fun t => t != "hidden".toList

/-- Whether some element around an element has one of the names and is disabled. -/
def isDisabledAround (name : String) (e : Element) : Bool :=
  e.ancestors.any fun a => a.name == name.toList && hasAttribute "disabled" a

/-- Whether an element is in a state. -/
def State.holds (e : Element) : State → Bool
  | .link => hasAttribute "href" e && isOneOf ["a", "link", "area"] e
  | .checked =>
    (hasAttribute "selected" e && e.name == "option") ||
      (hasAttribute "checked" e && isOneOf ["input", "command"] e &&
        (e.attribute? "type").any fun t => t == "checkbox".toList || t == "radio".toList)
  | .disabled =>
    (hasAttribute "disabled" e && (isShownInput e ||
      isOneOf ["button", "select", "textarea", "command", "fieldset", "optgroup", "option"] e)) ||
    ((isShownInput e || isOneOf ["button", "select", "textarea"] e) && isDisabledAround "fieldset" e)
  | .enabled =>
    (hasAttribute "href" e && isOneOf ["a", "link", "area"] e) ||
    (isOneOf ["command", "fieldset", "optgroup"] e && !hasAttribute "disabled" e) ||
    ((isShownInput e || isOneOf ["button", "select", "textarea", "keygen"] e) &&
      !(hasAttribute "disabled" e || isDisabledAround "fieldset" e)) ||
    (e.name == "option" && !(hasAttribute "disabled" e || isDisabledAround "optgroup" e))

/-- Whether the language that is declared nearest to an element is the given one, or a kind of it. -/
def speaks (language : Text) (e : Element) : Bool :=
  match (e :: e.ancestors).findSome? (·.attribute? "lang") with
  | none => false
  | some t => Text.startsWith (language ++ ['-']) (t.map Char.toLower ++ ['-'])

/-! ### Conditions -/

/-- Whether one of the elements satisfies a test that may fail. -/
def anyOf (test : Element → Lookup Bool) : List Element → Lookup Bool
  | [] => .ok false
  | e :: rest => do if ← test e then return true else anyOf test rest

/-- Whether a condition holds of an element that a step finds at a position, counted from one. -/
def Condition.holds (position : Nat) (e : Element) : Condition → Lookup Bool
  | .never => .ok false
  | .origin => .ok true
  | .first => .ok (position == 1)
  | .called name => .ok (e.name == name)
  | .present a => return (← a.value? e).isSome
  | .compared a how value => return how.accepts value (← a.value? e)
  | .count which of amounts => do
    let n := (← of.keep (which.of e)).length
    return amounts.all (·.holds n)
  | .root => .ok e.parent?.isNone
  | .empty => .ok (e.children.isEmpty && e.text.isEmpty)
  | .holdsText t => .ok (Text.holds t e.text)
  | .speaks language => .ok (Selector.speaks language e)
  | .state s => .ok (s.holds e)
  | .holding how of c => do
    let near := how.from e
    let near := if how = .next then near.take 1 else near
    anyOf (fun e => c.holds 1 e) (← of.keep near)
  | .not c => return !(← c.holds position e)
  | .and a b => do if ← a.holds position e then b.holds position e else return false
  | .or a b => do if ← a.holds position e then return true else b.holds position e

/-- The elements of which a condition holds, where the first one stands at the given position. -/
def Condition.keep (c : Condition) : (position : Nat) → List Element → Lookup (List Element)
  | _, [] => .ok []
  | position, e :: rest => do
    let here ← match c with
      | .origin => pure (position == 1)
      | c => c.holds position e
    let others ← Condition.keep c (position + 1) rest
    return if here then e :: others else others

/-! ### Steps -/

/-- The elements that a step finds among some that are in its reach together. -/
def Step.among (s : Step) (es : List Element) : Lookup (List Element) := do
  let named ← s.test.keep es
  match s.condition with
  | none => return named
  | some c => c.keep 1 named

/-- The groups of elements in reach of a step, within each of which places are counted. The first step
    of a search sees all elements below in one group; a later one sees them by their parents. -/
def Step.reach (s : Step) (first : Bool) (e : Element) : List (List Element) :=
  if s.how = .descendant && !first then (e :: e.descendants).map Element.children
  else [s.how.from e]

/-- The elements that a step finds from several elements, each once. -/
def Step.from (s : Step) (first : Bool) (es : List Element) : Lookup (List Element) := do
  let groups := es.flatMap (s.reach first)
  let found ← (if groups.isEmpty then [[]] else groups).mapM s.among
  return unique [] found.flatten
where
  /-- The elements in order, each once. -/
  unique (seen : List (List Nat)) : List Element → List Element
    | [] => []
    | e :: rest => if seen.contains e.way then unique seen rest else e :: unique (e.way :: seen) rest

/-- The elements that steps lead to. -/
def follow : (first : Bool) → List Step → List Element → Lookup (List Element)
  | _, [], es => .ok es
  | first, s :: rest, es => do follow false rest (← s.from first es)

/-- The elements below an element that one of several searches finds, in document order. -/
def findAll (searches : List Search) (e : Element) : Lookup (List Element) := do
  let found := (← searches.mapM fun s => follow true s.steps [e]).flatten.map (·.way)
  return e.descendants.filter fun d => found.contains d.way

end PageQuery.Selector
