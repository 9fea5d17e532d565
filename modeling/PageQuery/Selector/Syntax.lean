import PageQuery.Selector.Token
import PageQuery.Text.Case

namespace PageQuery

/-!
# The grammar of selectors

* `Selector`: what is asked of an element;
* `Complaint`: why a text is no selector;
* `parse`: the alternatives of a selector.
-/

namespace Selector

/-- How an element stands to another one. -/
inductive Combinator where
  | descendant
  | child
  | next
  | later
  deriving Repr, DecidableEq, Inhabited

/-- How the value of an attribute is compared. -/
inductive Comparison where
  | equals
  | word
  | dash
  | starts
  | ends
  | holds
  | differs
  deriving Repr, DecidableEq

end Selector

/-- What is asked of an element. -/
inductive Selector where
  /-- A name, or any name, with the prefix of a namespace or without. -/
  | element (space name : Option Text)
  | withId (s : Selector) (value : Text)
  | withClass (s : Selector) (value : Text)
  | withAttribute (s : Selector) (space : Option Text) (name : Text)
  | compared (s : Selector) (space : Option Text) (name : Text) (by_ : Selector.Comparison) (value : Text)
  /-- A word after a colon. -/
  | pseudo (s : Selector) (name : Text)
  /-- A word after a colon with arguments in parentheses. -/
  | function (s : Selector) (name : Text) (arguments : List Selector.Token)
  | without (s inner : Selector)
  | oneOf (s : Selector) (inner : List Selector)
  /-- Some element that stands so to this one is selected by `inner`. -/
  | holding (s : Selector) (how : Selector.Combinator) (inner : Selector)
  /-- An element that stands so to one that `s` selects. -/
  | combined (s : Selector) (how : Selector.Combinator) (next : Selector)
  deriving Repr, Inhabited

namespace Selector

/-- A selector with the word after two colons, if there is one at its end. -/
structure Alternative where
  selector : Selector
  part : Option Text
  deriving Repr, Inhabited

/-- Why a text is no selector. -/
inductive Complaint where
  | refused (message : Text)
  /-- The text ends inside a list of selectors. -/
  | cut
  deriving Repr, DecidableEq

/-! ### Reading tokens -/

/-- The tokens that have been read, the last one first, and those that have not. -/
structure Stream where
  used : List Token
  rest : List Token

/-- A reader of tokens. -/
abbrev Reader := StateT Stream (Except Complaint)

/-- A complaint. -/
def refuse {α : Type} (message : Text) : Reader α := throw (.refused message)

/-- The next token, which stays. -/
def peek : Reader Token := do
  match (← get).rest with
  | [] => throw .cut
  | t :: _ => if t.kind = .broken then refuse t.text else return t

/-- The next token, which is used up. -/
def next : Reader Token := do
  let t ← peek
  modify fun s => ⟨t :: s.used, s.rest.drop 1⟩
  return t

/-- Passes over white space. -/
def skipGap : Reader Unit := do
  if (← peek).kind = .space then discard next

/-- The next token, which must be a name. -/
def nextName : Reader Text := do
  let t ← next
  if t.kind = .name then return t.text else refuse ("Expected ident, got " ++ t.shown)

/-- The next token, which must be a name or a star. -/
def nextNameOrStar : Reader (Option Text) := do
  let t ← next
  if t.kind = .name then return some t.text
  else if t.isMark '*' then return none
  else refuse ("Expected ident or '*', got " ++ t.shown)

/-- The message that something stands after a part that must come last. -/
def notLast (part : Text) : Text :=
  "Got pseudo-element ::" ++ part ++ " not at the end of a selector"

/-! ### The parts of selectors -/

/-- An attribute in brackets, after the opening one. -/
def attributeOf (s : Selector) : Reader Selector := do
  skipGap
  let first ← nextNameOrStar
  let bar := (← peek).isMark '|'
  match first with
  | none => unless bar do refuse ("Expected '|', got " ++ (← peek).shown)
  | some _ => pure ()
  if bar then
    discard next
    if (← peek).isMark '=' then
      discard next
      valueOf s none (first.getD []) .dash
    else operatorOf s first (← nextName)
  else operatorOf s none (first.getD [])
where
  /-- The comparison and the value, if there are any. -/
  operatorOf (s : Selector) (space : Option Text) (name : Text) : Reader Selector := do
    skipGap
    let t ← next
    if t.isMark ']' then return .withAttribute s space name
    else if t.isMark '=' then valueOf s space name .equals
    else
      let equals := t.isMarkOf "^$*~|!" && (← peek).isMark '='
      unless equals do refuse ("Operator expected, got " ++ t.shown)
      discard next
      valueOf s space name <|
        if t.isMark '^' then .starts
        else if t.isMark '$' then .ends
        else if t.isMark '*' then .holds
        else if t.isMark '~' then .word
        else if t.isMark '|' then .dash
        else .differs
  /-- The value and the closing bracket. -/
  valueOf (s : Selector) (space : Option Text) (name : Text) (how : Comparison) : Reader Selector := do
    skipGap
    let value ← next
    unless value.kind = .name || value.kind = .string do
      refuse ("Expected string or ident, got " ++ value.shown)
    skipGap
    let close ← next
    unless close.isMark ']' do refuse ("Expected ']', got " ++ close.shown)
    return .compared s space name how value.text

/-- The arguments of a function, after the opening parenthesis. -/
def argumentsOf : (fuel : Nat) → List Token → Reader (List Token)
  | 0, _ => throw .cut
  | fuel + 1, seen => do
    skipGap
    let t ← next
    if t.kind = .name || t.kind = .string || t.kind = .number || t.isMarkOf "+-" then
      argumentsOf fuel (t :: seen)
    else if t.isMark ')' then return seen.reverse
    else refuse ("Expected an argument, got " ++ t.shown)

/-- The text of the tokens up to the closing parenthesis, where the first one has been read. -/
def relativeText : (fuel : Nat) → Token → Reader Text
  | 0, _ => throw .cut
  | fuel + 1, t => do
    if t.kind = .name || t.kind = .string || t.kind = .number || t.isMarkOf ".*" then
      return t.text ++ (← relativeText fuel (← next))
    else if t.isMark ')' then return []
    else refuse ("Expected an argument, got " ++ t.shown)

/-- The way of standing to an element that a mark names. -/
def combinator? (t : Token) : Option Combinator :=
  if t.isMark '>' then some .child
  else if t.isMark '+' then some .next
  else if t.isMark '~' then some .later
  else none

/-- The way of standing to an element at the start of an argument, and the text of a selector. -/
def relativeOf (fuel : Nat) : Reader (Combinator × Text) := do
  skipGap
  let t ← next
  match combinator? t with
  | some how =>
    skipGap
    return (how, ← relativeText fuel (← next))
  | none => return (.descendant, ← relativeText fuel t)

/-- The words that name a part of an element also after one colon. -/
def oldParts : List Text := ["first-line", "first-letter", "before", "after"]

/-- Whether the word for the starting point, just read, starts a selector. The argument is the tokens
    read, the last one first. -/
def startsAlternative : List Token → Bool
  | [_, _] => true
  | [_, _, first] => first.kind == .space || first.isMark ','
  | _ :: _ :: a :: b :: _ => a.isMark ',' || (a.kind == .space && b.isMark ',')
  | _ => false

mutual

/-- A selector without combinators, with the word after two colons at its end. -/
def compound : (fuel : Nat) → (inside : Bool) → Reader Alternative
  | 0, _ => throw .cut
  | fuel + 1, inside => do
    skipGap
    let before := (← get).used.length
    let t ← peek
    let s ←
      if t.kind = .name || t.isMark '*' then do
        discard next
        let first := if t.kind = .name then some t.text else none
        if (← peek).isMark '|' then do
          discard next
          pure (Selector.element first (← nextNameOrStar))
        else pure (.element none first)
      else pure (.element none none)
    let result ← suffixes fuel inside s none
    if (← get).used.length = before then
      refuse ("Expected selector, got " ++ (← peek).shown)
    else return result

/-- What may follow in a selector without combinators. -/
def suffixes : (fuel : Nat) → (inside : Bool) → Selector → (part : Option Text) → Reader Alternative
  | 0, _, _, _ => throw .cut
  | fuel + 1, inside, s, part => do
    let t ← peek
    if t.kind = .space || t.kind = .stop || t.isMarkOf ",+>~" || (inside && t.isMark ')') then
      return ⟨s, part⟩
    else if let some p := part then refuse (notLast p)
    else
      discard next
      if t.kind = .hash then suffixes fuel inside (.withId s t.text) none
      else if t.isMark '.' then suffixes fuel inside (.withClass s (← nextName)) none
      else if t.isMark '|' then suffixes fuel inside (.element none (some (← nextName))) none
      else if t.isMark '[' then suffixes fuel inside (← attributeOf s) none
      else if t.isMark ':' then
        if (← peek).isMark ':' then
          discard next
          let name ← nextName
          if (← peek).isMark '(' then
            discard next
            discard (argumentsOf ((← get).rest.length + 1) [])
          suffixes fuel inside s (some name)
        else
          let name ← nextName
          let lowered := name.map Char.toLower
          if oldParts.contains (Text.lower name) then suffixes fuel inside s (some name)
          else if (← peek).isMark '(' then
            discard next
            skipGap
            suffixes fuel inside (← call fuel inside s lowered) none
          else
            let bare := match s with
              | .element none none => lowered == "scope"
              | _ => false
            if bare && !startsAlternative (← get).used then
              refuse "Got immediate child pseudo-element \":scope\" not at the start of a selector"
            else suffixes fuel inside (.pseudo s lowered) none
      else refuse ("Expected selector, got " ++ t.shown)

/-- A word after a colon with its arguments, after the opening parenthesis. -/
def call : (fuel : Nat) → (inside : Bool) → Selector → (name : Text) → Reader Selector
  | 0, _, _, _ => throw .cut
  | fuel + 1, inside, s, name => do
    if name = "not" then
      if inside then refuse "Got nested :not()"
      else
        let inner ← compound fuel true
        let close ← next
        if let some p := inner.part then
          refuse ("Got pseudo-element ::" ++ p ++ " inside :not() at " ++ Text.ofNat close.position)
        else if close.isMark ')' then return .without s inner.selector
        else refuse ("Expected ')', got " ++ close.shown)
    else if name = "has" then
      let (how, t) ← relativeOf ((← get).rest.length + 1)
      match (group fuel).run ⟨[], tokens t⟩ with
      | .ok (first :: _, _) => return .holding s how first.selector
      | .ok ([], _) => throw .cut
      | .error e => throw e
    else if name = "matches" || name = "is" || name = "where" then
      return .oneOf s (← listOf fuel)
    else return .function s name (← argumentsOf ((← get).rest.length + 1) [])

/-- The selectors of a list, up to the closing parenthesis. -/
def listOf : (fuel : Nat) → Reader (List Selector)
  | 0 => throw .cut
  | fuel + 1 => do
    let a ← compound fuel true
    if let some p := a.part then refuse ("Got pseudo-element ::" ++ p ++ " inside function")
    else
      skipGap
      let t ← next
      if t.kind = .stop || t.isMark ',' then return a.selector :: (← listOf fuel)
      else if t.isMark ')' then return [a.selector]
      else refuse ("Expected an argument, got " ++ t.shown)

/-- Selectors without combinators, joined by combinators. -/
def complex : (fuel : Nat) → (left : Option (Selector × Combinator)) → Reader Alternative
  | 0, _ => throw .cut
  | fuel + 1, left => do
    let a ← compound fuel false
    let s := match left with
      | some (l, how) => .combined l how a.selector
      | none => a.selector
    skipGap
    let t ← peek
    if t.kind = .stop || t.isMark ',' then return ⟨s, a.part⟩
    else if let some p := a.part then refuse (notLast p)
    else
      match combinator? t with
      | some how => do
        discard next
        skipGap
        complex fuel (some (s, how))
      | none => complex fuel (some (s, .descendant))

/-- The alternatives of a selector. -/
def group : (fuel : Nat) → Reader (List Alternative)
  | 0 => throw .cut
  | fuel + 1 => do
    skipGap
    let a ← complex fuel none
    if (← peek).isMark ',' then
      discard next
      return a :: (← group fuel)
    else return [a]

end

/-- The alternatives of a selector. Every step of the reader uses up a token or goes into one of at most
    five nested readers, which bounds the fuel. -/
def parse (t : Text) : Except Complaint (List Alternative) :=
  ((group (6 * t.length + 6)).run ⟨[], tokens t⟩).map (·.1)

end Selector

end PageQuery
