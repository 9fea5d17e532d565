import PageQuery.Number.Numeral
import PageQuery.Selector.Syntax

namespace PageQuery.Selector

/-!
# Selectors as searches

A selector is turned into a search: steps from element to element, each with a condition.

* `Condition`: what can be found out about an element;
* `Step`, `Search`: where to go from an element, and the whole way;
* `search`: the searches of a selector's alternatives.
-/

/-- A name, with the prefix of a namespace or without. -/
structure Name where
  space : Option Text
  name : Text
  deriving Repr, DecidableEq

/-- The name of elements that a step looks at. -/
inductive Test where
  | any
  | named (n : Name)
  deriving Repr, DecidableEq, Inhabited

/-- Where an attribute is looked for. -/
inductive Place where
  | plain (n : Name)
  /-- An attribute whose name cannot be written down as one. -/
  | spelled (t : Text)
  deriving Repr, DecidableEq

/-- The siblings that are counted. -/
inductive Siblings where
  | before
  | after
  | all
  deriving Repr, DecidableEq

/-- What is asked of the count of siblings. -/
inductive Amount where
  | exactly (n : Int)
  | atLeast (n : Int)
  | atMost (n : Int)
  /-- The count and `n` together are a multiple of `m`. -/
  | step (n m : Nat)
  deriving Repr, DecidableEq

/-- What is known about elements of forms and links. -/
inductive State where
  | link
  | checked
  | enabled
  | disabled
  deriving Repr, DecidableEq

/-- What can be found out about an element, or about its place among those that a step finds. -/
inductive Condition where
  | never
  /-- True; but as the only condition of a step it selects what the step finds first. -/
  | origin
  /-- Found first by the step. -/
  | first
  | called (name : Text)
  | present (a : Place)
  | compared (a : Place) (how : Comparison) (value : Text)
  | count (which : Siblings) (of : Test) (amounts : List Amount)
  | root
  | empty
  | holdsText (t : Text)
  | speaks (language : Text)
  | state (s : State)
  | holding (how : Combinator) (of : Test) (c : Condition)
  | not (c : Condition)
  | and (a b : Condition)
  | or (a b : Condition)
  deriving Repr, Inhabited

/-- A step from an element to others. -/
structure Step where
  how : Combinator
  test : Test
  condition : Option Condition
  deriving Repr, Inhabited

/-- A search: the steps so far, and what is asked of the elements found last. -/
structure Search where
  before : List Step
  how : Combinator
  test : Test
  condition : Option Condition
  deriving Repr, Inhabited

namespace Search

/-- All steps of a search. -/
def steps (s : Search) : List Step := s.before ++ [⟨s.how, s.test, s.condition⟩]

/-- A search with a further condition. -/
def require (c : Condition) (s : Search) : Search :=
  { s with condition := some (match s.condition with
    | some old => .and old c
    | none => c) }

/-- A search with a condition that may hold in place of the one before it. -/
def allow (c : Condition) (s : Search) : Search :=
  { s with condition := some (match s.condition with
    | some old => .or old c
    | none => c) }

/-- The name that a test asks for, as one word. -/
def spelled (n : Name) : Text :=
  match n.space with
  | some space => space ++ ':' :: n.name
  | none => n.name

/-- A search whose test is a condition like the others. -/
def untested (s : Search) : Search :=
  match s.test with
  | .any => s
  | .named n => { s.require (.called (spelled n)) with test := .any }

end Search

/-! ### Names -/

/-- Whether a name needs no special care. -/
def isSafe : Text → Bool
  | [] => false
  | c :: rest =>
    (c.isAlpha || c == '_') && rest.all fun c => c.isAlphanum || c == '_' || c == '.' || c == '-'

/-- A search for elements of a name. -/
def searchNamed (space name : Option Text) : Search :=
  let safe := name.all isSafe && space.all isSafe
  let name := (name.filter fun t => !t.isEmpty).map Text.lower
  let start : Search :=
    match space, name with
    | none, none => ⟨[], .descendant, .any, none⟩
    | _, _ => ⟨[], .descendant, .named ⟨space, name.getD ['*']⟩, none⟩
  if safe then start else start.untested

/-- Where an attribute is to be looked for. -/
def place (space : Option Text) (name : Text) : Place :=
  let n : Name := ⟨space, Text.lower name⟩
  if isSafe n.name && space.all isSafe then .plain n else .spelled (Search.spelled n)

/-- The condition that a comparison asks for; an empty value is never found in another one. -/
def comparison (a : Place) (how : Comparison) (value : Text) : Condition :=
  match how with
  | .equals | .dash | .differs => .compared a how value
  | .word => if value.isEmpty || value.any isGap then .never else .compared a how value
  | .starts | .ends | .holds => if value.isEmpty then .never else .compared a how value

/-! ### Series -/

/-- The step and the start of a series such as `2n+1`. -/
def series? (arguments : List Token) : Option (Int × Int) :=
  if arguments.any (·.kind == .string) then none
  else
    let t := Text.trim (arguments.flatMap (·.text))
    if t = "odd" then some (2, 1)
    else if t = "even" then some (2, 0)
    else if t = "n" then some (1, 0)
    else
      match Text.cut 'n' t with
      | (_, none) => (Numeral.readInt? t).map fun b => (0, b)
      | (a, some b) => do
        let a ← if a.isEmpty then some 1
          else if a = "-" || a = "+" then Numeral.readInt? (a ++ ['1'])
          else Numeral.readInt? a
        let b ← if b.isEmpty then some 0 else Numeral.readInt? b
        return (a, b)

/-- A search with the condition that the number of siblings before or after is in a series whose first
    member is one. -/
def requireSeries (which : Siblings) (of : Test) (a b : Int) (s : Search) : Search :=
  let start := b - 1
  if a = 1 && start ≤ 0 then s
  else if a < 0 && start < 0 then s.require .never
  else if a = 0 then s.require (.count which of [.exactly start])
  else
    let bound : List Amount :=
      if a < 0 then [.atMost start] else if 0 < start then [.atLeast start] else []
    let stride : List Amount :=
      if a.natAbs = 1 then [] else [.step ((-start) % a.natAbs).toNat a.natAbs]
    s.require (.count which of (bound ++ stride))

/-! ### Words after a colon -/

/-- The complaint that an element's name must be given. -/
def needsName (word : Text) : Complaint := .refused ("*:" ++ word ++ " is not implemented")

/-- The arguments of a function as a complaint shows them. -/
def shownArguments (arguments : List Token) : Text :=
  '[' :: Text.join ", " (arguments.map Token.shown) ++ [']']

/-- A search with what a word after a colon asks for. -/
def requirePseudo (word : Text) (s : Search) : Except Complaint Search :=
  let ofType (which : Siblings) (n : Int) : Except Complaint Search :=
    match s.test with
    | .any => .error (needsName word)
    | test => .ok (s.require (.count which test [.exactly n]))
  match String.ofList (word.map fun c => if c == '-' then '_' else c) with
  | "root" => .ok (s.require .root)
  | "scope" => .ok (s.require .origin)
  | "first_child" => .ok (s.require (.count .before .any [.exactly 0]))
  | "last_child" => .ok (s.require (.count .after .any [.exactly 0]))
  | "only_child" => .ok (s.require (.count .all .any [.exactly 1]))
  | "first_of_type" => ofType .before 0
  | "last_of_type" => ofType .after 0
  | "only_of_type" => ofType .all 1
  | "empty" => .ok (s.require .empty)
  | "link" => .ok (s.require (.state .link))
  | "checked" => .ok (s.require (.state .checked))
  | "enabled" => .ok (s.require (.state .enabled))
  | "disabled" => .ok (s.require (.state .disabled))
  | "visited" | "hover" | "active" | "focus" | "target" => .ok (s.require .never)
  | _ => .error (.refused ("The pseudo-class :" ++ word ++ " is unknown"))

/-- A search with what a function asks for. -/
def requireFunction (word : Text) (arguments : List Token) (s : Search) : Except Complaint Search :=
  let inSeries (which : Siblings) (typed : Bool) : Except Complaint Search :=
    if typed && s.test = .any then .error (needsName "nth-of-type()")
    else
      match series? arguments with
      | none => .error (.refused ("Invalid series: '" ++ shownArguments arguments ++ ['\'']))
      | some (a, b) => .ok (requireSeries which (if typed then s.test else .any) a b s)
  let withText (f : Text → Condition) : Except Complaint Search :=
    match arguments with
    | [⟨.string, t, _⟩] | [⟨.name, t, _⟩] => .ok (s.require (f t))
    | _ => .error (.refused ("Expected a single string or ident for :" ++ word ++ "(), got " ++
        shownArguments arguments))
  match String.ofList (word.map fun c => if c == '-' then '_' else c) with
  | "nth_child" => inSeries .before false
  | "nth_last_child" => inSeries .after false
  | "nth_of_type" => inSeries .before true
  | "nth_last_of_type" => inSeries .after true
  | "contains" => withText .holdsText
  | "lang" => withText fun t => .speaks (Text.lower t)
  | _ => .error (.refused ("The pseudo-class :" ++ word ++ "() is unknown"))

/-! ### The search of a selector -/

mutual

/-- The search for what a selector asks for. -/
def searchOf : Selector → Except Complaint Search
  | .element space name => .ok (searchNamed space name)
  | .withId s value => return (← searchOf s).require (.compared (.plain ⟨none, "id"⟩) .equals value)
  | .withClass s value =>
    return (← searchOf s).require (comparison (.plain ⟨none, "class"⟩) .word value)
  | .withAttribute s space name => return (← searchOf s).require (.present (place space name))
  | .compared s space name how value =>
    return (← searchOf s).require (comparison (place space name) how value)
  | .pseudo s word => do requirePseudo word (← searchOf s)
  | .function s word arguments => do requireFunction word arguments (← searchOf s)
  | .without s inner => do
    let s ← searchOf s
    return s.require (match (← searchOf inner).untested.condition with
      | some c => .not c
      | none => .never)
  | .oneOf s inner => do
    let s ← searchOf s
    return (← searchesOf inner).foldl (fun s i => match i.untested.condition with
      | some c => s.allow c
      | none => s) s
  | .holding s how inner => do
    let s ← searchOf s
    let i ← searchOf inner
    return s.require (.holding how i.test (i.condition.getD (.not .never)))
  | .combined s how inner => do
    let s ← searchOf s
    let i ← searchOf inner
    let joined : Search := { i with before := s.steps ++ i.before, how }
    if how = .next then return joined.untested.require .first else return joined

/-- The searches for what several selectors ask for. -/
def searchesOf : List Selector → Except Complaint (List Search)
  | [] => .ok []
  | s :: rest => do
    let i ← searchOf s
    return i :: (← searchesOf rest)

end

/-- The search of an alternative, which cannot ask for a part of an element. -/
def searchFor (a : Alternative) : Except Complaint Search := do
  let s ← searchOf a.selector
  if a.part.isSome then throw (.refused "Pseudo-elements are not supported.") else return s

/-- The searches of the alternatives of a selector. -/
def search (t : Text) : Except Complaint (List Search) := do (← parse t).mapM searchFor

end PageQuery.Selector
