import PageQuery.Html.Writer
import PageQuery.Selector.Match
import PageQuery.Session
import PageQuery.Text.Basic

namespace PageQuery.Path

/-!
# Paths in documents

A path leads from element to element. Its parts are selectors and marks such as `^` for the parent; a
last part with `@` asks for text or attributes.

* `select`: the elements below an element that a selector names;
* `navigate`: one step from an element;
* `accessor`: what a part with `@` gives;
* `document`: the results at the end of a path.
-/

open Html (Element)

/-- The elements below an element that a selector names: all of them after a star, else the first. A
    text that is no selector gives none, with a warning. -/
def select (e : Element) (t : Text) : Run (List Element) := do
  let (all, t) : Bool × Text :=
    match t with
    | '*' :: rest => (true, rest)
    | _ => (false, t)
  match Selector.search t with
  | .error (.refused message) =>
    modify (·.refuse t message)
    return []
  | .error .cut => throw .selectorCut
  | .ok searches =>
    match Selector.findAll searches e with
    | .error u => throw (.undeclared u.space)
    | .ok found => return if all then found else found.take 1

/-- One step from an element. -/
def navigate (e : Element) (part : Text) : Run (List Element) :=
  if part.isEmpty || part.head? = some '@' then return [e]
  else if part = "^^" then return [e.top]
  else if part = "^" then return e.parent?.toList
  else if part = ">" then return e.children.take 1
  else if part = "+" then return e.following.take 1
  else if part = "*+" then return e.following
  else if part = "-" then return e.preceding.take 1
  else if part = "*-" then return e.preceding
  else select e part

/-- Whether an element has a class that fits a pattern with stars. -/
def hasClass (e : Element) (pattern : Text) : Bool :=
  let classes := Text.words ((e.attribute? "class").getD [])
  if pattern.contains '*' then classes.any (fits pattern) else classes.contains pattern
where
  /-- Whether a pattern, in which only the star is special, fits. -/
  fits : (pattern t : Text) → Bool
    | [], t => t.isEmpty
    | '*' :: pattern, t => Text.anySuffix (fits pattern) t
    | p :: pattern, c :: rest => p == c && fits pattern rest
    | _ :: _, [] => false

/-- What one name in a part with `@` gives. -/
def access (e : Element) (name : Text) : Option Text :=
  match name with
  | '.' :: pattern => if hasClass e pattern then some "true" else none
  | _ =>
    if name.isEmpty || name = "text" then some (Text.trim e.text)
    else if name = "html" || name = "innerHtml" then some e.inner
    else if name = "outerHtml" then some e.outer
    else e.attribute? name

/-- What a part with `@` gives: the first of its names that gives some text. -/
def accessor (e : Element) (part : Text) : Value :=
  let found := (Text.split '|' (part.drop 1)).findSome? fun name =>
    (access e (Text.trim name)).filter fun t => !t.isEmpty
  match found with
  | some t => .text t
  | none => .null

/-- A part without slashes cut before each `@`. -/
def cutAtMarks : Text → List Text
  | [] => [[]]
  | c :: rest =>
    match cutAtMarks rest with
    | [] => [[c]]
    | first :: others => if c = '@' then [] :: (c :: first) :: others else (c :: first) :: others

/-- The parts of a path in a document. -/
def documentParts (path : Text) : List Text :=
  ((Text.split '/' path).flatMap cutAtMarks).filter fun p => !p.isEmpty

/-- The elements that steps lead to. -/
def navigateAll : (parts : List Text) → List Element → Run (List Element)
  | [], es => return es
  | part :: rest, es => do navigateAll rest (← es.mapM (navigate · part)).flatten

/-- The results at the end of a path in a document. -/
def document (e : Element) (path : Text) : Run (List Value) := do
  let parts := documentParts path
  let found ← navigateAll parts [e]
  match parts.getLast? with
  | some ('@' :: part) => return found.map (accessor · ('@' :: part))
  | _ => return found.map .element

end PageQuery.Path
