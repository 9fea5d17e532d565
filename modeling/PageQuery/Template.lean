import PageQuery.Expression.Evaluate

namespace PageQuery

/-!
# Templates

Texts with placeholders `${…}`, which stand for variables or expressions.

* `Template.pieces`: literal characters and placeholders, from the left;
* `Template.resolve`: the text in which the placeholders are replaced. One that cannot be evaluated
  stays as it is;
* `Template.unresolved`: the placeholders that stay, and why;
* `Template.names`: the names that occur in placeholders.
-/

namespace Template

/-- A piece of a template. -/
inductive Piece where
  | plain (c : Char)
  /-- A placeholder with the text between its braces. -/
  | hole (body : Text)
  deriving Repr, DecidableEq

/-- The text of a piece. -/
def Piece.text : Piece → Text
  | .plain c => [c]
  | .hole body => '$' :: '{' :: body ++ ['}']

/-- The body of the placeholder at the start of a text: it is not empty, and the first closing brace
    ends it. -/
def hole? : Text → Option Text
  | '$' :: '{' :: rest =>
    match rest.takeWhile (· != '}'), rest.dropWhile (· != '}') with
    | [], _ => none
    | _, [] => none
    | body, _ => some body
  | _ => none

/-- The pieces of a text of which `skip` characters belong to a placeholder read already. -/
def piecesFrom : (skip : Nat) → Text → List Piece
  | _, [] => []
  | skip + 1, _ :: rest => piecesFrom skip rest
  | 0, c :: rest =>
    match hole? (c :: rest) with
    | some body => .hole body :: piecesFrom (body.length + 2) rest
    | none => .plain c :: piecesFrom 0 rest

/-- The pieces of a template. -/
def pieces (t : Text) : List Piece := piecesFrom 0 t

/-- Whether a failed evaluation leaves its placeholder as it is; only a map with a key that JSON does
    not have stops the whole template. -/
def isForgiven : Expression.Failure → Bool
  | .writing (.key _) => false
  | .writing (.value _) => false
  | _ => true

/-- The text of the expression in a placeholder. -/
def fillExpression (env : Environment) (body : Text) : Except Expression.Failure Text := do
  Expression.rendered (← Expression.evaluate env (Text.trim body))

/-- What a placeholder is replaced by. The text of a variable that it names is taken as it is; else
    it is an expression. -/
def fill (env : Environment) (body : Text) : Except Expression.Failure Text :=
  match Ordered.get? env (Text.trim body) with
  | some v => Expression.rendered v
  | none =>
    match fillExpression env body with
    | .ok t => .ok t
    | .error e => if isForgiven e then .ok (Piece.hole body).text else .error e

/-- What a piece is replaced by. -/
def fillPiece (env : Environment) : Piece → Except Expression.Failure Text
  | .plain c => .ok [c]
  | .hole body => fill env body

/-- The text of a template in an environment. -/
def resolve (env : Environment) (t : Text) : Except Expression.Failure Text := do
  return ((← (pieces t).mapM (fillPiece env))).flatten

/-- Why a placeholder stays as it is, if it does. -/
def complaint? (env : Environment) : Piece → Option (Text × Expression.Failure)
  | .plain _ => none
  | .hole body =>
    if Ordered.contains env (Text.trim body) then none
    else match fillExpression env body with
      | .ok _ => none
      | .error e => some ((Piece.hole body).text, e)

/-- The placeholders among pieces that stay as they are, up to one that stops the template, with the
    reasons. -/
def leftIn (env : Environment) : List Piece → List (Text × Expression.Failure)
  | [] => []
  | p :: rest =>
    match fillPiece env p with
    | .error _ => []
    | .ok _ => (complaint? env p).toList ++ leftIn env rest

/-- The placeholders of a template that stay as they are, with the reasons. -/
def unresolved (env : Environment) (t : Text) : List (Text × Expression.Failure) := leftIn env (pieces t)

/-- Whether a name may go on with `c`, when names are listed. -/
def isNamePart (c : Char) : Bool := c.isAlphanum || c == '_'

/-- The names in a text: the longest stretches of letters, digits and underscores, less the digits at
    the front of each. -/
def namesIn (t : Text) : List Text :=
  ((Text.pieces (fun c => !isNamePart c) t).map (·.dropWhile Char.isDigit)).filter (! ·.isEmpty)

/-- The words that are no names. -/
def reserved : List Text := ["true", "false", "null"]

/-- The names in the placeholders of a template, each once and in order. -/
def names (t : Text) : List Text :=
  let found := (pieces t).flatMap fun
    | .plain _ => []
    | .hole body => namesIn body
  Text.sort (found.filter (! reserved.contains ·)).eraseDups

end Template

end PageQuery
