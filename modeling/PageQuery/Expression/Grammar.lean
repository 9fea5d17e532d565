import PageQuery.Expression.Token

namespace PageQuery.Expression

/-!
# Expressions

    sum     := product (("+" | "-") product)*
    product := operand (("*" | "/" | "%") operand)*
    operand := "-" operand | numeral | literal | name | "(" sum ")"

* `Expr`: the trees of this grammar. What stands before a fault of the text is a tree too, since it
  is evaluated, and may fail, before the fault is met;
* `Expr.ofTokens`: the tree of a list of tokens.
-/

/-- An expression. -/
inductive Expr where
  | numeral (t : Text)
  | literal (t : Text)
  | variable (name : Text)
  | negated (e : Expr)
  | binary (o : Operator) (left right : Expr)
  /-- A place at which the text stops being an expression. -/
  | broken (e : Error)
  /-- An expression with a fault right after it. -/
  | stopped (e : Expr) (fault : Error)
  deriving Repr, DecidableEq

namespace Expr

/-- Whether an operator joins the products of a sum. -/
def isAdditive : Operator → Bool
  | .plus => true
  | .minus => true
  | _ => false

/-- Whether an operator joins the operands of a product. -/
def isMultiplicative (o : Operator) : Bool := !isAdditive o

/-- A reader of the expression at the start of a list of tokens. -/
abbrev Reader := List Token → Expr × List Token

/-- An expression that goes on, as long as an accepted operator follows, with what `operand` reads;
    operators group to the left. -/
def chainFrom (accepted : Operator → Bool) (operand : Reader) : (fuel : Nat) → Expr → Reader
  | 0, left, ts => (left, ts)
  | fuel + 1, left, .operator o :: rest =>
    if accepted o then
      let (right, rest) := operand rest
      chainFrom accepted operand fuel (.binary o left right) rest
    else (left, .operator o :: rest)
  | _ + 1, left, ts => (left, ts)

/-- One or more operands with accepted operators between them. -/
def chain (accepted : Operator → Bool) (operand : Reader) (fuel : Nat) : Reader := fun ts =>
  let (left, rest) := operand ts
  chainFrom accepted operand fuel left rest

/-- A sum of products of operands. -/
def sum (operand : Reader) (fuel : Nat) : Reader :=
  chain isAdditive (chain isMultiplicative operand fuel) fuel

/-- An expression in parentheses after the opening one. -/
def closed : Expr × List Token → Expr × List Token
  | (e, .closing :: rest) => (e, rest)
  | (e, []) => (.stopped e .unexpectedEnd, [])
  | (e, _ :: _) => (.stopped e .missingClosing, [])

/-- An operand. Every level of recursion takes a token. -/
def operand : (fuel : Nat) → Reader
  | 0, _ => (.broken .unexpectedEnd, [])
  | _ + 1, [] => (.broken .unexpectedEnd, [])
  | fuel + 1, .operator .minus :: rest =>
    let (e, rest) := operand fuel rest
    (.negated e, rest)
  | fuel + 1, .opening :: rest => closed (sum (operand fuel) fuel rest)
  | _ + 1, .numeral t :: rest => (.numeral t, rest)
  | _ + 1, .literal t :: rest => (.literal t, rest)
  | _ + 1, .name t :: rest => (.variable t, rest)
  | _ + 1, t :: _ => (.broken (.unexpectedToken t.text), [])

/-- The expression of a whole list of tokens. -/
def ofTokens (ts : List Token) : Expr :=
  if ts.isEmpty then .broken .empty
  else match sum (operand ts.length) ts.length ts with
    | (e, []) => e
    | (e, t :: _) => .stopped e (.unexpectedToken t.text)

/-- The expression that a text is read as. -/
def ofText (t : Text) : Expr :=
  match tokens t with
  | .ok ts => ofTokens ts
  | .error e => .broken e

end Expr

end PageQuery.Expression
