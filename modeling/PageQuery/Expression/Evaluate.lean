import PageQuery.Expression.Grammar
import PageQuery.Environment
import PageQuery.Value.Render

namespace PageQuery.Expression

/-!
# The value of an expression

* `Expr.evaluate env e`: operands from the left to the right, each operator after its operands. `+`
  adds numbers and joins all else as text; the other operators need numbers, which texts of digits
  are, too;
* `evaluate env t`: the value of the expression that a text holds.
-/

/-- Why an evaluation has no value. -/
inductive Failure where
  /-- The text is no expression, or the operands do not fit. -/
  | wrong (e : Error)
  /-- A number has too many digits to be read or written. -/
  | numeral (e : Numeral.Error)
  /-- A text in double quotes is not JSON. -/
  | literal (e : Json.Error)
  /-- A list or map that is to be joined to a text has no JSON form. -/
  | writing (e : Json.WriteError)
  deriving Repr, DecidableEq

/-- The failure in words. -/
def Failure.message : Failure → Text
  | .wrong e => e.message
  | .numeral e => e.message
  | .literal e => e.message
  | .writing e => e.message

/-- A failure to write a value as text. -/
def Failure.ofRender : RenderError → Failure
  | .numeral e => .numeral e
  | .writing e => .writing e

/-- The text of a value. -/
def rendered (v : Value) : Except Failure Text := v.render.mapError .ofRender

/-- The number that a value is or, as a text, holds. Truth values are no numbers. -/
def quantity? : Value → Option Quantity
  | .scalar (.int n) => some (.whole n)
  | .scalar (.float x) => some (.real x)
  | .scalar (.text t) => Quantity.ofText? t
  | _ => none

/-- A number as a value. -/
def ofQuantity : Quantity → Value
  | .whole n => .int n
  | .real x => .float x

/-- The value of a numeral: with a point a double, else a whole number. -/
def numeralValue (t : Text) : Except Failure Value :=
  if t.contains '.' then .ok (.float ((Numeral.readFloat? t).getD 0.0))
  else ((Numeral.readInt t).map Value.int).mapError .numeral

/-- The value of a quoted text: in double quotes a JSON text; in single quotes the text itself, a
    backslash in front of a single quote left out. -/
def literalValue (t : Text) : Except Failure Value :=
  match t with
  | '\'' :: rest => .ok (.text (Text.replace "\\'" "'" rest.dropLast))
  | _ => (Json.read t).mapError .literal

/-- The result of an operation on numbers. -/
def arithmetic (result : Except ArithmeticError Quantity) : Except Failure Value :=
  (result.map ofQuantity).mapError fun e => .wrong (.arithmetic e)

/-- The operation of an operator on two numbers. -/
def compute : Operator → Quantity → Quantity → Except ArithmeticError Quantity
  | .plus => Quantity.add
  | .minus => Quantity.subtract
  | .times => Quantity.multiply
  | .divide => Quantity.divide
  | .modulo => Quantity.modulo

/-- An operator applied to two values. -/
def apply (o : Operator) (left right : Value) : Except Failure Value :=
  match quantity? left, quantity? right with
  | some a, some b => arithmetic (compute o a b)
  | _, _ =>
    match o with
    | .plus => do
      let s ← rendered left
      let t ← rendered right
      return .text (s ++ t)
    | o => do
      let s ← left.shown.mapError .numeral
      let t ← right.shown.mapError .numeral
      throw (.wrong (.needsNumbers o s t))

/-- The value of an expression in an environment. -/
def Expr.evaluate (env : Environment) : Expr → Except Failure Value
  | .numeral t => numeralValue t
  | .literal t => literalValue t
  | .variable name =>
    match Ordered.get? env name with
    | some v => .ok v
    | none => .error (.wrong (.unknownVariable name))
  | .negated e => do
    match quantity? (← e.evaluate env) with
    | some q => return ofQuantity q.negate
    | none => throw (.wrong .negatedNonNumber)
  | .binary o l r => do
    let left ← l.evaluate env
    let right ← r.evaluate env
    apply o left right
  | .broken e => .error (.wrong e)
  | .stopped e fault => do
    let _ ← e.evaluate env
    throw (.wrong fault)

/-- The value of the expression that a text holds. -/
def evaluate (env : Environment) (t : Text) : Except Failure Value :=
  (Expr.ofText t).evaluate env

end PageQuery.Expression
