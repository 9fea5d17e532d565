import PageQuery.Number.Numeral

namespace PageQuery

/-!
# Arithmetic

* `Quantity`: whole numbers of any size, and doubles;
* `Quantity.add`, `Quantity.subtract`, `Quantity.multiply`, `Quantity.divide`, `Quantity.modulo`:
  whole numbers are added, subtracted and multiplied exactly; a quotient is always a double;
* `Quantity.ofText?`: the number that a text holds.
-/

/-- A number. -/
inductive Quantity where
  | whole (n : Int)
  | real (x : Float)
  deriving Repr

/-- Why numbers have no sum, difference, product, quotient or remainder. -/
inductive ArithmeticError where
  /-- A whole number is beyond the largest double. -/
  | wholeTooLarge
  /-- The quotient of two whole numbers is beyond the largest double. -/
  | quotientTooLarge
  | divisionByZero
  | moduloByZero
  deriving Repr, DecidableEq

/-- What is wrong with the numbers. -/
def ArithmeticError.message : ArithmeticError → Text
  | .wholeTooLarge => "int too large to convert to float"
  | .quotientTooLarge => "integer division result too large for a float"
  | .divisionByZero => "division by zero"
  | .moduloByZero => "modulo by zero"

namespace Quantity

/-- The number that a text holds, surrounding white space aside; a whole number if possible. -/
def ofText? (t : Text) : Option Quantity :=
  let t := Text.trim t
  match Numeral.readInt? t with
  | some n => some (.whole n)
  | none => (Numeral.readFloat? t).map .real

/-- The double nearest to a number. -/
def toFloat : Quantity → Except ArithmeticError Float
  | .real x => .ok x
  | .whole n =>
    match Binary64.ofInt? n with
    | some x => .ok x
    | none => .error .wholeTooLarge

/-- Whether a number is zero. -/
def isZero : Quantity → Bool
  | .whole n => n == 0
  | .real x => x == 0.0

/-- An operation that is exact on two whole numbers and else works on doubles. -/
def combine (exact : Int → Int → Int) (approximate : Float → Float → Float) (a b : Quantity) :
    Except ArithmeticError Quantity :=
  match a, b with
  | .whole m, .whole n => .ok (.whole (exact m n))
  | a, b => do
    let x ← a.toFloat
    let y ← b.toFloat
    return .real (approximate x y)

/-- The sum. -/
def add : Quantity → Quantity → Except ArithmeticError Quantity := combine (· + ·) (· + ·)

/-- The difference. -/
def subtract : Quantity → Quantity → Except ArithmeticError Quantity := combine (· - ·) (· - ·)

/-- The product. -/
def multiply : Quantity → Quantity → Except ArithmeticError Quantity := combine (· * ·) (· * ·)

/-- The double nearest to the quotient of two whole numbers, the second of which is not zero. -/
def quotient (m n : Int) : Except ArithmeticError Quantity :=
  let x := Binary64.ofRatio ((m < 0) != (n < 0)) m.natAbs n.natAbs
  if x.isInf then .error .quotientTooLarge else .ok (.real x)

/-- The quotient. -/
def divide (a b : Quantity) : Except ArithmeticError Quantity :=
  if b.isZero then .error .divisionByZero
  else match a, b with
    | .whole m, .whole n => quotient m n
    | a, b => do
      let x ← a.toFloat
      let y ← b.toFloat
      return .real (x / y)

/-- The remainder, which has the sign of the divisor. -/
def modulo (a b : Quantity) : Except ArithmeticError Quantity :=
  if b.isZero then .error .moduloByZero else combine Int.fmod Binary64.remainder a b

/-- The number with its sign changed. -/
def negate : Quantity → Quantity
  | .whole n => .whole (-n)
  | .real x => .real (-x)

end Quantity

end PageQuery
