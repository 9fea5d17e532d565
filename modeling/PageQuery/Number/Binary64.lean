namespace PageQuery

/-!
# Binary floating-point numbers

The double-precision format seen as exact fractions.

* `twoTo`, `tenTo`: the powers of the bases in which numbers are stored and written;
* `Binary64.ofRatio`: the double nearest to a quotient of natural numbers, ties to even;
* `Binary64.parts`: sign, whole number and power of two of a finite double;
* `Binary64.whole?`: the integer that a double is equal to;
* `Binary64.remainder`: the remainder that takes the sign of the divisor.
-/

/-- A power of two. -/
def twoTo (k : Nat) : Nat := Nat.pow 2 k

/-- A power of ten. -/
def tenTo (k : Nat) : Nat := Nat.pow 10 k

namespace Binary64

/-- The quotient rounded to the nearest whole number, a half going to the even neighbour. -/
def roundDiv (num den : Nat) : Nat :=
  let q := num / den
  let twice := 2 * (num % den)
  if twice < den then q else if den < twice then q + 1 else if q % 2 = 0 then q else q + 1

/-- `num / den` divided by `2 ^ e`, rounded to the nearest whole number. -/
def roundScaled (num den : Nat) (e : Int) : Nat :=
  match e with
  | .ofNat k => roundDiv num (den * twoTo k)
  | .negSucc k => roundDiv (num * twoTo (k + 1)) den

/-- The double with the given sign, whole number below `2 ^ 53` and power of two. -/
def pack (negative : Bool) (m : Nat) (e : Int) : Float :=
  let sign : Nat := if negative then twoTo 63 else 0
  let body : Nat :=
    if m < twoTo 52 then m
    else if 971 < e then 2047 * twoTo 52
    else (e + 1075).toNat * twoTo 52 + (m - twoTo 52)
  Float.ofBits (UInt64.ofNat (sign + body))

/-- The double nearest to `num / den`, with the given sign; too large a quotient gives infinity. -/
def ofRatio (negative : Bool) (num den : Nat) : Float :=
  if num = 0 || den = 0 then pack negative 0 0
  else
    let guess : Int := (num.log2 : Int) - (den.log2 : Int) - 52
    -- The quotient lies in `[2 ^ (guess + 51), 2 ^ (guess + 53))`, so one step down may be needed.
    let short : Bool := match guess with
      | .ofNat k => num < den * twoTo k * twoTo 52
      | .negSucc k => num * twoTo (k + 1) < den * twoTo 52
    let e := max (if short then guess - 1 else guess) (-1074)
    let m := roundScaled num den e
    if m = twoTo 53 then pack negative (twoTo 52) (e + 1) else pack negative m e

/-- The double nearest to an integer, or nothing when that is beyond the largest double. -/
def ofInt? (n : Int) : Option Float :=
  let x := ofRatio (n < 0) n.natAbs 1
  if x.isInf then none else some x

/-- Sign, whole number and power of two of a finite double. -/
def parts (x : Float) : Bool × Nat × Int :=
  let bits : Nat := x.toBits.toNat
  let field : Nat := bits / twoTo 52 % 2048
  let low : Nat := bits % twoTo 52
  (twoTo 63 ≤ bits, if field = 0 then (low, -1074) else (low + twoTo 52, (field : Int) - 1075))

/-- Whether the sign bit is set. -/
def isNegative (x : Float) : Bool := (parts x).1

/-- Whether a double is a number and not infinite. -/
def isFinite (x : Float) : Bool := !(x.isNaN || x.isInf)

/-- The integer that a finite double is equal to, if it is whole. -/
def whole? (x : Float) : Option Int :=
  if !isFinite x then none
  else
    let (negative, m, e) := parts x
    let size? : Option Nat := match e with
      | .ofNat k => some (m * twoTo k)
      | .negSucc k => if m % twoTo (k + 1) = 0 then some (m / twoTo (k + 1)) else none
    size?.map fun n => if negative then -(n : Int) else n

/-- The integer part of a finite double. -/
def truncate (x : Float) : Int :=
  let (negative, m, e) := parts x
  let n : Nat := match e with
    | .ofNat k => m * twoTo k
    | .negSucc k => m / twoTo (k + 1)
  if negative then -(n : Int) else n

/-- The remainder of the size of `x` by the size of the non-zero `y`, exactly, with the sign of
    `x`. -/
def truncatedRemainder (x y : Float) : Float :=
  if x.isNaN || y.isNaN || x.isInf then 0.0 / 0.0
  else if y.isInf then x
  else
    let (negative, m, e) := parts x
    let (_, m', e') := parts y
    let low := min e e'
    let a := m * twoTo (e - low).toNat
    let b := m' * twoTo (e' - low).toNat
    let r := a % b
    match low with
    | .ofNat k => ofRatio negative (r * twoTo k) 1
    | .negSucc k => ofRatio negative r (twoTo (k + 1))

/-- The remainder of `x` by the non-zero `y` that has the sign of `y`. -/
def remainder (x y : Float) : Float :=
  let r := truncatedRemainder x y
  if r == 0.0 then pack (isNegative y) 0 0
  else if (y < 0.0) != (r < 0.0) then r + y
  else r

end Binary64

end PageQuery
