import PageQuery.Text.Basic
import PageQuery.Number.Binary64

namespace PageQuery

/-!
# Decimals

Finite decimals `digits · 10 ^ exponent`, and the text of a double.

* `Decimal.toFloat`: the nearest double;
* `Decimal.shortest`: the decimal of fewest digits that reads back as a given double, the nearest
  of them;
* `Decimal.text`: how a double is written.
-/

/-- The decimal `digits · 10 ^ exponent`. -/
structure Decimal where
  digits : Nat
  exponent : Int
  deriving Repr, DecidableEq

namespace Decimal

/-- The double nearest to a decimal with the given sign. Beyond four hundred places on either side
    the answer is infinity or zero, and no power is computed. -/
def toFloat (negative : Bool) (d : Decimal) : Float :=
  let places : Int := (Nat.toDigits 10 d.digits).length + d.exponent
  if d.digits = 0 then Binary64.pack negative 0 0
  else if 400 < places then Binary64.ofRatio negative (twoTo 1100) 1
  else if places < -400 then Binary64.pack negative 0 0
  else match d.exponent with
    | .ofNat k => Binary64.ofRatio negative (d.digits * tenTo k) 1
    | .negSucc k => Binary64.ofRatio negative d.digits (tenTo (k + 1))

/-- The fraction `m · 2 ^ e` as numerator and denominator. -/
def fraction (m : Nat) (e : Int) : Nat × Nat :=
  match e with
  | .ofNat k => (m * twoTo k, 1)
  | .negSucc k => (m, twoTo (k + 1))

/-- The largest `k` with `10 ^ k ≤ num / den`, searched downwards from `start`. -/
def magnitude (num den : Nat) : Nat → Int → Int
  | 0, k => k
  | steps + 1, k =>
    let fits : Bool := match k with
      | .ofNat j => den * tenTo j ≤ num
      | .negSucc j => den ≤ num * tenTo (j + 1)
    if fits then k else magnitude num den steps (k - 1)

/-- The two neighbours of `num / den` among the multiples of `10 ^ k`, the nearer first; of two
    equally near ones the even multiple is first. -/
def neighbours (num den : Nat) (k : Int) : Nat × Nat :=
  let (a, b) := match k with
    | .ofNat j => (num, den * tenTo j)
    | .negSucc j => (num * tenTo (j + 1), den)
  let q := a / b
  let r := a % b
  if 2 * r < b || (2 * r = b && q % 2 = 0) then (q, q + 1) else (q + 1, q)

/-- Searches the grids of `17 - steps`, …, `17` digits for a decimal that reads back as `x`. -/
def search (x : Float) (num den : Nat) (top : Int) : (steps : Nat) → Decimal
  | 0 => ⟨(neighbours num den (top - 16)).1, top - 16⟩
  | steps + 1 =>
    let k := top - (16 - steps - 1 : Nat)
    let (near, far) := neighbours num den k
    if (toFloat false ⟨near, k⟩) == x then ⟨near, k⟩
    else if (toFloat false ⟨far, k⟩) == x then ⟨far, k⟩
    else search x num den top steps

/-- The decimal of fewest digits that reads back as the size of the finite double `x`; of two such
    decimals the one nearer to `x`. -/
def shortest (x : Float) : Decimal :=
  let (_, m, e) := Binary64.parts x
  if m = 0 then ⟨0, 0⟩
  else
    let (num, den) := fraction m e
    let top := magnitude num den 700 310
    search (Binary64.pack false m e) num den top 16

/-- Digits of a decimal without zeros at the end, and the power of ten of their first place. -/
def leading (d : Decimal) : Text × Int :=
  let ds := Text.ofNat d.digits
  (Text.dropEndWhile (· == '0') ds, d.exponent + ds.length - 1)

/-- The text of a finite size: positional from one ten-thousandth up to below ten to the sixteenth,
    always with a point; else one digit before the point and an exponent of at least two digits. -/
def sizeText (d : Decimal) : Text :=
  if d.digits = 0 then "0.0"
  else
    let (ds, power) := leading d
    if -4 ≤ power && power < 16 then
      match power with
      | .ofNat k =>
        let before := ds.take (k + 1)
        let after := ds.drop (k + 1)
        before ++ List.replicate (k + 1 - before.length) '0' ++ ['.'] ++
          (if after.isEmpty then ['0'] else after)
      | .negSucc k => "0." ++ List.replicate k '0' ++ ds
    else
      let mantissa := match ds with
        | first :: second :: rest => first :: '.' :: second :: rest
        | _ => ds
      let sign : Text := if power < 0 then "e-" else "e+"
      mantissa ++ sign ++ Text.padLeft 2 '0' (Text.ofNat power.natAbs)

/-- How a double is written: the fewest digits that read back, and words for what is no number. -/
def text (x : Float) : Text :=
  if x.isNaN then "nan"
  else
    let size : Text := if x.isInf then "inf" else sizeText (shortest x)
    if Binary64.isNegative x then '-' :: size else size

end Decimal

end PageQuery
