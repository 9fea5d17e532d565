import PageQuery.Text.Quoted
import PageQuery.Text.Word
import PageQuery.Number.Decimal

namespace PageQuery

/-!
# Numerals in texts

How numbers are read from texts that people wrote: digits of any script, surrounding white space
and single underscores between digits are accepted.

* `Numeral.readInt`: whole numbers;
* `Numeral.readFloat?`: decimals, with exponents and the words for infinity and for no number;
* `Numeral.ofInt`: writing a whole number, which fails beyond `Numeral.maxDigits` digits.
-/

namespace Numeral

/-- The most digits that a numeral read or written may have. -/
def maxDigits : Nat := 4300

/-- Why a text is not read as a whole number, or a number not written. -/
inductive Error
  /-- The text is no numeral. -/
  | malformed (t : Text)
  /-- The numeral to read has more than `maxDigits` digits. -/
  | tooLong (count : Nat)
  /-- The number to write has more than `maxDigits` digits. -/
  | tooLarge
  deriving Repr, DecidableEq

/-- The digits of a decimal text, in ASCII, and white space made a plain space when the text holds
    any character beyond ASCII. -/
def plain (t : Text) : Text :=
  if t.all (·.toNat < 128) then t
  else t.map fun c =>
    match digit? c with
    | some d => Char.ofNat (48 + d)
    | none => if Text.isSpace c then ' ' else c
where
  digit? := Text.digit?

/-- The white space that numerals may have around them once `plain` has been applied. -/
def isPad (c : Char) : Bool := c == ' ' || (9 ≤ c.toNat && c.toNat ≤ 13)

/-- The text without padding at both ends. -/
def unpad (t : Text) : Text := Text.dropEndWhile isPad (t.dropWhile isPad)

/-- A sign at the start of a text, and the rest. -/
def sign : Text → Bool × Text
  | '-' :: rest => (true, rest)
  | '+' :: rest => (false, rest)
  | t => (false, t)

/-- Digits joined by single underscores: the digits alone, if the text is that. -/
def grouped? : Text → Option Text
  | [] => none
  | [c] => if c.isDigit then some [c] else none
  | c :: '_' :: rest => if c.isDigit then (grouped? rest).map (c :: ·) else none
  | c :: rest => if c.isDigit then (grouped? rest).map (c :: ·) else none

/-- The number that decimal digits stand for, after those already read as `acc`. -/
def valueFrom (acc : Nat) (ds : Text) : Nat := ds.foldl (fun n c => 10 * n + (c.toNat - 48)) acc

/-- The number that ASCII digits stand for. -/
def value (ds : Text) : Nat := valueFrom 0 ds

/-- A whole number with an optional sign. -/
def readInt (t : Text) : Except Error Int :=
  let (negative, body) := sign (unpad (plain t))
  match grouped? body with
  | none => .error (.malformed t)
  | some ds =>
    if maxDigits < ds.length then .error (.tooLong ds.length)
    else .ok (if negative then -(value ds : Int) else value ds)

/-- The whole number that a text holds, if it does. -/
def readInt? (t : Text) : Option Int := (readInt t).toOption

/-- The decimal numeral of a whole number. -/
def ofInt (n : Int) : Except Error Text :=
  let t := Text.ofNat n.natAbs
  if maxDigits < t.length then .error .tooLarge else .ok (Text.ofInt n)

/-- Single underscores between two digits removed; nothing if one stands anywhere else. -/
def ungroup? : Text → Option Text
  | [] => some []
  | a :: '_' :: b :: rest =>
    if a.isDigit && b.isDigit then (ungroup? (b :: rest)).map (a :: ·) else none
  | '_' :: _ => none
  | a :: rest => if a == '_' then none else (ungroup? rest).map (a :: ·)

/-- The exponent at the start of a text that is one, and nothing else. -/
def exponent? : Text → Option Int
  | [] => some 0
  | c :: rest =>
    if c == 'e' || c == 'E' then
      let (negative, ds) := sign rest
      if ds.isEmpty || !ds.all Char.isDigit then none
      else
        -- Six digits of exponent decide already; more are cut to keep the power small.
        let n := value ((ds.dropWhile (· == '0')).take 7)
        some (if negative then -(n : Int) else n)
    else none

/-- A decimal without sign: digits, an optional fraction, an optional exponent. -/
def decimal? (t : Text) : Option Decimal :=
  let before := t.takeWhile Char.isDigit
  let rest := t.dropWhile Char.isDigit
  let (after, rest) := match rest with
    | '.' :: r => (r.takeWhile Char.isDigit, r.dropWhile Char.isDigit)
    | r => ([], r)
  if before.isEmpty && after.isEmpty then none
  else (exponent? rest).map fun e => ⟨value (before ++ after), e - after.length⟩

/-- A double, from a decimal or from the words for infinity and for no number. -/
def readFloat? (t : Text) : Option Float := do
  let body ← ungroup? (unpad (plain t))
  let (negative, body) := sign body
  let low := body.map Char.toLower
  if low == "inf" || low == "infinity" then
    some (if negative then -1.0 / 0.0 else 1.0 / 0.0)
  else if low == "nan" then some (0.0 / 0.0)
  else (decimal? body).map (Decimal.toFloat negative)

/-- What is wrong with a numeral, in words. -/
def Error.message : Error → Text
  | .malformed t => "invalid literal for int() with base 10: " ++ (Text.quoted t).take 200
  | .tooLong n =>
    "Exceeds the limit (4300 digits) for integer string conversion: value has " ++ Text.ofNat n ++
      " digits; use sys.set_int_max_str_digits() to increase the limit"
  | .tooLarge =>
    "Exceeds the limit (4300 digits) for integer string conversion; " ++
      ("use sys.set_int_max_str_digits() to increase the limit" : Text)

end Numeral

end PageQuery
