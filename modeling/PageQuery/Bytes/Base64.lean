import PageQuery.Bytes.Utf8

namespace PageQuery.Base64

/-!
# Base 64

* `encode bs`: four characters for every three bytes, filled up with `=`;
* `decode t`: the bytes of a text in which nothing but the code and its padding occurs;
* `decodeLoose t`: the bytes of a text in which other characters do not count.
-/

/-- The character for six bits. -/
def encodeSextet (n : Nat) : Char :=
  if n < 26 then Char.ofNat (65 + n)
  else if n < 52 then Char.ofNat (71 + n)
  else if n < 62 then Char.ofNat (n - 4)
  else if n = 62 then '+'
  else '/'

/-- The six bits of a character. -/
def sextet? (c : Char) : Option Nat :=
  if c.isUpper then some (c.toNat - 65)
  else if c.isLower then some (c.toNat - 71)
  else if c.isDigit then some (c.toNat + 4)
  else if c == '+' then some 62
  else if c == '/' then some 63
  else none

/-- The code of bytes. -/
def encode : Bytes → Text
  | [] => []
  | [a] =>
    let n := a.toNat
    [encodeSextet (n / 4), encodeSextet (n % 4 * 16), '=', '=']
  | [a, b] =>
    let n := a.toNat * 256 + b.toNat
    [encodeSextet (n / 1024), encodeSextet (n / 16 % 64), encodeSextet (n % 16 * 4), '=']
  | a :: b :: c :: rest =>
    let n := (a.toNat * 256 + b.toNat) * 256 + c.toNat
    encodeSextet (n / 262144) :: encodeSextet (n / 4096 % 64) :: encodeSextet (n / 64 % 64) ::
      encodeSextet (n % 64) :: encode rest

/-- Why a text is not the code of bytes. -/
inductive Error where
  | notAscii
  | leadingPadding
  | dataAfterPadding
  | foreignCharacter
  | brokenPadding
  /-- One character is left over; `count` of them were read. -/
  | oneLeft (count : Nat)
  | missingPadding
  deriving Repr, DecidableEq

/-- The error in words. -/
def Error.message : Error → Text
  | .notAscii => "string argument should contain only ASCII characters"
  | .leadingPadding => "Leading padding not allowed"
  | .dataAfterPadding => "Excess data after padding"
  | .foreignCharacter => "Only base64 data is allowed"
  | .brokenPadding => "Discontinuous padding not allowed"
  | .oneLeft n =>
    "Invalid base64-encoded string: number of data characters (" ++ Text.ofNat n ++
      ") cannot be 1 more than a multiple of 4"
  | .missingPadding => "Incorrect padding"

/-- The bytes of sextets, whole bytes only. -/
def gather : List Nat → Bytes
  | a :: b :: c :: d :: rest =>
    UInt8.ofNat (a * 4 + b / 16) :: UInt8.ofNat (b % 16 * 16 + c / 4) ::
      UInt8.ofNat (c % 4 * 64 + d) :: gather rest
  | [a, b, c] => [UInt8.ofNat (a * 4 + b / 16), UInt8.ofNat (b % 16 * 16 + c / 4)]
  | [a, b] => [UInt8.ofNat (a * 4 + b / 16)]
  | _ => []

/-- The sextets of a text after `count` of them and `pads` signs of padding, which may only complete
    a group of four and end the text. -/
def sextets (count pads : Nat) : Text → Except Error (List Nat)
  | [] =>
    if count % 4 = 0 then .ok []
    else if count % 4 = 1 then .error (.oneLeft count)
    else .error .missingPadding
  | c :: rest =>
    if c == '=' then
      if 2 ≤ count % 4 && 4 ≤ count % 4 + (pads + 1) then
        if rest.isEmpty then .ok [] else .error .dataAfterPadding
      else sextets count (pads + 1) rest
    else match sextet? c with
      | none => .error .foreignCharacter
      | some n =>
        if 0 < pads then .error .brokenPadding
        else do return n :: (← sextets (count + 1) 0 rest)

/-- The bytes of a text. -/
def decode (t : Text) : Except Error Bytes :=
  if t.any (128 ≤ ·.toNat) then .error .notAscii
  else if t.head? == some '=' then .error .leadingPadding
  else (sextets 0 0 t).map gather

/-- The sextets of a text after `count` of them and `pads` signs of padding, up to the padding that
    completes a group of four. Other characters do not count. -/
def sextetsLoose (count pads : Nat) : Text → Except Error (List Nat)
  | [] =>
    if count % 4 = 0 then .ok []
    else if count % 4 = 1 then .error (.oneLeft count)
    else .error .missingPadding
  | c :: rest =>
    if c == '=' then
      if 2 ≤ count % 4 then
        if 4 ≤ count % 4 + (pads + 1) then .ok [] else sextetsLoose count (pads + 1) rest
      else sextetsLoose count pads rest
    else match sextet? c with
      | none => sextetsLoose count pads rest
      | some n => do return n :: (← sextetsLoose (count + 1) 0 rest)

/-- The bytes of a text, whatever stands between the characters of the code. -/
def decodeLoose (t : Text) : Except Error Bytes := (sextetsLoose 0 0 t).map gather

end PageQuery.Base64
