import PageQuery.Text.Basic

namespace PageQuery

/-- A sequence of bytes. -/
abbrev Bytes := List UInt8

namespace Utf8

/-!
# The byte form of texts

* `encode t`: the bytes of a text;
* `decode bs`: the text of bytes, with faults marked where they occur;
* `decodeReplacing`, `decodeSkipping`, `decodeStrict`: three ways of dealing with faults.
-/

/-- The bytes of a character. -/
def encodeChar (c : Char) : Bytes :=
  let n := c.toNat
  let tail (unit : Nat) : UInt8 := UInt8.ofNat (0x80 + n / unit % 64)
  if n < 0x80 then [UInt8.ofNat n]
  else if n < 0x800 then [UInt8.ofNat (0xC0 + n / 64), tail 1]
  else if n < 0x10000 then [UInt8.ofNat (0xE0 + n / 4096), tail 64, tail 1]
  else [UInt8.ofNat (0xF0 + n / 262144), tail 4096, tail 64, tail 1]

/-- The bytes of a text. -/
def encode (t : Text) : Bytes := t.flatMap encodeChar

/-- Why bytes are not those of a character. -/
inductive Fault where
  | start
  | continuation
  | ending
  deriving Repr, DecidableEq

/-- A character, or a fault and the bytes that it takes up. -/
inductive Piece where
  | char (c : Char) (size : Nat)
  | bad (f : Fault) (first : UInt8) (size : Nat)
  deriving Repr, DecidableEq

/-- How many bytes a unit takes up. -/
def Piece.size : Piece → Nat
  | .char _ n => n
  | .bad _ _ n => n

/-- For a first byte, how many bytes follow, the first part of the code point, and the bounds of the
    second byte. -/
def shape? (b : Nat) : Option (Nat × Nat × Nat × Nat) :=
  if 0xC2 ≤ b && b < 0xE0 then some (1, b - 0xC0, 0x80, 0xBF)
  else if b == 0xE0 then some (2, 0, 0xA0, 0xBF)
  else if b == 0xED then some (2, 13, 0x80, 0x9F)
  else if 0xE1 ≤ b && b < 0xF0 then some (2, b - 0xE0, 0x80, 0xBF)
  else if b == 0xF0 then some (3, 0, 0x90, 0xBF)
  else if b == 0xF4 then some (3, 4, 0x80, 0x8F)
  else if 0xF1 ≤ b && b < 0xF4 then some (3, b - 0xF0, 0x80, 0xBF)
  else none

/-- The rest of a character of which `size` bytes have been read as `acc`, and `more` are to come,
    the next of which lies between the bounds. -/
def continued (first : UInt8) (size acc : Nat) : (more lo hi : Nat) → Bytes → Piece
  | 0, _, _, _ => .char (Char.ofNat acc) size
  | _ + 1, _, _, [] => .bad .ending first size
  | more + 1, lo, hi, b :: rest =>
    if lo ≤ b.toNat && b.toNat ≤ hi then
      continued first (size + 1) (acc * 64 + (b.toNat - 0x80)) more 0x80 0xBF rest
    else .bad .continuation first size

/-- The unit at the start of bytes of which the first is given. -/
def unit (b : UInt8) (rest : Bytes) : Piece :=
  if b.toNat < 0x80 then .char (Char.ofNat b.toNat) 1
  else match shape? b.toNat with
    | none => .bad .start b 1
    | some (more, acc, lo, hi) => continued b 1 acc more lo hi rest

/-- The units of bytes of which the first `skip` have been read already. -/
def unitsFrom : (skip : Nat) → Bytes → List Piece
  | _, [] => []
  | skip + 1, _ :: rest => unitsFrom skip rest
  | 0, b :: rest =>
    let u := unit b rest
    u :: unitsFrom (u.size - 1) rest

/-- The units of bytes. -/
def units (bs : Bytes) : List Piece := unitsFrom 0 bs

/-- The text of bytes, in which every fault is one replacement character. -/
def decodeReplacing (bs : Bytes) : Text :=
  (units bs).map fun
    | .char c _ => c
    | .bad .. => Char.ofNat 0xFFFD

/-- The text of bytes without the faulty ones. -/
def decodeSkipping (bs : Bytes) : Text :=
  (units bs).filterMap fun
    | .char c _ => some c
    | .bad .. => none

/-- A fault, the byte with which it begins, and the positions from which and up to which it goes. -/
structure Error where
  fault : Fault
  first : UInt8
  start : Nat
  stop : Nat
  deriving Repr, DecidableEq

/-- The text of units that begin at a position, unless one is faulty. -/
def strict : (position : Nat) → List Piece → Except Error Text
  | _, [] => .ok []
  | n, .char c size :: rest => do return c :: (← strict (n + size) rest)
  | n, .bad f b size :: _ => .error ⟨f, b, n, n + size⟩

/-- The text of bytes that have no fault. -/
def decodeStrict (bs : Bytes) : Except Error Text := strict 0 (units bs)

/-- The fault in words. -/
def Fault.message : Fault → Text
  | .start => "invalid start byte"
  | .continuation => "invalid continuation byte"
  | .ending => "unexpected end of data"

/-- The error in words. -/
def Error.message (e : Error) : Text :=
  let place : Text :=
    if e.stop = e.start + 1 then
      "byte 0x" ++ Text.padLeft 2 '0' (Text.digits 16 e.first.toNat) ++ " in position " ++
        Text.ofNat e.start
    else "bytes in position " ++ Text.ofNat e.start ++ '-' :: Text.ofNat (e.stop - 1)
  "'utf-8' codec can't decode " ++ place ++ ": " ++ e.fault.message

end Utf8

end PageQuery
