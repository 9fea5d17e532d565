import PageQuery.Bytes.Utf8
import PageQuery.Ordered

namespace PageQuery.Url

/-!
# Query strings

* `decode`, `encode`: one part of a query string, with percent signs and plus signs;
* `readPairs`, `writePairs`: the names and values of a query string.
-/

/-- The byte that two hexadecimal digits stand for. -/
def byte? (a b : Char) : Option UInt8 := do
  return UInt8.ofNat ((← Text.hexDigit? a) * 16 + (← Text.hexDigit? b))

/-- The bytes that an ASCII text stands for, where percent signs introduce bytes by number. -/
def unpercent : Text → Bytes
  | '%' :: a :: b :: rest =>
    match byte? a b with
    | some x => x :: unpercent rest
    | none => 37 :: unpercent (a :: b :: rest)
  | c :: rest => UInt8.ofNat c.toNat :: unpercent rest
  | [] => []

/-- A text with the bytes in it decoded: `pending` is the ASCII text, backwards, that is to be decoded
    together. -/
def decodeFrom (pending : Text) : Text → Text
  | [] => Utf8.decodeReplacing (unpercent pending.reverse)
  | c :: rest =>
    if c.toNat < 128 then decodeFrom (c :: pending) rest
    else Utf8.decodeReplacing (unpercent pending.reverse) ++ c :: decodeFrom [] rest

/-- A part of a query string as it is meant. -/
def decode (t : Text) : Text := decodeFrom [] (t.map fun c => if c == '+' then ' ' else c)

/-- Whether a byte stands for itself in a query string. -/
def staysInQuery (b : UInt8) : Bool :=
  let c := Char.ofNat b.toNat
  b < 128 && (c.isAlphanum || c == '_' || c == '.' || c == '-' || c == '~')

/-- A byte in a query string. -/
def encodeByte (b : UInt8) : Text :=
  if staysInQuery b then [Char.ofNat b.toNat]
  else if b = 32 then ['+']
  else '%' :: (Text.padLeft 2 '0' (Text.digits 16 b.toNat)).map Char.toUpper

/-- A part of a query string as it is written. -/
def encode (t : Text) : Text := (Utf8.encode t).flatMap encodeByte

/-- The names and values of a query string, in order. A name without `=` has an empty value. -/
def readPairs (t : Text) : List (Text × Text) :=
  ((Text.split '&' t).filter fun p => !p.isEmpty).map fun p =>
    let (name, value) := Text.cut '=' p
    (decode name, decode (value.getD []))

/-- A name and a value in a query string. -/
def writePair (name value : Text) : Text := encode name ++ '=' :: encode value

/-- The query string with each name once for each of its values. -/
def writePairs (query : Ordered (List Text)) : Text :=
  Text.join ['&'] (query.flatMap fun (name, values) => values.map (writePair name))

end PageQuery.Url
