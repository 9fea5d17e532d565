import PageQuery.Value.Stamp
import PageQuery.Text.Quoted
import PageQuery.Number.Numeral

namespace PageQuery

/-!
# Values in messages

* `Value.shown`: the form of a value in a message, where texts are quoted;
* `Value.plain`: the same, except that a text stands for itself;
* `Value.kindName`: the word for the kind of a value;
* `Value.isNothing`: whether a value counts as none at all.

The first two fail on a whole number of too many digits.
-/

/-- A byte of a shown byte string. -/
def shownByte (quote : Char) (b : UInt8) : Text :=
  let c := Char.ofNat b.toNat
  if c == quote || c == '\\' then ['\\', c]
  else if c == '\n' then "\\n"
  else if c == '\r' then "\\r"
  else if c == '\t' then "\\t"
  else if 32 ≤ b.toNat && b.toNat < 127 then [c]
  else "\\x" ++ Text.hex 2 b.toNat

/-- A byte string as it is shown. -/
def shownBytes (bs : List UInt8) : Text :=
  let q := Text.quoteFor (bs.map fun b => Char.ofNat b.toNat)
  'b' :: q :: bs.flatMap (shownByte q) ++ [q]

/-- A scalar as it is shown. -/
def Scalar.shown : Scalar → Except Numeral.Error Text
  | .null => .ok "None"
  | .bool b => .ok (if b then "True" else "False")
  | .int n => Numeral.ofInt n
  | .float x => .ok (Decimal.text x)
  | .text t => .ok (Text.quoted t)
  | .stamp s => .ok s.shown
  | .bytes bs => .ok (shownBytes bs)

/-- A scalar in the form in which a text stands for itself. -/
def Scalar.plain : Scalar → Except Numeral.Error Text
  | .text t => .ok t
  | .stamp s => .ok (s.iso ' ')
  | s => s.shown

namespace Value

mutual

/-- A value as it is shown in a message. -/
def shown : Value → Except Numeral.Error Text
  | .scalar s => s.shown
  | .list items => do return '[' :: Text.join ", " (← shownItems items) ++ [']']
  | .map entries => do return '{' :: Text.join ", " (← shownEntries entries) ++ ['}']
  | .element e => .ok ("<Element " ++ e.name ++ ['>'])
  | .discarded v => do return "DiscardMarker(value=" ++ (← shown v) ++ [')']

/-- The shown items of a list. -/
def shownItems : List Value → Except Numeral.Error (List Text)
  | [] => .ok []
  | v :: rest => do
    let t ← shown v
    return t :: (← shownItems rest)

/-- The shown entries of a map. -/
def shownEntries : List (Scalar × Value) → Except Numeral.Error (List Text)
  | [] => .ok []
  | (k, v) :: rest => do
    let key ← k.shown
    let t ← shown v
    return (key ++ ": " ++ t) :: (← shownEntries rest)

end

/-- A value as it is shown, except that a text stands for itself. -/
def plain : Value → Except Numeral.Error Text
  | .scalar s => s.plain
  | v => v.shown

/-! ### Kinds -/

/-- The word for the kind of a value. -/
def kindName : Value → Text
  | .scalar .null => "NoneType"
  | .scalar (.bool _) => "bool"
  | .scalar (.int _) => "int"
  | .scalar (.float _) => "float"
  | .scalar (.text _) => "str"
  | .scalar (.bytes _) => "bytes"
  | .scalar (.stamp (.day ..)) => "date"
  | .scalar (.stamp _) => "datetime"
  | .list _ => "list"
  | .map _ => "dict"
  | .element _ => "HtmlElement"
  | .discarded _ => "DiscardMarker"

/-- Whether a value counts as none at all: what is absent, false, zero or empty does. -/
def isNothing : Value → Bool
  | .scalar .null => true
  | .scalar (.bool b) => !b
  | .scalar (.int n) => n == 0
  | .scalar (.float x) => x == 0.0
  | .scalar (.text t) => t.isEmpty
  | .scalar (.bytes bs) => bs.isEmpty
  | .list vs => vs.isEmpty
  | .map es => es.isEmpty
  | _ => false

end Value

end PageQuery
