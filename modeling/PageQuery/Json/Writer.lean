import PageQuery.Value.Display

namespace PageQuery.Json

/-!
# Writing JSON

* `Style`: what stands between items, and whether values without a JSON form are an error;
* `write style v`: the text of a value, where every character beyond ASCII stands for itself.
-/

/-- How JSON is laid out. -/
structure Style where
  /-- Spaces by which each level is set in; without them all stands on one line. -/
  indent : Option Nat
  /-- What separates items on one line. -/
  itemGap : Text
  /-- What separates a key from its value. -/
  keyGap : Text
  /-- Whether a value that JSON has no form for is written as its plain text. -/
  lenient : Bool

/-- No spaces at all, and plain texts for values without a JSON form. -/
def Style.compact : Style := ⟨none, ",", ":", true⟩

/-- One line with a space after commas and colons. -/
def Style.line : Style := ⟨none, ", ", ": ", false⟩

/-- A line for each item, set in by two spaces per level. -/
def Style.pretty : Style := ⟨some 2, ",", ": ", false⟩

/-- Why a value has no JSON form. -/
inductive WriteError where
  /-- A number of too many digits. -/
  | numeral (e : Numeral.Error)
  /-- A key of a kind that cannot be written. -/
  | key (kind : Text)
  /-- A value of a kind that cannot be written. -/
  | value (kind : Text)
  deriving Repr, DecidableEq

/-- What is wrong with the value. -/
def WriteError.message : WriteError → Text
  | .numeral e => e.message
  | .key kind => "keys must be str, int, float, bool or None, not " ++ kind
  | .value kind => "Object of type " ++ kind ++ " is not JSON serializable"

/-- One character inside a written text. -/
def writeChar (c : Char) : Text :=
  if c == '"' then "\\\""
  else if c == '\\' then "\\\\"
  else if c == '\n' then "\\n"
  else if c == '\r' then "\\r"
  else if c == '\t' then "\\t"
  else if c == '\x08' then "\\b"
  else if c == '\x0c' then "\\f"
  else if c.toNat < 32 then "\\u" ++ Text.hex 4 c.toNat
  else [c]

/-- A text between double quotes. -/
def writeText (t : Text) : Text := '"' :: t.flatMap writeChar ++ ['"']

/-- A double; infinities and the absence of a number are written as words. -/
def writeFloat (x : Float) : Text :=
  if x.isNaN then "NaN"
  else if x.isInf then (if x < 0.0 then "-Infinity" else "Infinity")
  else Decimal.text x

/-- The word for the kind of a day or moment. -/
def stampKind : Stamp → Text
  | .day .. => "date"
  | .moment .. => "datetime"

/-- A whole number within the limit on digits. -/
def writeInt (n : Int) : Except WriteError Text :=
  (Numeral.ofInt n).mapError .numeral

/-- A key before it is quoted: scalars other than texts are written as their values would be. -/
def keyText : Scalar → Except WriteError Text
  | .text t => .ok t
  | .null => .ok "null"
  | .bool b => .ok (if b then "true" else "false")
  | .int n => writeInt n
  | .float x => .ok (writeFloat x)
  | .stamp s => .error (.key (stampKind s))
  | .bytes _ => .error (.key "bytes")

/-- A value that JSON has no form for, of the given kind. -/
def writeOther (style : Style) (kind : Text) (v : Value) : Except WriteError Text :=
  if style.lenient then (v.plain.mapError .numeral).map writeText else .error (.value kind)

/-- A scalar. -/
def writeScalar (style : Style) : Scalar → Except WriteError Text
  | .null => .ok "null"
  | .bool b => .ok (if b then "true" else "false")
  | .int n => writeInt n
  | .float x => .ok (writeFloat x)
  | .text t => .ok (writeText t)
  | .stamp s => writeOther style (stampKind s) (.scalar (.stamp s))
  | .bytes bs => writeOther style "bytes" (.scalar (.bytes bs))

/-- A line break and the indentation of a level; nothing in a style of one line. -/
def lineBreak (style : Style) (level : Nat) : Text :=
  match style.indent with
  | none => []
  | some n => '\n' :: List.replicate (n * level) ' '

/-- Written parts between brackets, the parts standing one level deeper than the brackets. -/
def enclose (style : Style) (level : Nat) (opening closing : Char) (parts : List Text) : Text :=
  if parts.isEmpty then [opening, closing]
  else
    let inner := lineBreak style (level + 1)
    opening :: inner ++ Text.join (style.itemGap ++ inner) parts ++ lineBreak style level ++
      [closing]

mutual

/-- A value at a level of indentation. -/
def writeAt (style : Style) (level : Nat) : Value → Except WriteError Text
  | .scalar s => writeScalar style s
  | .list vs => do return enclose style level '[' ']' (← writeItems style (level + 1) vs)
  | .map es => do return enclose style level '{' '}' (← writeEntries style (level + 1) es)
  | .element e => writeOther style "HtmlElement" (.element e)
  | .discarded v => writeOther style "DiscardMarker" (.discarded v)

/-- The items of a list. -/
def writeItems (style : Style) (level : Nat) : List Value → Except WriteError (List Text)
  | [] => .ok []
  | v :: rest => do
    let t ← writeAt style level v
    return t :: (← writeItems style level rest)

/-- The entries of a map. -/
def writeEntries (style : Style) (level : Nat) :
    List (Scalar × Value) → Except WriteError (List Text)
  | [] => .ok []
  | (k, v) :: rest => do
    let key ← keyText k
    let t ← writeAt style level v
    return (writeText key ++ style.keyGap ++ t) :: (← writeEntries style level rest)

end

/-- The text of a value. -/
def write (style : Style) (v : Value) : Except WriteError Text := writeAt style 0 v

end PageQuery.Json
