import PageQuery.Bytes.Base64
import PageQuery.Html.Writer
import PageQuery.Number.Numeral
import PageQuery.Text.Quoted
import PageQuery.Value.Stamp
import PageQuery.Yaml.Style

namespace PageQuery.Yaml

/-!
# Writing YAML

Maps and lists are written in indented blocks, entries in their order. A list inside a map is not
indented. Lines are broken at spaces after the eightieth column.

* `Sheet`: the text written so far, and where it ends;
* `write v`: a value as a document.
-/

/-- Why a value has no YAML form. -/
inductive WriteError where
  /-- A whole number has too many digits. -/
  | numeral (e : Numeral.Error)
  /-- The value was saved and is not to be shown. -/
  | discarded
  deriving Repr, DecidableEq

/-- The text written so far. -/
structure Sheet where
  /-- The characters, the last one first. -/
  reversed : Text := []
  column : Nat := 0
  /-- Whether nothing but white space stands right before the end. -/
  spaced : Bool := true
  /-- Whether nothing but indentation and the marks of blocks stands on the last line. -/
  fresh : Bool := true
  deriving Repr

namespace Sheet

/-- Adds characters. -/
def add (t : Text) (s : Sheet) : Sheet :=
  { s with reversed := t.reverse ++ s.reversed, column := s.column + t.length }

/-- Ends the line, with the given break. -/
def newline (c : Char) (s : Sheet) : Sheet :=
  { reversed := c :: s.reversed, column := 0, spaced := true, fresh := true }

/-- Goes to a column: of this line if nothing is in the way, else of the next one. -/
def indent (column : Nat) (s : Sheet) : Sheet :=
  let s := if !s.fresh || column < s.column || (s.column = column && !s.spaced) then s.newline '\n'
    else s
  if s.column < column then
    { s.add (List.replicate (column - s.column) ' ') with spaced := true }
  else s

/-- Writes a mark. `apart` asks for white space before it; `blockMark` says that it is the mark of a block. -/
def mark (t : Text) (apart blockMark : Bool) (s : Sheet) : Sheet :=
  let t := if s.spaced || !apart then t else ' ' :: t
  { s.add t with spaced := false, fresh := s.fresh && blockMark }

end Sheet

/-! ### Scalars -/

/-- The column after which lines are broken. -/
def width : Nat := 80

/-- A longest stretch of a text that is a word, spaces, or line breaks. -/
inductive Stretch where
  | word (t : Text)
  | spaces (count : Nat)
  | breaks (t : Text)
  deriving Repr, DecidableEq

/-- The stretches of a text. -/
def stretches : Text → List Stretch
  | [] => []
  | c :: rest =>
    let after := stretches rest
    if c == ' ' then
      match after with
      | .spaces n :: more => .spaces (n + 1) :: more
      | _ => .spaces 1 :: after
    else if isSeparator c then
      match after with
      | .breaks t :: more => .breaks (c :: t) :: more
      | _ => .breaks [c] :: after
    else
      match after with
      | .word t :: more => .word (c :: t) :: more
      | _ => .word [c] :: after

/-- Writes the stretches of a plain scalar. A single space may give way to a line break. -/
def writePlain (column : Nat) (wraps : Bool) : List Stretch → Sheet → Sheet
  | [], s => s
  | .word t :: rest, s => writePlain column wraps rest (s.add t)
  | .spaces n :: rest, s =>
    let s := if n = 1 && width < s.column && wraps then
        { s.indent column with spaced := false, fresh := false }
      else s.add (List.replicate n ' ')
    writePlain column wraps rest s
  | .breaks _ :: rest, s => writePlain column wraps rest s

/-- Writes line breaks inside a quoted scalar: one more than there are if the first one is simple. -/
def writeBreaks (column : Nat) (t : Text) (s : Sheet) : Sheet :=
  let s := if t.head? == some '\n' then s.newline '\n' else s
  (t.foldl (fun s c => s.newline c) s).indent column

/-- Writes the stretches of a scalar between single quotes. A single space that stands neither first nor
    last may give way to a line break. -/
def writeSingle (column : Nat) (wraps : Bool) : (first : Bool) → List Stretch → Sheet → Sheet
  | _, [], s => s
  | _, .word t :: rest, s =>
    writeSingle column wraps false rest (s.add (Text.replace ['\''] ['\'', '\''] t))
  | first, .spaces n :: rest, s =>
    let s := if n = 1 && width < s.column && wraps && !first && !rest.isEmpty then s.indent column
      else s.add (List.replicate n ' ')
    writeSingle column wraps false rest s
  | _, .breaks t :: rest, s => writeSingle column wraps false rest (writeBreaks column t s)

/-- Whether a character stands for itself between double quotes. -/
def isVerbatim (c : Char) : Bool :=
  !"\"\\\u0085\u2028\u2029\ufeff".toList.contains c &&
    Text.inRanges [(0x20, 0x7E), (0xA0, 0xD7FF), (0xE000, 0xFFFD)] c

/-- A number in hexadecimal capitals. -/
def capitalHex (width n : Nat) : Text := (Text.hex width n).map Char.toUpper

/-- The escape of a character. -/
def escapeText (c : Char) : Text :=
  match c with
  | '\x00' => "\\0"
  | '\x07' => "\\a"
  | '\x08' => "\\b"
  | '\t' => "\\t"
  | '\n' => "\\n"
  | '\x0b' => "\\v"
  | '\x0c' => "\\f"
  | '\r' => "\\r"
  | '\x1b' => "\\e"
  | '"' => "\\\""
  | '\\' => "\\\\"
  | '\x85' => "\\N"
  | '\xa0' => "\\_"
  | '\u2028' => "\\L"
  | '\u2029' => "\\P"
  | c =>
    if c.toNat < 0x100 then "\\x" ++ capitalHex 2 c.toNat
    else if c.toNat < 0x10000 then "\\u" ++ capitalHex 4 c.toNat
    else "\\U" ++ capitalHex 8 c.toNat

/-- Breaks the line between double quotes, in front of the character `next`; a space there is escaped. -/
def breakDouble (column : Nat) (next : Option Char) (s : Sheet) : Sheet :=
  let s := { (s.add ['\\']).indent column with spaced := false, fresh := false }
  if next == some ' ' then s.add ['\\'] else s

/-- Writes a scalar between double quotes. `held` are characters not written yet, the last one first. A
    line may be broken at a space and next to an escape, but not at the ends of the text. -/
def writeDouble (column : Nat) (wraps : Bool) : (first : Bool) → (held : Text) → Text → Sheet → Sheet
  | _, held, [], s => s.add held.reverse
  | first, held, c :: rest, s =>
    let inner := wraps && !first && !rest.isEmpty
    if isVerbatim c then
      if inner && (c == ' ' || held.isEmpty) && width < s.column + held.length then
        writeDouble column wraps false [c] rest (breakDouble column (some c) (s.add held.reverse))
      else writeDouble column wraps false (c :: held) rest s
    else
      let s := (s.add held.reverse).add (escapeText c)
      let s := if inner && width + 1 < s.column then breakDouble column rest.head? s else s
      writeDouble column wraps false [] rest s

/-- Writes a text in a style. The lines after the first begin at `column`. -/
def writeText (style : Style) (column : Nat) (wraps : Bool) (t : Text) (s : Sheet) : Sheet :=
  match style with
  | .plain =>
    if t.isEmpty then s
    else
      let s := if s.spaced then s else s.add [' ']
      writePlain column wraps (stretches t) { s with spaced := false, fresh := false }
  | .single =>
    (writeSingle column wraps true (stretches t) (s.mark ['\''] true false)).mark ['\''] false false
  | .double => (writeDouble column wraps true [] t (s.mark ['"'] true false)).mark ['"'] false false
  | .block =>
    let lines := Text.split '\n' t
    lines.dropLast.foldl (fun s line => (s.indent column |>.add line).newline '\n')
      ((s.mark ['|'] true false).newline '\n')

/-- A scalar as it is to be written. -/
structure Word where
  kind : Kind
  text : Text
  deriving Repr, DecidableEq

/-- Base 64 in lines of seventy-six characters. -/
def base64Lines : (fuel : Nat) → Text → Text
  | 0, _ => []
  | fuel + 1, t => if t.isEmpty then [] else t.take 76 ++ '\n' :: base64Lines fuel (t.drop 76)

/-- The text of a double: a point stands in front of every exponent. -/
def doubleText (x : Float) : Text :=
  if x.isNaN then ".nan"
  else if x.isInf then (if Binary64.isNegative x then "-.inf" else ".inf")
  else
    let t := Decimal.text x
    if t.contains '.' then t else Text.replace ['e'] ".0e" t

/-- The kind and the text of a scalar. -/
def wordOf : Scalar → Except WriteError Word
  | .null => .ok ⟨.null, "null"⟩
  | .bool b => .ok ⟨.bool, if b then "true" else "false"⟩
  | .int n => do return ⟨.int, ← (Numeral.ofInt n).mapError .numeral⟩
  | .float x => .ok ⟨.float, doubleText x⟩
  | .text t => .ok ⟨.text, t⟩
  | .stamp s => .ok ⟨.stamp, s.iso ' '⟩
  | .bytes bs =>
    let t := Base64.encode bs
    .ok ⟨.binary, base64Lines t.length t⟩

/-- The tag of a kind. -/
def tagOf (k : Kind) : Text :=
  match Kind.words.find? fun (_, k') => k' == k with
  | some (w, _) => "!!" ++ w.toList
  | none => []

/-- Whether a scalar may stand as a key on the line of its value. -/
def Word.allowsKey (w : Word) : Bool := Style.allowsKey (tagOf w.kind).length w.text

/-- The style of a scalar. -/
def Word.style (key : Bool) (w : Word) : Style :=
  match w.kind with
  | .binary => if w.text.isEmpty then .double else .block
  | k => Style.ofText (Kind.ofText w.text == k) key w.text

/-- Whether the kind of a scalar cannot be seen from its text in a style, so that a tag is needed. -/
def Word.needsTag (style : Style) (w : Word) : Bool :=
  if style = .plain then Kind.ofText w.text != w.kind else w.kind != .text

/-- Writes a scalar. -/
def writeWord (column : Nat) (key : Bool) (w : Word) (s : Sheet) : Sheet :=
  let style := w.style key
  let s := if w.needsTag style then s.mark (tagOf w.kind) true false else s
  writeText style column (!key) w.text s

/-! ### Values -/

/-- The column of a block inside one that begins at a column; the outermost begins at none. -/
def inner (outer : Option Nat) : Nat :=
  match outer with
  | none => 0
  | some column => column + 2

/-- The column of the later lines of a scalar inside a block. -/
def continuation (outer : Option Nat) : Nat :=
  match outer with
  | none => 2
  | some column => column + 2

mutual

/-- Writes a value inside a block. A list that is the value of an entry is not indented. -/
def writeValue (outer : Option Nat) (ofEntry : Bool) : Value → Sheet → Except WriteError Sheet
  | .scalar w, s => do return writeWord (continuation outer) false (← wordOf w) s
  | .element e, s => .ok (writeWord (continuation outer) false ⟨.text, e.outer⟩ s)
  | .discarded _, _ => .error .discarded
  | .list [], s => .ok (s.mark "[]" true false)
  | .map [], s => .ok (s.mark "\x7b\x7d" true false)
  | .list (v :: rest), s =>
    let column := if ofEntry && !s.fresh then outer.getD 0 else inner outer
    writeItems column (v :: rest) s
  | .map (e :: rest), s => writeEntries (inner outer) (e :: rest) s

/-- Writes the items of a list, each after a hyphen at the given column. -/
def writeItems (column : Nat) : List Value → Sheet → Except WriteError Sheet
  | [], s => .ok s
  | v :: rest, s => do
    let s ← writeValue (some column) false v ((s.indent column).mark ['-'] true true)
    writeItems column rest s

/-- Writes the entries of a map at the given column. -/
def writeEntries (column : Nat) : List (Scalar × Value) → Sheet → Except WriteError Sheet
  | [], s => .ok s
  | (k, v) :: rest, s => do
    let key ← wordOf k
    let s := s.indent column
    let s := if key.allowsKey then
        (writeWord (column + 2) true key s).mark [':'] false false
      else
        let s := writeWord (column + 2) false key (s.mark ['?'] true true)
        (s.indent column).mark [':'] true true
    writeEntries column rest (← writeValue (some column) true v s)

end

/-- Whether a document is a single plain scalar, after which its end has to be marked. -/
def isOpen : Value → Bool
  | .scalar w =>
    match wordOf w with
    | .ok w => w.style false = .plain
    | .error _ => false
  | .element e => (Word.mk .text e.outer).style false = .plain
  | _ => false

/-- A value as a document. -/
def write (v : Value) : Except WriteError Text := do
  let s := (← writeValue none false v {}).indent 0
  let s := if isOpen v then (s.mark "..." true false).indent 0 else s
  return s.reversed.reverse

end PageQuery.Yaml
