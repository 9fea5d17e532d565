import PageQuery.Value
import PageQuery.Number.Numeral

namespace PageQuery.Json

/-!
# Reading JSON

The grammar is JSON's, with the words `NaN`, `Infinity` and `-Infinity` added. Whole numbers may have
any size up to the limit on digits; a number with a fraction or an exponent is a double. A repeated
key keeps its first place and its last value.

* `read t`: the value of a whole text;
* `Error.message`: what is wrong, with line and column.
-/

/-- What is wrong at a place of a JSON text. -/
inductive Fault where
  | byteOrderMark
  | extraData
  | expectingValue
  | expectingName
  | expectingColon
  | expectingComma
  | unterminated
  | badEscape
  | badUnicodeEscape
  | controlCharacter
  | numeral (e : Numeral.Error)
  deriving Repr, DecidableEq

/-- A fault, and how many characters are left at the place where it was noticed. -/
structure Failure where
  fault : Fault
  left : Nat
  deriving Repr, DecidableEq

/-- A reading step that may fail; most steps give a value and the text that follows it. -/
abbrev Reading := Except Failure

/-- A failure in front of `rest`. -/
def fail {α : Type} (fault : Fault) (rest : Text) : Reading α := .error ⟨fault, rest.length⟩

/-- The characters between tokens. -/
def isGap (c : Char) : Bool := c == ' ' || c == '\t' || c == '\n' || c == '\r'

/-- The text without the gap at its start. -/
def skip (t : Text) : Text := t.dropWhile isGap

/-! ### Texts -/

/-- The character that a simple escape stands for. -/
def escaped? (c : Char) : Option Char :=
  match c with
  | '"' => some '"'
  | '\\' => some '\\'
  | '/' => some '/'
  | 'b' => some '\x08'
  | 'f' => some '\x0c'
  | 'n' => some '\n'
  | 'r' => some '\r'
  | 't' => some '\t'
  | _ => none

/-- The number that four hexadecimal digits stand for. -/
def hex4? (a b c d : Char) : Option Nat := do
  let a ← Text.hexDigit? a
  let b ← Text.hexDigit? b
  let c ← Text.hexDigit? c
  let d ← Text.hexDigit? d
  return ((a * 16 + b) * 16 + c) * 16 + d

/-- The code units up to the closing quote, and what follows it. `start` counts the characters left
    at the opening quote. -/
def units (start : Nat) : Text → Reading (List Nat × Text)
  | [] => .error ⟨.unterminated, start⟩
  | '"' :: rest => .ok ([], rest)
  | ['\\'] => .error ⟨.unterminated, start⟩
  | '\\' :: 'u' :: a :: b :: c :: d :: e :: rest =>
    match hex4? a b c d with
    | none => .error ⟨.badUnicodeEscape, rest.length + 6⟩
    | some n => do
      let (us, after) ← units start (e :: rest)
      return (n :: us, after)
  | '\\' :: c :: rest =>
    if c == 'u' then .error ⟨.badUnicodeEscape, rest.length + 1⟩
    else match escaped? c with
      | none => .error ⟨.badEscape, rest.length + 2⟩
      | some x => do
        let (us, after) ← units start rest
        return (x.toNat :: us, after)
  | c :: rest =>
    if c.toNat < 32 then .error ⟨.controlCharacter, rest.length + 1⟩
    else do
      let (us, after) ← units start rest
      return (c.toNat :: us, after)

/-- The characters of code units: a high and a low surrogate make one character, and a surrogate on
    its own the replacement character. -/
def joinUnits : List Nat → Text
  | [] => []
  | hi :: lo :: rest =>
    if 0xD800 ≤ hi && hi < 0xDC00 && 0xDC00 ≤ lo && lo < 0xE000 then
      Char.ofNat (0x10000 + (hi - 0xD800) * 0x400 + (lo - 0xDC00)) :: joinUnits rest
    else (if 0xD800 ≤ hi && hi < 0xE000 then Char.ofNat 0xFFFD else Char.ofNat hi) ::
      joinUnits (lo :: rest)
  | [u] => [if 0xD800 ≤ u && u < 0xE000 then Char.ofNat 0xFFFD else Char.ofNat u]

/-- A text after its opening quote. -/
def string (t : Text) : Reading (Text × Text) := do
  let (us, rest) ← units (t.length + 1) t
  return (joinUnits us, rest)

/-! ### Numbers -/

/-- The digits of a whole number without leading zeros, at the start of a text. -/
def wholeDigits? : Text → Option (Text × Text)
  | '0' :: rest => some (['0'], rest)
  | c :: rest =>
    if c.isDigit then some (c :: rest.takeWhile Char.isDigit, rest.dropWhile Char.isDigit) else none
  | [] => none

/-- The digits after a point, if a point and a digit come next. -/
def fraction (t : Text) : Option Text × Text :=
  match t with
  | '.' :: d :: rest =>
    if d.isDigit then (some (d :: rest.takeWhile Char.isDigit), rest.dropWhile Char.isDigit)
    else (none, t)
  | _ => (none, t)

/-- An exponent, if one comes next. -/
def exponent (t : Text) : Option Int × Text :=
  match t with
  | e :: rest =>
    if e == 'e' || e == 'E' then
      let (negative, digits) := Numeral.sign rest
      let ds := digits.takeWhile Char.isDigit
      if ds.isEmpty then (none, t)
      else
        let n := Numeral.value ((ds.dropWhile (· == '0')).take 7)
        (some (if negative then -(n : Int) else n), digits.dropWhile Char.isDigit)
    else (none, t)
  | [] => (none, t)

/-- A number at the start of a text that is known to be one up to its sign. -/
def number (negative : Bool) (whole rest : Text) : Reading (Scalar × Text) :=
  let (places, rest₁) := fraction rest
  let (power, rest₂) := exponent rest₁
  match places, power with
  | none, none =>
    if Numeral.maxDigits < whole.length then
      .error ⟨.numeral (.tooLong whole.length), rest.length⟩
    else
      let n := Numeral.value whole
      .ok (.int (if negative then -(n : Int) else n), rest)
  | _, _ =>
    let after := places.getD []
    let d : Decimal := ⟨Numeral.value (whole ++ after), power.getD 0 - after.length⟩
    .ok (.float (d.toFloat negative), rest₂)

/-- A word or a number. -/
def atom (t : Text) : Reading (Scalar × Text) :=
  if let some rest := Text.after? "null" t then .ok (.null, rest)
  else if let some rest := Text.after? "true" t then .ok (.bool true, rest)
  else if let some rest := Text.after? "false" t then .ok (.bool false, rest)
  else if let some rest := Text.after? "NaN" t then .ok (.float (0.0 / 0.0), rest)
  else if let some rest := Text.after? "Infinity" t then .ok (.float (1.0 / 0.0), rest)
  else if let some rest := Text.after? "-Infinity" t then .ok (.float (-1.0 / 0.0), rest)
  else
    let (negative, body) := match t with
      | '-' :: r => (true, r)
      | _ => (false, t)
    match wholeDigits? body with
    | some (whole, rest) => number negative whole rest
    | none => fail .expectingValue t

/-! ### Values -/

mutual

/-- A value at the start of a text. -/
def value : (fuel : Nat) → Text → Reading (Value × Text)
  | 0, t => fail .expectingValue t
  | fuel + 1, t =>
    match t with
    | '"' :: rest => do
      let (s, rest) ← string rest
      return (.text s, rest)
    | '[' :: rest =>
      match skip rest with
      | ']' :: rest => .ok (.list [], rest)
      | rest => do
        let (vs, rest) ← items fuel rest
        return (.list vs, rest)
    | '{' :: rest =>
      match skip rest with
      | '}' :: rest => .ok (.map [], rest)
      | rest => do
        let (es, rest) ← members fuel rest
        return (.map (Entries.ofList es), rest)
    | _ => do
      let (s, rest) ← atom t
      return (.scalar s, rest)

/-- The items of a list after its opening bracket, up to the closing one. -/
def items : (fuel : Nat) → Text → Reading (List Value × Text)
  | 0, t => fail .expectingValue t
  | fuel + 1, t => do
    let (v, rest) ← value fuel t
    match skip rest with
    | ']' :: rest => return ([v], rest)
    | ',' :: rest => do
      let (vs, rest) ← items fuel (skip rest)
      return (v :: vs, rest)
    | rest => fail .expectingComma rest

/-- The members of a map after its opening brace, up to the closing one. -/
def members : (fuel : Nat) → Text → Reading (List (Scalar × Value) × Text)
  | 0, t => fail .expectingName t
  | fuel + 1, t =>
    match t with
    | '"' :: rest => do
      let (key, rest) ← string rest
      match skip rest with
      | ':' :: rest => do
        let (v, rest) ← value fuel (skip rest)
        match skip rest with
        | '}' :: rest => return ([(.text key, v)], rest)
        | ',' :: rest => do
          let (es, rest) ← members fuel (skip rest)
          return ((.text key, v) :: es, rest)
        | rest => fail .expectingComma rest
      | rest => fail .expectingColon rest
    | _ => fail .expectingName t

end

/-- Why a text is not read, and where, counted in characters. -/
structure Error where
  fault : Fault
  position : Nat
  source : Text
  deriving Repr, DecidableEq

/-- The value of a whole text. -/
def read (t : Text) : Except Error Value :=
  let located (f : Failure) : Error := ⟨f.fault, t.length - f.left, t⟩
  if t.head? == some (Char.ofNat 0xFEFF) then .error ⟨.byteOrderMark, 0, t⟩
  else match value (2 * t.length + 2) (skip t) with
    | .error f => .error (located f)
    | .ok (v, rest) =>
      match skip rest with
      | [] => .ok v
      | rest => .error (located ⟨.extraData, rest.length⟩)

/-- The value of a whole text, if it is JSON. -/
def read? (t : Text) : Option Value := (read t).toOption

/-- What a fault says, without its place. -/
def Fault.message : Fault → Text
  | .byteOrderMark => "Unexpected UTF-8 BOM (decode using utf-8-sig)"
  | .extraData => "Extra data"
  | .expectingValue => "Expecting value"
  | .expectingName => "Expecting property name enclosed in double quotes"
  | .expectingColon => "Expecting ':' delimiter"
  | .expectingComma => "Expecting ',' delimiter"
  | .unterminated => "Unterminated string starting at"
  | .badEscape => "Invalid \\escape"
  | .badUnicodeEscape => "Invalid \\uXXXX escape"
  | .controlCharacter => "Invalid control character at"
  | .numeral e => e.message

/-- What is wrong, with line, column and position. -/
def Error.message (e : Error) : Text :=
  match e.fault with
  | .numeral n => n.message
  | fault =>
    let before := e.source.take e.position
    let line := before.count '\n' + 1
    let column := (before.reverse.takeWhile (· != '\n')).length + 1
    fault.message ++ ": line " ++ Text.ofNat line ++ " column " ++ Text.ofNat column ++ " (char " ++
      Text.ofNat e.position ++ [')']

end PageQuery.Json
