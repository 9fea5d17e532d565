import PageQuery.Text.Basic

namespace PageQuery.Selector

/-!
# The tokens of selectors

* `Token`: names, strings, numbers and marks, with their place in the selector;
* `tokens`: the tokens of a selector. What is no token ends the list as a token of the kind `broken`,
  so that only a reader who gets that far complains.
-/

/-- The kinds of tokens. -/
inductive Kind where
  | space
  | name
  | hash
  | string
  | number
  | mark
  | stop
  | broken
  deriving Repr, DecidableEq

/-- A token. The text of a `broken` one is the complaint. -/
structure Token where
  kind : Kind
  text : Text
  position : Nat
  deriving Repr, DecidableEq

namespace Kind

/-- The word for a kind in complaints. -/
def word : Kind → Text
  | .space => "S"
  | .name => "IDENT"
  | .hash => "HASH"
  | .string => "STRING"
  | .number => "NUMBER"
  | .mark => "DELIM"
  | .stop => "EOF"
  | .broken => "EOF"

end Kind

namespace Token

/-- A token as complaints show it. -/
def shown (t : Token) : Text :=
  let place := " at " ++ Text.ofNat t.position ++ ">"
  match t.kind with
  | .stop => "<EOF" ++ place
  | kind => "<" ++ kind.word ++ " '" ++ t.text ++ ['\''] ++ place

/-- Whether a token is the given mark. -/
def isMark (c : Char) (t : Token) : Bool := t.kind == .mark && t.text == [c]

/-- Whether a token is one of the given marks. -/
def isMarkOf (cs : Text) (t : Token) : Bool := cs.any t.isMark

end Token

/-! ### Names and escapes -/

/-- The white space of selectors. -/
def isGap (c : Char) : Bool := c == ' ' || c == '\t' || c == '\r' || c == '\n' || c == '\x0c'

/-- The number of characters that an escape by number takes after its backslash; zero if there is
    none. -/
def numberEscape (t : Text) : Nat :=
  let digits := ((t.take 6).takeWhile fun c => (Text.hexDigit? c).isSome).length
  if digits = 0 then 0
  else
    match t.drop digits with
    | '\r' :: '\n' :: _ => digits + 2
    | c :: _ => if isGap c then digits + 1 else digits
    | [] => digits

/-- The number of characters that an escape takes after its backslash; zero if there is none. -/
def escapeLength (t : Text) : Nat :=
  match t with
  | [] => 0
  | c :: _ =>
    if (Text.hexDigit? c).isSome then numberEscape t
    else if c == '\n' || c == '\r' || c == '\x0c' then 0
    else 1

/-- Whether a character may start a name. -/
def startsName (c : Char) : Bool := c == '_' || c.isAlpha || 128 ≤ c.toNat

/-- Whether a character may stand in a name. -/
def isNameChar (c : Char) : Bool := startsName c || c.isDigit || c == '-'

/-- The number of characters of the longest run of name characters and escapes at the start of a text.
    The first argument counts characters of an escape still to be passed over. -/
def runLength : Nat → Text → Nat
  | _, [] => 0
  | skip + 1, _ :: rest => runLength skip rest + 1
  | 0, c :: rest =>
    if isNameChar c then runLength 0 rest + 1
    else if c = '\\' then
      match escapeLength rest with
      | 0 => 0
      | n + 1 => runLength (n + 1) rest + 1
    else 0

/-- The number of characters of a name at the start of a text; zero if there is none. -/
def nameLength (t : Text) : Nat :=
  let (lead, rest) : Nat × Text :=
    match t with
    | '-' :: rest => (1, rest)
    | _ => (0, t)
  match rest with
  | [] => 0
  | c :: more =>
    if startsName c || (c == '\\' && escapeLength more != 0) then lead + runLength 0 rest else 0

/-- A text with its escapes by number replaced. The first argument counts characters still to be passed
    over. -/
def unescapeNumbers : Nat → Text → Text
  | _, [] => []
  | skip + 1, _ :: rest => unescapeNumbers skip rest
  | 0, c :: rest =>
    let n := numberEscape rest
    if c = '\\' && n != 0 then
      let digits := (rest.take 6).takeWhile fun c => (Text.hexDigit? c).isSome
      let code := digits.foldl (fun n c => n * 16 + (Text.hexDigit? c).getD 0) 0
      let shown := if 0x110000 ≤ code || (0xD800 ≤ code && code < 0xE000) then '\uFFFD' else Char.ofNat code
      shown :: unescapeNumbers n rest
    else c :: unescapeNumbers 0 rest

/-- A text with the backslashes dropped that stand before another character of the line. -/
def unescapeOthers : Text → Text
  | '\\' :: c :: rest => if c = '\n' then '\\' :: c :: unescapeOthers rest else c :: unescapeOthers rest
  | c :: rest => c :: unescapeOthers rest
  | [] => []

/-- A text with its escapes replaced: first those by number, then the others. -/
def unescape (t : Text) : Text := unescapeOthers (unescapeNumbers 0 t)

/-! ### Strings and numbers -/

/-- The number of characters of a string after its quote. -/
def stringLength (quote : Char) : Nat → Text → Nat
  | _, [] => 0
  | skip + 1, _ :: rest => stringLength quote skip rest + 1
  | 0, c :: rest =>
    if c = quote || c == '\n' || c == '\r' || c == '\x0c' then 0
    else if c = '\\' then
      match rest with
      | '\r' :: '\n' :: _ => stringLength quote 2 rest + 1
      | '\n' :: _ | '\r' :: _ | '\x0c' :: _ => stringLength quote 1 rest + 1
      | _ =>
        match escapeLength rest with
        | 0 => 0
        | n + 1 => stringLength quote (n + 1) rest + 1
    else stringLength quote 0 rest + 1

/-- A string without the line breaks that a backslash hides. -/
def joinLines : Text → Text
  | '\\' :: '\r' :: '\n' :: rest => joinLines rest
  | '\\' :: c :: rest =>
    if c == '\n' || c == '\r' || c == '\x0c' then joinLines rest else '\\' :: joinLines (c :: rest)
  | c :: rest => c :: joinLines rest
  | [] => []

/-- The number of characters of a number at the start of a text; zero if there is none. -/
def numberLength (t : Text) : Nat :=
  let (lead, rest) : Nat × Text :=
    match t with
    | '+' :: rest | '-' :: rest => (1, rest)
    | _ => (0, t)
  let whole := (rest.takeWhile Char.isDigit).length
  let tail : Nat :=
    match rest.drop whole with
    | '.' :: more =>
      match (more.takeWhile Char.isDigit).length with
      | 0 => 0
      | n + 1 => n + 2
    | _ => 0
  if whole + tail = 0 then 0 else lead + whole + tail

/-- The number of characters up to the end of a comment, after its opening. -/
def commentLength : Text → Nat
  | '*' :: '/' :: _ => 2
  | _ :: rest => commentLength rest + 1
  | [] => 0

/-! ### Tokens -/

/-- The first token of a text that is not empty, if it is no comment, and its length. -/
def firstToken (position : Nat) (t : Text) : Option Token × Nat :=
  let gap := (t.takeWhile isGap).length
  let name := nameLength t
  let number := numberLength t
  if gap != 0 then (some ⟨.space, " ", position⟩, gap)
  else if name != 0 then (some ⟨.name, unescape (t.take name), position⟩, name)
  else
    match t with
    | [] => (none, 0)
    | c :: rest =>
      let hash := runLength 0 rest
      if c = '#' && hash != 0 then (some ⟨.hash, unescape (rest.take hash), position⟩, hash + 1)
      else if c = '"' || c = '\'' then
        let n := stringLength c 0 rest
        match rest.drop n with
        | [] => (some ⟨.broken, "Unclosed string at " ++ Text.ofNat position, position⟩, t.length)
        | d :: _ =>
          if d = c then (some ⟨.string, unescape (joinLines (rest.take n)), position⟩, n + 2)
          else (some ⟨.broken, "Invalid string at " ++ Text.ofNat position, position⟩, t.length)
      else if number != 0 then (some ⟨.number, t.take number, position⟩, number)
      else if Text.startsWith "/*" t then (none, commentLength (t.drop 2) + 2)
      else (some ⟨.mark, [c], position⟩, 1)

/-- The tokens of a text that starts at a position. The first argument counts characters of a token
    still to be passed over. -/
def tokensFrom : Nat → (position : Nat) → Text → List Token
  | _, position, [] => [⟨.stop, [], position⟩]
  | skip + 1, position, _ :: rest => tokensFrom skip (position + 1) rest
  | 0, position, c :: rest =>
    let (token, n) := firstToken position (c :: rest)
    token.toList ++ tokensFrom (n - 1) (position + 1) rest

/-- The tokens of a selector. -/
def tokens (t : Text) : List Token := tokensFrom 0 0 t

end PageQuery.Selector
