import PageQuery.Bytes.Utf8
import PageQuery.Yaml.Scalar

namespace PageQuery.Yaml

/-!
# Tokens of a YAML text

The marks and scalars of a text, with tokens added where indentation begins or ends a sequence or a
mapping.

* `Token`: the tokens;
* `Lexer`: how far a text has been read, with the blocks that are open and the tokens that may turn
  out to be keys;
* `tokens t`: all tokens of a text.
-/

/-- What a line that starts with a percent sign says. -/
inductive Directive where
  /-- The version of the language. -/
  | version (major : Nat)
  /-- A handle for tags, and the text that it stands for. -/
  | handle (name lead : Text)
  | other
  deriving Repr, DecidableEq

/-- A token. -/
inductive Token where
  | directive (d : Directive)
  | documentStart
  | documentEnd
  /-- An indented sequence begins. -/
  | sequenceStart
  /-- An indented mapping begins. -/
  | mappingStart
  /-- An indented sequence or mapping ends. -/
  | blockEnd
  | openBracket
  | closeBracket
  | openBrace
  | closeBrace
  | comma
  | hyphen
  | key
  | value
  | anchor (name : Text)
  | alias (name : Text)
  /-- A tag with the handle in front of it, if it has one. -/
  | tag (handle : Option Text) (suffix : Text)
  | scalar (t : Text) (plain : Bool)
  deriving Repr, DecidableEq

/-! ### Names and tags -/

/-- The characters of names. -/
def isNameChar (c : Char) : Bool := c.isAlphanum || c == '-' || c == '_'

/-- A name that is not empty, and what follows. -/
def name (t : Text) : Except Error (Text × Text) :=
  match t.takeWhile isNameChar with
  | [] => .error .malformed
  | n => .ok (n, t.dropWhile isNameChar)

/-- The name of an anchor or alias, after its sign. -/
def anchorName (t : Text) : Except Error (Text × Text) := do
  let (n, rest) ← name t
  if atGap rest || rest.head?.any (fun c => "?:,]\x7d%@\x60".toList.contains c) then return (n, rest)
  else .error .malformed

/-- The characters of tags. -/
def isTagChar (c : Char) : Bool :=
  c.isAlphanum || "-;/?:@&=+$,_.!~*'()[]".toList.contains c

/-- The value of two hexadecimal digits. -/
def byte? (a b : Char) : Option UInt8 := do
  return UInt8.ofNat (16 * (← Text.hexDigit? a) + (← Text.hexDigit? b))

/-- Bytes written as two digits after a percent sign each, as many as there are. -/
def escapedBytes : Text → Except Error (Bytes × Text)
  | '%' :: a :: b :: rest =>
    match byte? a b with
    | none => .error .malformed
    | some x => do
      let (more, after) ← escapedBytes rest
      return (x :: more, after)
  | '%' :: _ => .error .malformed
  | t => .ok ([], t)

/-- The characters of a tag, which may be none; percent signs stand for bytes. -/
def tagChars : (fuel : Nat) → Text → Except Error (Text × Text)
  | 0, t => .ok ([], t)
  | fuel + 1, t =>
    match t with
    | '%' :: _ => do
      let (bytes, rest) ← escapedBytes t
      match Utf8.decodeStrict bytes with
      | .error _ => .error .malformed
      | .ok cs => do
        let (more, after) ← tagChars fuel rest
        return (cs ++ more, after)
    | c :: rest =>
      if isTagChar c then do
        let (more, after) ← tagChars fuel rest
        return (c :: more, after)
      else .ok ([], t)
    | [] => .ok ([], [])

/-- The characters of a tag, of which there is at least one. -/
def tagText (t : Text) : Except Error (Text × Text) :=
  if t.head?.any fun c => isTagChar c || c == '%' then tagChars (t.length + 1) t
  else .error .malformed

/-- The handle that a text starts with: an exclamation mark, or a name between two of them. -/
def handle (t : Text) : Except Error (Text × Text) :=
  match t with
  | '!' :: rest =>
    let n := rest.takeWhile isNameChar
    match rest.dropWhile isNameChar with
    | '!' :: after => .ok ('!' :: n ++ ['!'], after)
    | after => if n.isEmpty && after.head? == some ' ' then .ok (['!'], after) else .error .malformed
  | _ => .error .malformed

/-- Whether a second exclamation mark comes before the next space. -/
def hasHandle (t : Text) : Bool :=
  (t.takeWhile fun c => !(c == ' ' || isBreak c)).contains '!'

/-- A tag, after its exclamation mark. -/
def tag (t : Text) : Except Error (Token × Text) := do
  let (token, rest) ← match t with
    | '<' :: rest => do
      let (suffix, rest) ← tagText rest
      match rest with
      | '>' :: rest => pure (Token.tag none suffix, rest)
      | _ => throw .malformed
    | _ =>
      if atGap t then pure (Token.tag none ['!'], t)
      else if hasHandle t then do
        let (h, rest) ← handle ('!' :: t)
        let (suffix, rest) ← tagText rest
        pure (Token.tag (some h) suffix, rest)
      else do
        let (suffix, rest) ← tagText t
        pure (Token.tag (some ['!']) suffix, rest)
  if atSpace rest then return (token, rest) else throw .malformed

/-! ### Directives -/

/-- A numeral and what follows. -/
def numeral (t : Text) : Except Error (Nat × Text) :=
  match t.takeWhile Char.isDigit with
  | [] => .error .malformed
  | ds => .ok (ds.foldl (fun n c => 10 * n + (c.toNat - 48)) 0, t.dropWhile Char.isDigit)

/-- A directive after its percent sign, and the line after it. -/
def directive (t : Text) : Except Error (Directive × Text) := do
  let (n, rest) ← name t
  if !atSpace rest then throw .malformed
  if n = "YAML" then
    let (major, rest) ← numeral (skipSpaces rest)
    match rest with
    | '.' :: rest =>
      let (_, rest) ← numeral rest
      if atSpace rest then return (.version major, ← endLine rest) else throw .malformed
    | _ => throw .malformed
  else if n = "TAG" then
    let (h, rest) ← handle (skipSpaces rest)
    if rest.head? != some ' ' then throw .malformed
    let (lead, rest) ← tagText (skipSpaces rest)
    if atSpace rest then return (.handle h lead, ← endLine rest) else throw .malformed
  else return (.other, ← endLine (skipLine rest))

/-! ### Reading tokens -/

/-- A token that turns out to be the start of a key if a value mark follows on its line. -/
structure Candidate where
  /-- How many tokens stand in front of it. -/
  place : Nat
  /-- Whether it has to be a key, because it stands where the keys of a block stand. -/
  required : Bool
  position : Nat
  line : Nat
  column : Nat
  deriving Repr, DecidableEq

/-- How far a text has been read. -/
structure Lexer where
  rest : Text
  position : Nat := 0
  line : Nat := 0
  column : Nat := 0
  /-- How many brackets and braces are open. -/
  depth : Nat := 0
  /-- The columns of the open blocks, the innermost first. -/
  blocks : List Nat := []
  /-- Whether a key may begin here. -/
  keyAllowed : Bool := true
  /-- The tokens that may turn out to be keys, under the numbers of brackets around them. -/
  candidates : List (Nat × Candidate) := []
  /-- The tokens read so far. -/
  found : Array Token := #[]
  deriving Repr

/-- A reading step. -/
abbrev Step := Lexer → Except Error Lexer

namespace Lexer

/-- Moves over characters of the text. -/
def advance : (count : Nat) → Lexer → Lexer
  | 0, l => l
  | n + 1, l =>
    match l.rest with
    | [] => l
    | c :: rest =>
      let ends := isBreak c && !(c == '\r' && rest.head? == some '\n')
      let (line, column) :=
        if ends then (l.line + 1, 0)
        else (l.line, if c == '\ufeff' then l.column else l.column + 1)
      advance n { l with rest, position := l.position + 1, line, column }

/-- Moves on to a later part of the text. -/
def moveTo (rest : Text) (l : Lexer) : Lexer := advance (l.rest.length - rest.length) l

/-- Adds a token. -/
def push (t : Token) (l : Lexer) : Lexer := { l with found := l.found.push t }

/-- Whether the text at this place stands inside brackets. -/
def inFlow (l : Lexer) : Bool := l.depth != 0

/-- The least column at which the text inside the innermost block stands. -/
def least (l : Lexer) : Nat :=
  match l.blocks with
  | [] => 0
  | column :: _ => column + 1

/-- Ends the blocks whose column lies to the right of the given one; all blocks if there is none. -/
def closeBlocks (column : Option Nat) (l : Lexer) : Lexer :=
  if l.inFlow then l
  else
    let kept := l.blocks.dropWhile fun b => column.all (· < b)
    let ended := l.blocks.length - kept.length
    { l with blocks := kept, found := l.found ++ Array.replicate ended Token.blockEnd }

/-- Begins a block at a column, if it lies to the right of the innermost one. -/
def openBlock (column : Nat) (l : Lexer) : Bool × Lexer :=
  if l.blocks.head?.all (· < column) then (true, { l with blocks := column :: l.blocks })
  else (false, l)

/-- Gives up on candidates for keys that are too far away; one that had to be a key is an error. -/
def dropStale : Step := fun l =>
  let stale (c : Candidate) : Bool := c.line != l.line || 1024 < l.position - c.position
  if l.candidates.any fun (_, c) => stale c && c.required then .error .malformed
  else .ok { l with candidates := l.candidates.filter fun (_, c) => !stale c }

/-- Gives up on the candidate at this depth; one that had to be a key is an error. -/
def dropCandidate : Step := fun l =>
  if l.candidates.any fun (depth, c) => depth == l.depth && c.required then .error .malformed
  else .ok { l with candidates := l.candidates.filter fun (depth, _) => depth != l.depth }

/-- Notes that the next token may turn out to be a key, if a key may begin here. -/
def saveCandidate : Step := fun l => do
  if !l.keyAllowed then return l
  let required := !l.inFlow && l.blocks.head? == some l.column
  let l ← l.dropCandidate
  let c : Candidate := ⟨l.found.size, required, l.position, l.line, l.column⟩
  return { l with candidates := (l.depth, c) :: l.candidates }

/-- Passes over spaces, comments and the ends of lines. -/
def skipGap : (fuel : Nat) → Lexer → Lexer
  | 0, l => l
  | fuel + 1, l =>
    let rest := skipSpaces l.rest
    let rest := if rest.head? == some '#' then skipLine rest else rest
    match lineBreak? rest with
    | none => l.moveTo rest
    | some (_, rest) =>
      skipGap fuel { l.moveTo rest with keyAllowed := l.keyAllowed || !l.inFlow }

/-- A mark that begins or ends a document, or a directive in front of one. -/
def documentToken (t : Token) (rest : Text) : Step := fun l => do
  let l ← (l.closeBlocks none).dropCandidate
  return ({ l with keyAllowed := false }.push t).moveTo rest

/-- An opening bracket or brace. -/
def opening (t : Token) : Step := fun l => do
  let l ← l.saveCandidate
  return ({ l with depth := l.depth + 1, keyAllowed := true }.push t).advance 1

/-- A closing bracket or brace. -/
def closing (t : Token) : Step := fun l => do
  let l ← l.dropCandidate
  match l.depth with
  | 0 => throw .malformed
  | depth + 1 => return ({ l with depth, keyAllowed := false }.push t).advance 1

/-- A comma between the items inside brackets. -/
def separator : Step := fun l => do
  let l ← l.dropCandidate
  return ({ l with keyAllowed := true }.push .comma).advance 1

/-- Begins a block at this column if need be, with the token for it. -/
def begin (t : Token) : Step := fun l =>
  if l.inFlow then .ok l
  else if !l.keyAllowed then .error .malformed
  else
    let (opened, l) := l.openBlock l.column
    .ok (if opened then l.push t else l)

/-- The hyphen in front of an item. -/
def item : Step := fun l => do
  let l ← l.begin .sequenceStart
  let l ← { l with keyAllowed := true }.dropCandidate
  return (l.push .hyphen).advance 1

/-- The question mark in front of a key. -/
def explicitKey : Step := fun l => do
  let l ← l.begin .mappingStart
  let l ← { l with keyAllowed := !l.inFlow }.dropCandidate
  return (l.push .key).advance 1

/-- The colon in front of a value. A candidate at this depth becomes a key, and may begin a mapping. -/
def valueMark : Step := fun l => do
  match l.candidates.find? fun (depth, _) => depth == l.depth with
  | some (_, c) =>
    let l := { l with candidates := l.candidates.filter fun (depth, _) => depth != l.depth }
    let before := l.found.extract 0 c.place
    let after := l.found.extract c.place l.found.size
    let (opened, l) := if l.inFlow then (false, l) else l.openBlock c.column
    let marks := if opened then #[Token.mappingStart, .key] else #[Token.key]
    let l := { l with keyAllowed := false, found := before ++ marks ++ after }
    return (l.push .value).advance 1
  | none =>
    let l ← l.begin .mappingStart
    let l ← { l with keyAllowed := !l.inFlow }.dropCandidate
    return (l.push .value).advance 1

/-- A token that may be a key, read with its sign or quote passed over. -/
def content (read : Text → Except Error (Token × Text)) : Step := fun l => do
  let l ← l.saveCandidate
  let (t, rest) ← read (l.rest.drop 1)
  return ({ l with keyAllowed := false }.push t).moveTo rest

/-- A scalar over whole lines. -/
def block (folds : Bool) : Step := fun l => do
  let l ← { l with keyAllowed := true }.dropCandidate
  let (t, rest) ← blockScalar folds l.least (l.rest.drop 1)
  return (l.push (.scalar t false)).moveTo rest

/-- A plain scalar. -/
def plainScalar : Step := fun l => do
  let l ← l.saveCandidate
  let (t, rest, crossed) := plain l.inFlow l.least l.rest
  return ({ l with keyAllowed := crossed }.push (.scalar t true)).moveTo rest

/-- Whether a plain scalar may begin with a text. -/
def startsPlain (flow : Bool) : Text → Bool
  | [] => false
  | c :: rest =>
    !(atGap [c] || "-?:,[]\x7b\x7d#&*!|>'\"%@\x60".toList.contains c) ||
      (!atGap rest && (c == '-' || (!flow && (c == '?' || c == ':'))))

/-- Reads the token at this place of the text. -/
def token (c : Char) (after : Text) : Step := fun l => do
  let lineStart := l.column == 0
  let scalar (read : Text → Except Error (Text × Text)) : Step :=
    content fun t => (read t).map fun (s, rest) => (.scalar s false, rest)
  if c == '%' && lineStart then
    let (d, rest) ← directive after
    l.documentToken (.directive d) rest
  else if lineStart && isDocumentMark (c :: after) then
    l.documentToken (if c == '-' then .documentStart else .documentEnd) (after.drop 2)
  else match c with
    | '[' => l.opening .openBracket
    | '\x7b' => l.opening .openBrace
    | ']' => l.closing .closeBracket
    | '\x7d' => l.closing .closeBrace
    | ',' => l.separator
    | '*' => l.content fun t => (anchorName t).map fun (n, rest) => (.alias n, rest)
    | '&' => l.content fun t => (anchorName t).map fun (n, rest) => (.anchor n, rest)
    | '!' => l.content tag
    | '\'' => scalar singleQuoted l
    | '"' => scalar doubleQuoted l
    | _ =>
      if c == '-' && atGap after then l.item
      else if c == '?' && (l.inFlow || atGap after) then l.explicitKey
      else if c == ':' && (l.inFlow || atGap after) then l.valueMark
      else if (c == '|' || c == '>') && !l.inFlow then l.block (c == '>')
      else if startsPlain l.inFlow (c :: after) then l.plainScalar
      else throw .malformed

/-- Reads the tokens from this place on. -/
def run : (fuel : Nat) → Step
  | 0, _ => .error .malformed
  | fuel + 1, l => do
    let l ← (l.skipGap (l.rest.length + 1)).dropStale
    let l := l.closeBlocks (some l.column)
    match l.rest with
    | [] => (l.closeBlocks none).dropCandidate
    | c :: after => run fuel (← l.token c after)

end Lexer

/-- The tokens of a text. A byte order mark at its start is passed over. -/
def tokens (t : Text) : Except Error (List Token) := do
  if !t.all isAllowed then throw .malformed
  let start : Lexer := { rest := t }
  let start := if t.head? == some '\ufeff' then start.advance 1 else start
  return (← start.run (t.length + 2)).found.toList

end PageQuery.Yaml
