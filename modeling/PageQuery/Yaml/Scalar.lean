import PageQuery.Yaml.Line

namespace PageQuery.Yaml

/-!
# Scalars as they are written

Each reader takes the text at the scalar and gives the characters that the scalar stands for, with the
text that follows it.

* `plain`: scalars without quotes, over one line or several;
* `singleQuoted`, `doubleQuoted`: scalars between quotes;
* `blockScalar`: scalars that take up whole lines.
-/

/-! ### Plain scalars -/

/-- Whether a plain scalar stops in front of a text, apart from white space. Inside brackets more
    characters stop it. -/
def stopsPlain (flow : Bool) : Text → Bool
  | ':' :: rest => atGap rest || (flow && rest.head?.any fun c => ",[]\x7b\x7d".toList.contains c)
  | c :: _ => flow && ",?[]\x7b\x7d".toList.contains c
  | [] => true

/-- The characters of a plain scalar up to the next white space or the end of the scalar. -/
def plainRun (flow : Bool) : Text → Text × Text
  | [] => ([], [])
  | c :: rest =>
    if atGap (c :: rest) || stopsPlain flow (c :: rest) then ([], c :: rest)
    else
      let (run, after) := plainRun flow rest
      (c :: run, after)

/-- The white space after a run of a plain scalar. -/
structure Gap where
  /-- What it stands for if the scalar goes on; empty if it cannot. -/
  text : Text
  rest : Text
  /-- Whether there is a line break in it. -/
  crossed : Bool
  /-- How far the last line is indented. -/
  column : Nat
  deriving Repr, DecidableEq

/-- The empty lines in front of a text and the indentation of the line after them, or nothing if a
    document ends there. -/
def emptyLines (column : Nat) : Text → Option Text × Text × Nat
  | ' ' :: rest => emptyLines (column + 1) rest
  | '\r' :: '\n' :: rest => next '\n' rest (emptyLines 0 rest)
  | c :: rest =>
    if isBreak c then next (if c == '\r' || c == '\x85' then '\n' else c) rest (emptyLines 0 rest)
    else (some [], c :: rest, column)
  | [] => (some [], [], column)
where
  /-- A break in front of a text, with what is known of the lines after it. -/
  next (c : Char) (rest : Text) (after : Option Text × Text × Nat) : Option Text × Text × Nat :=
    if isDocumentMark rest then (none, rest, 0)
    else (after.1.map (c :: ·), after.2)

/-- The white space in front of a text. -/
def plainGap (t : Text) : Gap :=
  let spaces := t.takeWhile (· == ' ')
  let t := skipSpaces t
  match lineBreak? t with
  | none => ⟨spaces, t, false, 0⟩
  | some (first, rest) =>
    if isDocumentMark rest then ⟨[], rest, true, 0⟩
    else
      let (more, rest, column) := emptyLines 0 rest
      ⟨(more.map (folded first)).getD [], rest, true, column⟩

/-- What a plain scalar stands for, what follows it, and whether it ends after a line break. Its lines
    after the first have to be indented by `indent` at least, unless it stands inside brackets. -/
def plainFrom (flow : Bool) (indent : Nat) : (fuel : Nat) → Text → Text × Text × Bool
  | 0, t => ([], t, false)
  | fuel + 1, t =>
    let (run, rest) := plainRun flow t
    let gap := plainGap rest
    let next := (plainRun flow gap.rest).1
    if gap.text.isEmpty || gap.rest.head? == some '#' || next.isEmpty ||
        (!flow && gap.crossed && gap.column < indent) then
      (run, gap.rest, gap.crossed)
    else
      let (more, rest, crossed) := plainFrom flow indent fuel gap.rest
      (run ++ gap.text ++ more, rest, crossed)

/-- What a plain scalar at the start of a text stands for. -/
def plain (flow : Bool) (indent : Nat) (t : Text) : Text × Text × Bool :=
  plainFrom flow indent (t.length + 1) t

/-! ### Quoted scalars -/

/-- The empty lines after a line break in a quoted scalar, in which no document may begin or end. -/
def quotedLines : (lineStart : Bool) → Text → Except Error (Text × Text)
  | lineStart, t =>
    if lineStart && isDocumentMark t then .error .malformed
    else match t with
      | '\r' :: '\n' :: rest => do
        let (more, after) ← quotedLines true rest
        return ('\n' :: more, after)
      | c :: rest =>
        if isBlank c then quotedLines false rest
        else if isBreak c then do
          let (more, after) ← quotedLines true rest
          return ((if c == '\r' || c == '\x85' then '\n' else c) :: more, after)
        else .ok ([], c :: rest)
      | [] => .ok ([], [])

/-- White space inside a quoted scalar: as it stands within a line, folded between lines. -/
def quotedGap (t : Text) : Except Error (Text × Text) :=
  let rest := t.dropWhile isBlank
  match lineBreak? rest with
  | none => if rest.isEmpty then .error .malformed else .ok (t.takeWhile isBlank, rest)
  | some (first, rest) => do
    let (more, rest) ← quotedLines true rest
    return (folded first more, rest)

/-- A scalar after its opening single quote. A quote inside is written twice. -/
def singleQuotedFrom : (fuel : Nat) → Text → Except Error (Text × Text)
  | 0, _ => .error .malformed
  | fuel + 1, t =>
    match t with
    | '\'' :: '\'' :: rest => do
      let (more, after) ← singleQuotedFrom fuel rest
      return ('\'' :: more, after)
    | '\'' :: rest => .ok ([], rest)
    | [] => .error .malformed
    | c :: rest =>
      if atGap t then do
        let (gap, rest) ← quotedGap t
        let (more, after) ← singleQuotedFrom fuel rest
        return (gap ++ more, after)
      else do
        let (more, after) ← singleQuotedFrom fuel rest
        return (c :: more, after)

/-- A scalar after its opening single quote. -/
def singleQuoted (t : Text) : Except Error (Text × Text) := singleQuotedFrom (t.length + 1) t

/-- The character that a letter after a backslash stands for. -/
def escaped? (c : Char) : Option Char :=
  match c with
  | '0' => some '\x00'
  | 'a' => some '\x07'
  | 'b' => some '\x08'
  | 't' => some '\t'
  | '\t' => some '\t'
  | 'n' => some '\n'
  | 'v' => some '\x0b'
  | 'f' => some '\x0c'
  | 'r' => some '\r'
  | 'e' => some '\x1b'
  | ' ' => some ' '
  | '"' => some '"'
  | '\\' => some '\\'
  | '/' => some '/'
  | 'N' => some '\x85'
  | '_' => some '\xa0'
  | 'L' => some '\u2028'
  | 'P' => some '\u2029'
  | _ => none

/-- How many hexadecimal digits follow a letter after a backslash. -/
def escapeWidth? (c : Char) : Option Nat :=
  match c with
  | 'x' => some 2
  | 'u' => some 4
  | 'U' => some 8
  | _ => none

/-- The number that hexadecimal digits stand for. -/
def hexValue? (t : Text) : Option Nat :=
  t.foldlM (fun n c => (Text.hexDigit? c).map (16 * n + ·)) 0

/-- The character of a number; a surrogate counts as the replacement character. -/
def character (n : Nat) : Except Error Char :=
  if 0x7FFFFFFF < n then .error .beyondWords
  else if 0x10FFFF < n then .error .beyondCharacters
  else if 0xD800 ≤ n && n < 0xE000 then .ok '\ufffd'
  else .ok (Char.ofNat n)

/-- What stands after a backslash: the characters meant, and the rest. -/
def escape (t : Text) : Except Error (Text × Text) :=
  match t with
  | [] => .error .malformed
  | c :: rest =>
    if let some x := escaped? c then .ok ([x], rest)
    else if let some width := escapeWidth? c then
      let digits := rest.take width
      match hexValue? digits with
      | none => .error .malformed
      | some n => do
        if digits.length < width then .error .malformed
        else return ([← character n], rest.drop width)
    else match lineBreak? t with
      | none => .error .malformed
      | some (_, rest) => quotedLines true rest

/-- A scalar after its opening double quote. -/
def doubleQuotedFrom : (fuel : Nat) → Text → Except Error (Text × Text)
  | 0, _ => .error .malformed
  | fuel + 1, t =>
    match t with
    | '"' :: rest => .ok ([], rest)
    | '\\' :: rest => do
      let (cs, rest) ← escape rest
      let (more, after) ← doubleQuotedFrom fuel rest
      return (cs ++ more, after)
    | [] => .error .malformed
    | c :: rest =>
      if atGap t then do
        let (gap, rest) ← quotedGap t
        let (more, after) ← doubleQuotedFrom fuel rest
        return (gap ++ more, after)
      else do
        let (more, after) ← doubleQuotedFrom fuel rest
        return (c :: more, after)

/-- A scalar after its opening double quote. -/
def doubleQuoted (t : Text) : Except Error (Text × Text) := doubleQuotedFrom (t.length + 1) t

/-! ### Block scalars -/

/-- What becomes of the line breaks at the end of a block scalar. -/
inductive Chomping where
  | strip
  | clip
  | keep
  deriving Repr, DecidableEq

/-- The chomping that a sign stands for. -/
def Chomping.ofSign? : Text → Option (Chomping × Text)
  | '+' :: rest => some (.keep, rest)
  | '-' :: rest => some (.strip, rest)
  | _ => none

/-- A digit that says how far a block scalar is indented, if there is one. -/
def indentation (t : Text) : Except Error (Option Nat × Text) :=
  match t with
  | '0' :: _ => .error .malformed
  | c :: rest => .ok (if c.isDigit then (some (c.toNat - 48), rest) else (none, t))
  | [] => .ok (none, [])

/-- What stands after the mark of a block scalar: chomping and indentation in either order. -/
def blockHeader (t : Text) : Except Error (Chomping × Option Nat × Text) := do
  let (chomping, width, rest) ← match Chomping.ofSign? t with
    | some (c, rest) => do
      let (width, rest) ← indentation rest
      pure (c, width, rest)
    | none => do
      let (width, rest) ← indentation t
      match width, Chomping.ofSign? rest with
      | some _, some (c, rest) => pure (c, width, rest)
      | _, _ => pure (.clip, width, rest)
  if atSpace rest then return (chomping, width, ← endLine rest) else .error .malformed

/-- The line breaks in front of the first line of a block scalar with other than spaces, the widest
    indentation up to there, and that line with its own indentation, of which `column` spaces have been
    read. -/
def leadingLines (column widest : Nat) : Text → Text × Nat × Nat × Text
  | ' ' :: rest => leadingLines (column + 1) (max widest (column + 1)) rest
  | '\r' :: '\n' :: rest => next '\n' (leadingLines 0 widest rest)
  | c :: rest =>
    if isBreak c then
      next (if c == '\r' || c == '\x85' then '\n' else c) (leadingLines 0 widest rest)
    else ([], widest, column, c :: rest)
  | [] => ([], widest, column, [])
where
  /-- A break in front of what is known of the lines after it. -/
  next (c : Char) (after : Text × Nat × Nat × Text) : Text × Nat × Nat × Text :=
    (c :: after.1, after.2)

/-- The empty lines of a block scalar, of each of which at most `indent` spaces are passed over, and
    the line after them with the number of spaces passed over. -/
def blockBreaks (indent column : Nat) : Text → Text × Nat × Text
  | '\r' :: '\n' :: rest => next '\n' (blockBreaks indent 0 rest)
  | c :: rest =>
    if c == ' ' && column < indent then blockBreaks indent (column + 1) rest
    else if isBreak c then
      next (if c == '\r' || c == '\x85' then '\n' else c) (blockBreaks indent 0 rest)
    else ([], column, c :: rest)
  | [] => ([], column, [])
where
  /-- A break in front of what is known of the lines after it. -/
  next (c : Char) (after : Text × Nat × Text) : Text × Nat × Text := (c :: after.1, after.2)

/-- What stands between two lines of a block scalar: the break and the empty lines, or a space in place
    of a single break when lines that start with other than white space are folded. -/
def blockJoin (folds : Bool) (line : Text) (first : Option Char) (breaks next : Text) : Text :=
  if folds && first == some '\n' && !(line.head?.any isBlank) && !(next.head?.any isBlank) then
    if breaks.isEmpty then [' '] else breaks
  else first.toList ++ breaks

/-- The lines of a block scalar from one that is indented as it has to be. -/
def blockLines (folds : Bool) (chomping : Chomping) (indent : Nat) :
    (fuel : Nat) → Text → Text × Text
  | 0, t => ([], t)
  | fuel + 1, t =>
    let line := t.takeWhile (! isBreak ·)
    let (first, rest) := match lineBreak? (skipLine t) with
      | some (c, rest) => (some c, rest)
      | none => (none, [])
    let (breaks, column, rest) := blockBreaks indent 0 rest
    if column = indent && !rest.isEmpty then
      let (more, after) := blockLines folds chomping indent fuel rest
      (line ++ blockJoin folds line first breaks rest ++ more, after)
    else
      let tail := match chomping with
        | .strip => []
        | .clip => first.toList
        | .keep => first.toList ++ breaks
      (line ++ tail, rest)

/-- A block scalar after its mark, inside a block that is indented by less than `least`. -/
def blockScalar (folds : Bool) (least : Nat) (t : Text) : Except Error (Text × Text) := do
  let (chomping, width, t) ← blockHeader t
  let (breaks, indent, column, rest) := match width with
    | none =>
      let (breaks, widest, column, rest) := leadingLines 0 0 t
      (breaks, max (max 1 least) widest, column, rest)
    | some k =>
      let indent := max 1 least + k - 1
      let (breaks, column, rest) := blockBreaks indent 0 t
      (breaks, indent, column, rest)
  if column = indent && !rest.isEmpty then
    let (more, after) := blockLines folds chomping indent (rest.length + 1) rest
    return (breaks ++ more, after)
  else return (if chomping = .keep then breaks else [], rest)

end PageQuery.Yaml
