import PageQuery.Text.Basic

namespace PageQuery.Yaml

/-!
# Lines of a YAML text

* `isBreak`, `atGap`: the ends of lines and of words;
* `lineBreak?`: a line break at the start of a text, in its normal form;
* `isDocumentMark`: the three hyphens or points that begin or end a document;
* `folded`: what a break between two lines of a scalar stands for;
* `isAllowed`: the characters that a text may hold at all.
-/

/-- Why a text has no value. -/
inductive Error where
  /-- The text is not YAML, or not a single document of it. -/
  | malformed
  /-- An escape names a number beyond the last character. -/
  | beyondCharacters
  /-- An escape names a number that does not fit into a machine word. -/
  | beyondWords
  /-- A text that is tagged as a number, a day or a moment is none. -/
  | unreadable
  /-- A text that is tagged as a truth value is none. -/
  | noTruthValue
  /-- A text that is tagged as a number is empty. -/
  | emptyNumber
  /-- A text that is tagged as a day or a moment does not look like one. -/
  | noStamp
  deriving Repr, DecidableEq

/-- The characters that end a line. -/
def isBreak (c : Char) : Bool :=
  c == '\n' || c == '\r' || c == '\x85' || c == '\u2028' || c == '\u2029'

/-- Spaces and tabs. -/
def isBlank (c : Char) : Bool := c == ' ' || c == '\t'

/-- Whether a text has ended or goes on with a space, a tab or the end of a line. -/
def atGap : Text → Bool
  | [] => true
  | c :: _ => isBlank c || isBreak c

/-- Whether a text has ended or goes on with the end of a line. -/
def atLineEnd : Text → Bool
  | [] => true
  | c :: _ => isBreak c

/-- Whether a text has ended or goes on with a space or the end of a line. -/
def atSpace : Text → Bool
  | [] => true
  | c :: _ => c == ' ' || isBreak c

/-- The line break that a text starts with, in its normal form, and what follows. -/
def lineBreak? : Text → Option (Char × Text)
  | '\r' :: '\n' :: rest => some ('\n', rest)
  | c :: rest =>
    if c == '\r' || c == '\n' || c == '\x85' then some ('\n', rest)
    else if isBreak c then some (c, rest)
    else none
  | [] => none

/-- Whether the start of a line is the mark that begins or ends a document. -/
def isDocumentMark (t : Text) : Bool :=
  match t with
  | '-' :: '-' :: '-' :: rest => atGap rest
  | '.' :: '.' :: '.' :: rest => atGap rest
  | _ => false

/-- What a line break inside a scalar stands for, with the empty lines after it: a single break joins
    the lines with a space, and of several the first is dropped. -/
def folded (first : Char) (more : Text) : Text :=
  if first != '\n' then first :: more
  else if more.isEmpty then [' ']
  else more

/-- The text after the spaces at its start. -/
def skipSpaces (t : Text) : Text := t.dropWhile (· == ' ')

/-- The text from the end of its first line on. -/
def skipLine (t : Text) : Text := t.dropWhile (! isBreak ·)

/-- A text after spaces, a comment if there is one, and the line break that has to follow. -/
def endLine (t : Text) : Except Error Text :=
  let t := skipSpaces t
  let t := if t.head? == some '#' then skipLine t else t
  match t, lineBreak? t with
  | [], _ => .ok []
  | _, some (_, rest) => .ok rest
  | _, none => .error .malformed

/-- The characters that a text may hold at all. -/
def isAllowed (c : Char) : Bool :=
  c == '\t' || c == '\n' || c == '\r' || c == '\x85' ||
    Text.inRanges [(0x20, 0x7E), (0xA0, 0xD7FF), (0xE000, 0xFFFD), (0x10000, 0x10FFFF)] c

end PageQuery.Yaml
