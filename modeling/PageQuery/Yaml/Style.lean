import PageQuery.Yaml.Kind

namespace PageQuery.Yaml

/-!
# How a scalar may be written

* `Style`: plain, between single or double quotes, or as a block of lines;
* `Look`: what matters about a text for the choice between them;
* `Style.ofText`: the style of a text.
-/

/-- The ways of writing a scalar. -/
inductive Style where
  | plain
  | single
  | double
  | block
  deriving Repr, DecidableEq

/-- What matters about a text for the choice of its style. -/
structure Look where
  /-- It begins or holds a sign that would be read as something else. -/
  hasSigns : Bool := false
  hasBreaks : Bool := false
  /-- It holds characters that have to be escaped. -/
  hasSpecial : Bool := false
  /-- A space comes right after a line break. -/
  breakSpace : Bool := false
  /-- A line break comes right after a space. -/
  spaceBreak : Bool := false
  deriving Repr, DecidableEq

/-- The characters between the lines of a written text. -/
def isSeparator (c : Char) : Bool := c == '\n' || c == '\x85' || c == '\u2028' || c == '\u2029'

/-- Whether a character has to be escaped wherever it stands. -/
def isSpecial (c : Char) : Bool :=
  c == '\ufeff' || !(c == '\n' || c == '\x85' ||
    Text.inRanges [(0x20, 0x7E), (0xA0, 0xD7FF), (0xE000, 0xFFFD), (0x10000, 0x10FFFE)] c)

/-- Whether a character is a sign at the place where it stands: at the start of the text or later, and
    between what comes before it and what comes after it. -/
def isSign (first : Bool) (before : Option Char) (c : Char) (after : Text) : Bool :=
  if first then
    "#,[]\x7b\x7d&*!|>'\"%@\x60".toList.contains c || ("?:-".toList.contains c && atGap after)
  else
    (c == ':' && atGap after) || (c == '#' && atGap before.toList)

namespace Look

/-- Adds what a character at its place says. -/
def add (l : Look) (first : Bool) (before : Option Char) (c : Char) (after : Text) : Look :=
  { hasSigns := l.hasSigns || isSign first before c after
    hasBreaks := l.hasBreaks || isSeparator c
    hasSpecial := l.hasSpecial || isSpecial c
    breakSpace := l.breakSpace || (c == ' ' && before.any isSeparator)
    spaceBreak := l.spaceBreak || (isSeparator c && before == some ' ') }

/-- The look of a text after a character of it. -/
def after (l : Look) (before : Char) : Text → Look
  | [] => l
  | c :: rest => (l.add false (some before) c rest).after c rest

/-- The look of a text. -/
def ofText (t : Text) : Look :=
  match t with
  | [] => {}
  | c :: rest =>
    let marked := Text.startsWith "---" t || Text.startsWith "..." t
    ({ hasSigns := marked } : Look).add true none c rest |>.after c rest

end Look

/-- Whether a text begins or ends with a space or the end of a line. -/
def hasEdges (t : Text) : Bool :=
  let edge (c : Char) : Bool := c == ' ' || isSeparator c
  t.head?.any edge || t.getLast?.any edge

namespace Style

/-- Whether a text can be written plain. -/
def allowsPlain (t : Text) : Bool :=
  let l := Look.ofText t
  !(hasEdges t || l.breakSpace || l.spaceBreak || l.hasSpecial || l.hasBreaks || l.hasSigns)

/-- Whether a text can be written between single quotes. -/
def allowsSingle (t : Text) : Bool :=
  let l := Look.ofText t
  !(l.breakSpace || l.spaceBreak || l.hasSpecial)

/-- Whether a text may stand as a key on the line of its value, when `tag` more characters count. -/
def allowsKey (tag : Nat) (t : Text) : Bool :=
  tag + t.length < 128 && !t.isEmpty && !(Look.ofText t).hasBreaks

/-- The style of a text; it is plain only if it is read back as the same kind, and as a key on the line
    of its value it holds no line break. -/
def ofText (sameKind key : Bool) (t : Text) : Style :=
  if sameKind && allowsPlain t && !(key && t.isEmpty) then .plain
  else if allowsSingle t && !(key && (Look.ofText t).hasBreaks) then .single
  else .double

end Style

end PageQuery.Yaml
