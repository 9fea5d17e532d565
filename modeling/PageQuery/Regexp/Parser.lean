import PageQuery.Ordered
import PageQuery.Text.Identifier
import PageQuery.Regexp.Complaint

namespace PageQuery.Regexp

/-!
# Reading patterns

    alternatives := row ("|" row)*
    row          := (atom quantifier?)*

* `Flags`: what can be switched on for a pattern or for a part of one;
* `compile flags t`: the pattern that a text stands for.

A pattern is read in tokens: single characters, and a backslash with the character after it.
-/

/-- What can be switched on. -/
structure Flags where
  ignoreCase : Bool := false
  multiline : Bool := false
  dotAll : Bool := false
  /-- White space and comments do not count. -/
  verbose : Bool := false
  ascii : Bool := false
  unicode : Bool := false
  /-- Repetitions are not allowed. -/
  template : Bool := false
  deriving Repr, DecidableEq

namespace Flags

/-- The flags with one more, named by its letter. -/
def on (c : Char) (f : Flags) : Flags :=
  match c with
  | 'i' => { f with ignoreCase := true }
  | 'm' => { f with multiline := true }
  | 's' => { f with dotAll := true }
  | 'x' => { f with verbose := true }
  | 'a' => { f with ascii := true }
  | 'u' => { f with unicode := true }
  | 't' => { f with template := true }
  | _ => f

/-- Flags of a part of a pattern: some are switched on and others off. -/
def within (f on off : Flags) : Flags where
  ignoreCase := (f.ignoreCase || on.ignoreCase) && !off.ignoreCase
  multiline := (f.multiline || on.multiline) && !off.multiline
  dotAll := (f.dotAll || on.dotAll) && !off.dotAll
  verbose := (f.verbose || on.verbose) && !off.verbose
  ascii := if on.unicode then false else f.ascii || on.ascii
  unicode := f.unicode
  template := f.template

/-- Whether two sets of flags have one in common. -/
def meets (f g : Flags) : Bool :=
  (f.ignoreCase && g.ignoreCase) || (f.multiline && g.multiline) || (f.dotAll && g.dotAll) ||
    (f.verbose && g.verbose)

/-- How far case is ignored. -/
def folding (f : Flags) : Folding :=
  if f.ignoreCase then (if f.ascii then .ascii else .full) else .exact

end Flags

/-- What has been read so far, and what is left to read. -/
structure Progress where
  /-- The length of the whole pattern. -/
  length : Nat
  rest : Text
  /-- The widths of the groups; groups that are still open have none. -/
  groups : List (Option Width) := []
  names : Ordered Nat := []
  /-- Inside a look-behind, the number of groups before it. -/
  behind : Option Nat := none
  /-- Conditions on groups, with their places. -/
  conditions : List (Nat × Nat) := []
  flags : Flags

/-- A step of reading. -/
abbrev Reading := StateT Progress (Except Refusal)

namespace Reading

/-- The place of the next token. -/
def place : Reading Nat := do
  let s ← get
  return s.length - s.rest.length

/-- A complaint about a place. -/
def complainAt {α : Type} (c : Complaint) (position : Nat) : Reading α :=
  throw (.wrong c (some position))

/-- A complaint about the place some characters before the next token. -/
def complain {α : Type} (c : Complaint) (back : Nat) : Reading α := do
  complainAt c ((← place) - back)

/-- The token at the start of a text. -/
def token? : Text → Option Text
  | [] => none
  | '\\' :: c :: _ => some ['\\', c]
  | c :: _ => some [c]

/-- The next token. -/
def peek : Reading (Option Text) := do return token? (← get).rest

/-- Makes a text what is left to read; a single backslash is no token. -/
def seek (rest : Text) : Reading Unit := do
  let s ← get
  if rest == ['\\'] then throw (.wrong .escapeAtEnd (some (s.length - 1)))
  set { s with rest }

/-- Takes the next token. -/
def take : Reading (Option Text) := do
  let rest := (← get).rest
  match token? rest with
  | none => return none
  | some t =>
    seek (rest.drop t.length)
    return some t

/-- Takes the next token if it is the given character. -/
def accept (c : Char) : Reading Bool := do
  if (← peek) == some [c] then
    let _ ← take
    return true
  return false

/-- Takes up to `n` tokens that are single characters accepted by `p`. -/
def takeUpTo (p : Char → Bool) : (n : Nat) → Reading Text
  | 0 => return []
  | n + 1 => do
    match ← peek with
    | some [c] =>
      if p c then
        let _ ← take
        return c :: (← takeUpTo p n)
      else return []
    | _ => return []

/-- Takes the tokens before the closing character, and that too. -/
def takeName (closing : Char) (what : Text) : (fuel : Nat) → (sofar : Text) → Reading Text
  | 0, sofar => return sofar
  | fuel + 1, sofar => do
    match ← take with
    | none =>
      if sofar.isEmpty then complain (.missingName what) 0
      else complain (.openName closing) sofar.length
    | some t =>
      if t == [closing] then
        if sofar.isEmpty then complain (.missingName what) 1 else return sofar
      else takeName closing what fuel (sofar ++ t)

/-- The name before a closing character. -/
def nameBefore (closing : Char) (what : Text) : Reading Text := do
  takeName closing what ((← get).rest.length + 1) []

/-- The name of a group, which has to be an identifier. -/
def groupName (closing : Char) : Reading Text := do
  let name ← nameBefore closing "group name"
  if Text.isIdentifier name then return name
  complain (.badName name) (name.length + 1)

end Reading

open Reading

/-! ### Escapes -/

/-- Whether `c` is an octal digit. -/
def isOctal (c : Char) : Bool := '0' ≤ c && c ≤ '7'

/-- The number that octal digits stand for. -/
def octalValue (t : Text) : Nat := t.foldl (fun n c => 8 * n + (c.toNat - 48)) 0

/-- The number that hexadecimal digits stand for. -/
def hexValue (t : Text) : Nat := t.foldl (fun n c => 16 * n + (Text.hexDigit? c).getD 0) 0

/-- The code point of a letter after a backslash, where that stands for a control character. -/
def controlEscape? (c : Char) : Option Nat :=
  match c with
  | 'a' => some 7
  | 'b' => some 8
  | 'f' => some 12
  | 'n' => some 10
  | 'r' => some 13
  | 't' => some 9
  | 'v' => some 11
  | '\\' => some 92
  | _ => none

/-- The class that a letter after a backslash stands for, and whether it is negated. -/
def categoryEscape? (c : Char) : Option (Category × Bool) :=
  match c with
  | 'd' => some (.digit, false)
  | 'D' => some (.digit, true)
  | 's' => some (.space, false)
  | 'S' => some (.space, true)
  | 'w' => some (.word, false)
  | 'W' => some (.word, true)
  | _ => none

/-- The condition that a letter after a backslash stands for. -/
def anchorEscape? (flags : Flags) (c : Char) : Option Anchor :=
  match c with
  | 'A' => some .textStart
  | 'b' => some (.boundary false flags.ascii)
  | 'B' => some (.boundary true flags.ascii)
  | 'Z' => some .textEnd
  | _ => none

/-- A code point written with a fixed number of hexadecimal digits. -/
def hexEscape (c : Char) (digits : Nat) : Reading Nat := do
  let ds ← takeUpTo (fun d => (Text.hexDigit? d).isSome) digits
  let written := '\\' :: c :: ds
  if ds.length < digits then complain (.escapeCutShort written) written.length
  let n := hexValue ds
  if 0x10FFFF < n then complain (.escapeUnknown written) written.length
  return n

/-- A code point given by the name of its character. No name is known. -/
def namedEscape : Reading Nat := do
  if ← accept '{' then
    let name ← nameBefore '}' "character name"
    complain (.unknownCharacter name) (name.length + 4)
  else complain .missingBrace 0

/-- The code point of an escape that means the same inside and outside of sets. -/
def commonEscape (c : Char) : Reading Nat := do
  match c with
  | 'x' => hexEscape c 2
  | 'u' => hexEscape c 4
  | 'U' => hexEscape c 8
  | 'N' => namedEscape
  | _ => if c.isAlpha then complain (.escapeUnknown ['\\', c]) 2 else return c.toNat

/-- An escape inside a set. -/
def setEscape (flags : Flags) (c : Char) : Reading Item := do
  match controlEscape? c, categoryEscape? c with
  | some n, _ => return .single n
  | _, some (k, negated) => return .category k negated flags.ascii
  | none, none =>
    if isOctal c then
      let ds ← takeUpTo isOctal 2
      let n := octalValue (c :: ds)
      if 0o377 < n then complain (.octalTooLarge ('\\' :: c :: ds)) (ds.length + 2)
      return .single n
    if c.isDigit then complain (.escapeUnknown ['\\', c]) 2
    return .single (← commonEscape c)

/-- Complains about a reference to a group that a look-behind around it holds. -/
def checkBehind (n : Nat) : Reading Unit := do
  let s ← get
  match s.behind with
  | none => return
  | some before =>
    if !(s.groups[n - 1]?.join).isSome then complain .openReference 0
    if before < n then complain .siblingReference 0

/-- A reference to the group of a number that is written with so many characters. -/
def reference (flags : Flags) (n written : Nat) : Reading Pattern := do
  match (← get).groups[n - 1]?.join with
  | none => complain .openReference written
  | some w =>
    checkBehind n
    return .reference n flags.folding w

/-- An escape that starts with a digit: a character in octal digits, or a group. -/
def digitEscape (flags : Flags) (c : Char) : Reading Pattern := do
  let literal (n : Nat) : Pattern := .one (.single flags.folding n)
  if c == '0' then
    return literal (octalValue (← takeUpTo isOctal 2))
  let second ← takeUpTo Char.isDigit 1
  let third ←
    if isOctal c && !second.isEmpty && second.all isOctal then takeUpTo isOctal 1 else pure []
  if !third.isEmpty then
    let ds := c :: second ++ third
    let n := octalValue ds
    if 0o377 < n then complain (.octalTooLarge ('\\' :: ds)) 4
    return literal n
  let n := Numeral.value (c :: second)
  if n ≤ (← get).groups.length then reference flags n (second.length + 2)
  else complain (.unknownReference n) (second.length + 1)

/-- An escape outside of sets. -/
def escape (flags : Flags) (c : Char) : Reading Pattern := do
  match categoryEscape? c, anchorEscape? flags c, controlEscape? c with
  | some (k, negated), _, _ =>
    return .one ⟨flags.folding, false, [.category k negated flags.ascii]⟩
  | _, some a, _ => return .anchor a
  | _, _, some n => return .one (.single flags.folding n)
  | none, none, none =>
    if c.isDigit then digitEscape flags c
    else return .one (.single flags.folding (← commonEscape c))

/-! ### Sets -/

/-- One end of a range, or one part of a set. -/
def setPart (flags : Flags) (t : Text) : Reading Item := do
  match t with
  | ['\\', c] => setEscape flags c
  | c :: _ => return .single c.toNat
  | [] => return .single 0

/-- The parts of a set up to its closing bracket; `here` is the place of the opening one. -/
def setItems (flags : Flags) (here : Nat) : (fuel : Nat) → (acc : List Item) → Reading (List Item)
  | 0, acc => return acc
  | fuel + 1, acc => do
    match ← take with
    | none => complainAt .openSet here
    | some this =>
      if this == [']'] && !acc.isEmpty then return acc
      let lo ← setPart flags this
      if ← accept '-' then
        match ← take with
        | none => complainAt .openSet here
        | some that =>
          if that == [']'] then return acc ++ [lo, .single '-'.toNat]
          let hi ← setPart flags that
          match lo, hi with
          | .single m, .single n =>
            if n < m then complain (.badRange this that) (this.length + 1 + that.length)
            setItems flags here fuel (acc ++ [.range m n])
          | _, _ => complain (.badRange this that) (this.length + 1 + that.length)
      else setItems flags here fuel (acc ++ [lo])

/-- A set after its opening bracket. -/
def charset (flags : Flags) : Reading Pattern := do
  let here := (← place) - 1
  let negated ← accept '^'
  let items ← setItems flags here ((← get).rest.length + 1) []
  return .one ⟨flags.folding, negated, items⟩

/-! ### Quantifiers -/

/-- The least number that is too large for repetitions. -/
def repeatLimit : Nat := 4294967295

/-- A number of repetitions. -/
def repeatCount (ds : Text) : Reading Nat := do
  if Numeral.maxDigits < ds.length then throw (.numeral (.tooLong ds.length))
  let n := Numeral.value ds
  if repeatLimit ≤ n then throw .repeatTooLarge
  return n

/-- The bounds in braces after the opening one, if there are such; otherwise nothing is taken. -/
def bounds? : Reading (Option (Nat × Option Nat)) := do
  let s ← get
  if (← peek) == some ['}'] then return none
  let here ← place
  let fuel := s.rest.length
  let lo ← takeUpTo Char.isDigit fuel
  let comma ← accept ','
  let hi ← if comma then takeUpTo Char.isDigit fuel else pure lo
  if !(← accept '}') then
    seek s.rest
    return none
  let least ← if lo.isEmpty then pure 0 else repeatCount lo
  if hi.isEmpty then return some (least, none)
  let most ← repeatCount hi
  if most < least then complainAt .crossedBounds here
  return some (least, some most)

/-- What is known of an atom when a quantifier follows it. -/
inductive AtomKind where
  | anchor
  | repetition
  | other
  deriving Repr, DecidableEq

/-- A pattern that a quantifier may follow. -/
abbrev Atom := AtomKind × Pattern

/-- Puts a quantifier on the last of the atoms, which are given last first. -/
def quantify (here : Nat) (least : Nat) (most : Option Nat) (atoms : List Atom) :
    Reading (List Atom) := do
  match atoms with
  | [] => complainAt .nothingToRepeat here
  | (.anchor, _) :: _ => complainAt .nothingToRepeat here
  | (.repetition, _) :: _ => complainAt .repeatedRepeat here
  | (.other, p) :: rest =>
    let repetition (e : Eagerness) : List Atom :=
      (.repetition, .repeated e least most p) :: rest
    if ← accept '?' then return repetition .lazy
    if ← accept '+' then return repetition .possessive
    return repetition .greedy

/-! ### Flags -/

/-- The letters of flags. -/
def isFlag (c : Char) : Bool := ['i', 'L', 'm', 's', 'x', 'a', 't', 'u'].contains c

/-- Whether a token is a letter. -/
def isLetter (t : Text) : Bool :=
  t.all fun c => Text.isWord c && !Text.isDigit c && c != '_'

/-- Complains about a token where a flag or the end of the flags has to stand. -/
def complainFlag {α : Type} (missing : Complaint) (t : Text) : Reading α :=
  complain (if isLetter t then .unknownFlag else missing) t.length

/-- Flags to be switched on, from the letter `c` on, and the character that ends them. -/
def flagsOn : (fuel : Nat) → Flags → Char → Reading (Flags × Char)
  | 0, f, c => return (f, c)
  | fuel + 1, f, c => do
    if c == 'L' then complain .localeFlag 0
    let f := f.on c
    if f.ascii && f.unicode then complain .clashingFlags 0
    match ← take with
    | none => complain .missingFlagEnd 0
    | some [d] =>
      if d == ')' || d == '-' || d == ':' then return (f, d)
      if isFlag d then flagsOn fuel f d else complainFlag .missingFlagEnd [d]
    | some t => complainFlag .missingFlagEnd t

/-- Flags to be switched off, from the letter `c` on, up to the colon. -/
def flagsOff : (fuel : Nat) → Flags → Char → Reading Flags
  | 0, f, _ => return f
  | fuel + 1, f, c => do
    if c == 'L' || c == 'a' || c == 'u' then complain .keptFlagOff 0
    let f := f.on c
    match ← take with
    | none => complain .missingColon 0
    | some [d] =>
      if d == ':' then return f
      if isFlag d then flagsOff fuel f d else complainFlag .missingColon [d]
    | some t => complainFlag .missingColon t

/-- Flags from their first character on: those of the whole pattern, or those that are switched on and
    off for a group. -/
def inlineFlags (c : Char) : Reading (Flags ⊕ Flags × Flags) := do
  let fuel := (← get).rest.length + 1
  let (on, ending) ← if c == '-' then pure (({} : Flags), '-') else flagsOn fuel {} c
  if ending == ')' then return .inl on
  if on.template then complain .globalFlagOn 1
  let off ←
    if ending == '-' then
      match ← take with
      | none => complain .missingFlag 0
      | some [d] => if isFlag d then flagsOff fuel {} d else complainFlag .missingFlag [d]
      | some t => complainFlag .missingFlag t
    else pure {}
  if off.template then complain .globalFlagOff 1
  if on.meets off then complain .flagOnAndOff 1
  return .inr (on, off)

/-! ### Groups and rows -/

/-- What stands after an opening parenthesis. -/
inductive Opening where
  /-- A group that is numbered. -/
  | numbered (name : Option Text)
  /-- A group that only holds its parts together, under its own flags. -/
  | plain (flags : Flags)
  | atomic
  | look (behind negated : Bool)
  | condition (n : Nat)
  /-- A whole atom. -/
  | done (p : Pattern)
  /-- Nothing that counts. -/
  | comment
  /-- Flags of the whole pattern. -/
  | globals (flags : Flags)

/-- Passes over a comment. -/
def skipComment (start : Nat) : (fuel : Nat) → Reading Unit
  | 0 => return
  | fuel + 1 => do
    match ← take with
    | none => complainAt .openComment start
    | some t => if t == [')'] then return else skipComment start fuel

/-- What follows `(?P`. -/
def namedOpening (flags : Flags) : Reading Opening := do
  if ← accept '<' then return .numbered (some (← groupName '>'))
  if ← accept '=' then
    let name ← groupName ')'
    match Ordered.get? (← get).names name with
    | none => complain (.unknownName name) (name.length + 1)
    | some n => return .done (← reference flags n (name.length + 1))
  match ← take with
  | none => complain .unexpectedEnd 0
  | some t => complain (.unknownExtension ('P' :: t)) (t.length + 2)

/-- The group that a condition names, by its name or its number. -/
def conditionGroup (name : Text) : Reading Nat := do
  let written := name.length + 1
  if Text.isIdentifier name then
    match Ordered.get? (← get).names name with
    | none => complain (.unknownName name) written
    | some n => return n
  match Numeral.readInt? name with
  | none => complain (.badName name) written
  | some n =>
    if n < 0 then complain (.badName name) written
    if n == 0 then complain .groupZero written
    if 1073741823 ≤ n then complain (.unknownReference n.toNat) written
    let here := (← place) - written
    modify fun s => { s with conditions := s.conditions ++ [(n.toNat, here)] }
    return n.toNat

/-- What follows `(?`; `start` is the place of the parenthesis. -/
def opening (flags : Flags) (start : Nat) : Reading Opening := do
  match ← take with
  | none => complain .unexpectedEnd 0
  | some ['P'] => namedOpening flags
  | some [':'] => return .plain flags
  | some ['#'] =>
    skipComment start ((← get).rest.length + 1)
    return .comment
  | some ['='] => return .look false false
  | some ['!'] => return .look false true
  | some ['<'] =>
    match ← take with
    | none => complain .unexpectedEnd 0
    | some ['='] => return .look true false
    | some ['!'] => return .look true true
    | some t => complain (.unknownExtension ('<' :: t)) (t.length + 2)
  | some ['('] =>
    let n ← conditionGroup (← nameBefore ')' "group name")
    checkBehind n
    return .condition n
  | some ['>'] => return .atomic
  | some t =>
    match t with
    | [c] =>
      if isFlag c || c == '-' then
        match ← inlineFlags c with
        | .inl on => return .globals on
        | .inr (on, off) => return .plain (flags.within on off)
      else complain (.unknownExtension t) (t.length + 1)
    | _ => complain (.unknownExtension t) (t.length + 1)

/-- Opens a numbered group and gives its number. -/
def openGroup (name : Option Text) : Reading Nat := do
  let s ← get
  let n := s.groups.length + 1
  match name with
  | none => set { s with groups := s.groups ++ [none] }
  | some t =>
    match Ordered.get? s.names t with
    | some old => complain (.takenName t n old) (t.length + 1)
    | none => set { s with groups := s.groups ++ [none], names := s.names.put t n }
  return n

/-- Closes the group of a number. -/
def closeGroup (n : Nat) (p : Pattern) : Reading Unit :=
  modify fun s => { s with groups := s.groups.set (n - 1) (some p.width) }

/-- The closing parenthesis of a group that was opened at `start`. -/
def closing (start : Nat) : Reading Unit := do
  if !(← accept ')') then complainAt .openGroup start

/-- The flags of the whole pattern switched on. -/
def globalFlags (on : Flags) : Reading Flags := do
  let s ← get
  let f := s.flags
  let flags : Flags := {
    ignoreCase := f.ignoreCase || on.ignoreCase
    multiline := f.multiline || on.multiline
    dotAll := f.dotAll || on.dotAll
    verbose := f.verbose || on.verbose
    ascii := f.ascii || on.ascii
    unicode := f.unicode || on.unicode
    template := f.template || on.template }
  set { s with flags }
  return flags

/-- White space inside a verbose pattern. -/
def isVerboseSpace (t : Text) : Bool :=
  match t with
  | [c] => c == ' ' || (9 ≤ c.toNat && c.toNat ≤ 13)
  | _ => false

/-- Passes over the rest of a line. -/
def skipLine : (fuel : Nat) → Reading Unit
  | 0 => return
  | fuel + 1 => do
    match ← take with
    | none => return
    | some t => if t == ['\n'] then return else skipLine fuel

/-- The bounds of a quantifier after its first character. -/
def quantifier? (c : Char) : Reading (Option (Nat × Option Nat)) := do
  match c with
  | '*' => return some (0, none)
  | '+' => return some (1, none)
  | '?' => return some (0, some 1)
  | '{' => bounds?
  | _ => return none

/-- An atom that is a single token other than an opening parenthesis. -/
def simpleAtom (flags : Flags) (t : Text) : Reading Atom := do
  let literal (c : Char) : Atom := (.other, .one (.single flags.folding c.toNat))
  match t with
  | ['\\', c] =>
    match ← escape flags c with
    | .anchor a => return (.anchor, .anchor a)
    | p => return (.other, p)
  | ['['] => return (.other, ← charset flags)
  | ['.'] => return (.other, .one (.any flags.dotAll))
  | ['^'] => return (.anchor, .anchor (if flags.multiline then .lineStart else .textStart))
  | ['$'] => return (.anchor, .anchor (if flags.multiline then .lineEnd else .lastLineEnd))
  | c :: _ => return literal c
  | [] => return (.other, .empty)

/-- The pattern of atoms, which are given last first. -/
def ofAtoms (atoms : List Atom) : Pattern := .row (atoms.reverse.map (·.2))

mutual

/-- The alternatives from here on; `outer` says whether they are those of the whole pattern, whose
    flags may have been switched on by the first of them. -/
def alternatives (outer first : Bool) : (fuel : Nat) → Flags → Reading (List Pattern)
  | 0, _ => return []
  | fuel + 1, flags => do
    let p := ofAtoms (← row first fuel flags [])
    if ← accept '|' then
      let s ← get
      let flags := if outer then s.flags else flags
      return p :: (← alternatives outer false fuel flags)
    else return [p]

/-- The atoms of a row after those that have been read, last first. Flags of the whole pattern may
    stand at the very start of it, which `first` says. -/
def row (first : Bool) : (fuel : Nat) → Flags → List Atom → Reading (List Atom)
  | 0, _, atoms => return atoms
  | fuel + 1, flags, atoms => do
    match ← peek with
    | none => return atoms
    | some t =>
      if t == ['|'] || t == [')'] then return atoms
      let _ ← take
      if flags.verbose && isVerboseSpace t then return ← row first fuel flags atoms
      if flags.verbose && t == ['#'] then
        skipLine ((← get).rest.length + 1)
        return ← row first fuel flags atoms
      if t == ['('] then
        let start := (← place) - 1
        let kind ← if ← accept '?' then opening flags start else pure (.numbered none)
        match kind with
        | .comment => row first fuel flags atoms
        | .globals on =>
          if !first || !atoms.isEmpty then complainAt .lateFlags start
          row first fuel (← globalFlags on) atoms
        | kind =>
          let p ← groupBody fuel flags start kind
          row first fuel flags ((.other, p) :: atoms)
      else
        let here := (← place) - 1
        match t with
        | [c] =>
          match ← quantifier? c with
          | some (least, most) => row first fuel flags (← quantify here least most atoms)
          | none => row first fuel flags ((← simpleAtom flags t) :: atoms)
        | _ => row first fuel flags ((← simpleAtom flags t) :: atoms)

/-- The rest of a group of the given kind up to its closing parenthesis. -/
def groupBody : (fuel : Nat) → Flags → (start : Nat) → Opening → Reading Pattern
  | 0, _, _, _ => return .empty
  | fuel + 1, flags, start, kind => do
    match kind with
    | .numbered name =>
      let n ← openGroup name
      let p := Pattern.oneOf (← alternatives false false fuel flags)
      closing start
      closeGroup n p
      return .group n p
    | .plain inner =>
      let p := Pattern.oneOf (← alternatives false false fuel inner)
      closing start
      return p
    | .atomic =>
      let p := Pattern.oneOf (← alternatives false false fuel flags)
      closing start
      return .atomic p
    | .look behind negated =>
      let outer := (← get).behind
      if behind && outer.isNone then
        modify fun s => { s with behind := some s.groups.length }
      let p := Pattern.oneOf (← alternatives false false fuel flags)
      if behind && outer.isNone then modify fun s => { s with behind := none }
      closing start
      return if behind then .behind negated p else .ahead negated p
    | .condition n =>
      let yes := ofAtoms (← row false fuel flags [])
      let no ←
        if ← accept '|' then
          let p := ofAtoms (← row false fuel flags [])
          if (← peek) == some ['|'] then complain .threeBranches 0
          pure p
        else pure .empty
      closing start
      return .conditional n yes no
    | .done p => return p
    | .comment => return .empty
    | .globals _ => return .empty

end

/-! ### Whole patterns -/

/-- The first complaint about a pattern that only the whole of it shows: a look-behind without a fixed
    width, or a repetition where none is allowed. -/
def complaint? (template : Bool) : Pattern → Option Complaint
  | .seq p q => (complaint? template p).or (complaint? template q)
  | .alt p q => (complaint? template p).or (complaint? template q)
  | .conditional _ p q => (complaint? template p).or (complaint? template q)
  | .group _ p => complaint? template p
  | .ahead _ p => complaint? template p
  | .atomic p => complaint? template p
  | .behind _ p =>
    if repeatLimit < p.width.least then some .lookBehindTooFar
    else if p.width.least != p.width.most then some .lookBehindWidth
    else complaint? template p
  | .repeated e _ _ p => if template then some (.templateRepeat e) else complaint? template p
  | _ => none

/-- A pattern, and how many groups it has. -/
structure Compiled where
  pattern : Pattern
  groups : Nat
  deriving Repr, DecidableEq

/-- Reads a whole pattern. -/
def whole (flags : Flags) : Reading Compiled := do
  seek (← get).rest
  let p := Pattern.oneOf (← alternatives true true (3 * (← get).length + 3) flags)
  let s ← get
  if s.flags.ascii && s.flags.unicode then throw .twoAlphabets
  if !s.rest.isEmpty then complain .unbalanced 0
  for (n, here) in s.conditions do
    if s.groups.length < n then complainAt (.unknownReference n) here
  match complaint? s.flags.template p with
  | some c => throw (.wrong c none)
  | none => return ⟨p, s.groups.length⟩

/-- The pattern that a text stands for under the given flags. -/
def compile (flags : Flags) (t : Text) : Except Refusal Compiled :=
  (whole flags { length := t.length, rest := t, flags }).map (·.1)

end PageQuery.Regexp
