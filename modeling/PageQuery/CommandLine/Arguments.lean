import PageQuery.Text.Basic

namespace PageQuery.CommandLine

/-!
# Arguments of the command line

The first two arguments that are no options are the query and the source; a single one is the source.
Options may be shortened to any beginning that only one of them has.

* `Options`: what the arguments ask for;
* `parse`: the options of a list of arguments.
-/

/-- What the arguments ask for. -/
structure Options where
  query : Option Text := none
  source : Text := []
  url : Option Text := none
  yaml : Bool := false
  /-- Names with values, as they were given. -/
  assigned : List Text := []
  validates : Bool := false
  level : Option Text := none
  deriving Repr, DecidableEq

/-- Why there are no options. -/
inductive Refusal where
  /-- An explanation was asked for. -/
  | help
  /-- The arguments do not fit. -/
  | misuse
  deriving Repr, DecidableEq

/-- The options. -/
inductive Flag where
  | help
  | url
  | format
  | assignment
  | validate
  | level
  deriving Repr, DecidableEq

/-- The spellings of the options. -/
def spellings : List (String × Flag) := [("-h", .help), ("--help", .help), ("--url", .url),
  ("--format", .format), ("--var", .assignment), ("--validate", .validate), ("--log-level", .level)]

/-- What an argument is. -/
inductive Word where
  | plain (t : Text)
  /-- Two hyphens, after which there are no options. -/
  | stop
  /-- An option with a value that is part of the argument; an unknown one has no flag. -/
  | option (flag : Option Flag) (value : Option Text)
  deriving Repr, DecidableEq

/-- The option with a spelling. -/
def flag? (t : Text) : Option Flag := (spellings.find? fun (s, _) => s.toList == t).map (·.2)

/-- The options whose spelling begins with a text. -/
def flagsFrom (t : Text) : List Flag :=
  (spellings.filter fun (s, _) => Text.startsWith t s.toList).map (·.2)

/-- Whether a text is a negative number. -/
def isNegativeNumber (t : Text) : Bool :=
  match t with
  | '-' :: rest =>
    match Text.cut '.' rest with
    | (whole, none) => !whole.isEmpty && whole.all Char.isDigit
    | (whole, some part) => whole.all Char.isDigit && !part.isEmpty && part.all Char.isDigit
  | _ => false

/-- An option with a value after an equals sign. The one for an explanation has none, and an equals sign in
    place of its value says so. -/
def withValue (f : Flag) (v : Text) : Word :=
  .option (some f) (some (if f = .help then ['='] else v))

/-- What an argument is that begins with a hyphen and is not spelled like an option: the beginning of
    one, or an unknown one. Numbers, and texts with a space, are no options. -/
def unspelled (t : Text) : Except Refusal Word :=
  let (body, value) := Text.cut '=' t
  let plainOr : Word := if isNegativeNumber t || t.contains ' ' then .plain t else .option none none
  if Text.startsWith "--" t then
    match flagsFrom body with
    | [] => .ok plainOr
    | [f] => .ok ((value.map (withValue f)).getD (.option (some f) none))
    | _ => .error .misuse
  else match t with
    | '-' :: 'h' :: rest => .ok (.option (some .help) (some rest))
    | _ => .ok plainOr

/-- What an argument is. -/
def wordOf (t : Text) : Except Refusal Word :=
  match t with
  | '-' :: _ :: _ =>
    match flag? t with
    | some f => .ok (.option (some f) none)
    | none =>
      let (body, value) := Text.cut '=' t
      match flag? body, value with
      | some f, some v => .ok (withValue f v)
      | _, _ => unspelled t
  | _ => .ok (.plain t)

/-- What the arguments are. -/
def wordsOf : List Text → Except Refusal (List Word)
  | [] => .ok []
  | t :: rest =>
    if t = "--" then .ok (.stop :: rest.map .plain)
    else do
      let w ← wordOf t
      return w :: (← wordsOf rest)

/-- Options with the value of one of them set. -/
def Options.set (o : Options) (f : Flag) (v : Text) : Except Refusal Options :=
  match f with
  | .url => .ok { o with url := some v }
  | .assignment => .ok { o with assigned := o.assigned ++ [v] }
  | .level => .ok { o with level := some v }
  | .format =>
    if v = "json" then .ok { o with yaml := false }
    else if v = "yaml" then .ok { o with yaml := true }
    else .error .misuse
  | _ => .error .misuse

/-- The plain words at the start of words, and those after them. -/
def plainRun : List Word → List Text × List Word
  | .plain t :: rest =>
    let (ts, after) := plainRun rest
    (t :: ts, after)
  | .stop :: rest => plainRun rest
  | rest => ([], rest)

/-- The options of words, after some that have been read. `filled` says that the plain words that count
    have been read, and `bad` that words have been found that have no place. -/
def read (o : Options) (filled bad : Bool) : (fuel : Nat) → List Word → Except Refusal Options
  | 0, _ => .error .misuse
  | _ + 1, [] => if bad || !filled then .error .misuse else .ok o
  | fuel + 1, .option none _ :: rest => read o filled true fuel rest
  | fuel + 1, .option (some f) value :: rest =>
    match f, value with
    | .help, none => .error .help
    | .help, some v => .error (if v.head?.any fun c => c == '=' || c == '-' then .misuse else .help)
    | .validate, none => read { o with validates := true } filled bad fuel rest
    | .validate, some _ => .error .misuse
    | f, some v => do read (← o.set f v) filled bad fuel rest
    | f, none =>
      match rest with
      | .plain v :: rest => do read (← o.set f v) filled bad fuel rest
      | _ => .error .misuse
  | fuel + 1, words =>
    let (ts, rest) := plainRun words
    match filled, ts with
    | false, [source] => read { o with source } true bad fuel rest
    | false, [query, source] => read { o with query := some query, source } true bad fuel rest
    | false, query :: source :: _ => read { o with query := some query, source } true true fuel rest
    | _, _ => read o filled true fuel rest

/-- The options of a list of arguments. -/
def parse (arguments : List Text) : Except Refusal Options := do
  let words ← wordsOf arguments
  read {} false false (words.length + 1) words

end PageQuery.CommandLine
