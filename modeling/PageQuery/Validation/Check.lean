import PageQuery.Query.Parser
import PageQuery.Regexp.Matching
import PageQuery.Template
import PageQuery.Validation.Distance
import PageQuery.Validation.Report

namespace PageQuery.Validation

/-!
# Checking queries

Queries are checked without being run, so that whoever writes one is told where it is wrong.

* `checkScheme`, `checkParameters`, `checkVariables`, `checkOperators`: what is wrong;
* `checkRegexp`, `checkTemplate`: what may be wrong;
* `validate`: all of them.
-/

/-- A segment of a query with the place where it starts. -/
structure Placed where
  offset : Nat
  text : Text
  index : Nat
  deriving Repr, DecidableEq

/-! ### Schemes -/

/-- The names of the schemes. -/
def schemeNames : List Text := Query.Scheme.all.map (·.name)

/-- The line that lists the schemes. -/
def schemeLine : Text := "Valid schemes: " ++ Text.join ", " schemeNames

/-- Names of elements that are near the name of a scheme, or short. -/
def elementNames : List Text :=
  ["a", "b", "i", "p", "q", "s", "u", "br", "dd", "dl", "dt", "em", "h1", "h2", "h3", "h4", "h5",
    "h6", "hr", "li", "ol", "rp", "rt", "td", "th", "tr", "ul", "bdi", "bdo", "col", "del", "dfn",
    "div", "img", "ins", "kbd", "map", "nav", "pre", "sub", "sup", "var", "wbr", "abbr", "area",
    "base", "body", "cite", "code", "data", "form", "head", "html", "link", "main", "mark", "menu",
    "meta", "ruby", "samp", "span", "time"].map String.toList

/-- Whether a character is a lower-case ASCII letter. -/
def isLowerLetter (c : Char) : Bool := 'a' ≤ c && c ≤ 'z'

/-- What is wrong with the scheme of a segment: it is none, or the colon after it is missing. -/
def checkScheme (p : Placed) : List Finding :=
  let word := p.text.takeWhile isLowerLetter
  match word.isEmpty, p.text.drop word.length with
  | true, _ => []
  | false, ':' :: rest =>
    if schemeNames.contains word || Query.startsPseudoClass rest then []
    else
      let guess := suggest word schemeNames
      [{ message := "Invalid scheme \"" ++ word ++ "\""
         position := p.offset
         suggestion := if guess.isEmpty then [] else "Did you mean \"" ++ guess ++ "\"?"
         example_ := schemeLine
         part := p.index }]
  | false, _ =>
    if elementNames.contains word || (suggest word schemeNames).isEmpty then []
    else
      [{ message := "Missing \":\" after scheme \"" ++ word ++ "\""
         position := p.offset + word.length
         suggestion := "Use: " ++ word ++ ":path"
         example_ := schemeLine
         part := p.index }]

/-! ### Parameters -/

section

open Regexp (Pattern Charset)

/-- Any character but a slash, or any with a backslash before it. -/
def bodyChar : Pattern :=
  .alt (.seq (.one (.single .exact '\\'.toNat)) (.one (.any false)))
    (.one ⟨.exact, true, [.single '/'.toNat]⟩)

/-- Characters up to a slash. -/
def bodyPart : Pattern := .seq (.star .greedy bodyChar) (.one (.single .exact '/'.toNat))

/-- The body of a regular expression after its name, with one or two parts. -/
def regexpBody : Pattern :=
  .row [.literal .exact "regexp", .one ⟨.exact, false, [.single '='.toNat, .single ':'.toNat]⟩,
    .one (.single .exact '/'.toNat), bodyPart, .repeated .greedy 0 (some 1) bodyPart]

/-- The number of characters of the name before the body of a regular expression. -/
def regexpLead : Nat := 7

/-- Whether a place is inside the body of a regular expression. -/
def isMasked (bodies : List Regexp.Found) (i : Nat) : Bool :=
  bodies.any fun m => m.first.position + regexpLead ≤ i && i < m.last.position

end

/-- What is wrong with the parameters of a segment: question marks after the first one, except inside of
    regular expressions. -/
def checkParameters (p : Placed) : List Finding :=
  let (path, body) := Text.cut '?' p.text
  match body with
  | none => []
  | some body =>
    let bodies := regexpBody.all body
    (body.zipIdx.filter fun (c, i) => c == '?' && !isMasked bodies i).map fun (_, i) =>
      { message := "Multiple \"?\" found in parameters. Use \"&\" to separate parameters"
        position := p.offset + path.length + 1 + i
        suggestion := "Replace additional \"?\" with \"&\""
        example_ := "Example: ?param1=value&param2=value"
        part := p.index }

/-! ### Placeholders -/

/-- The place of the outermost placeholder that is not closed. `depth` says how many are open, `outer`
    where the first of them is. -/
def openPlace? : (depth : Nat) → (outer i : Nat) → Text → Option Nat
  | depth, outer, _, [] => if depth = 0 then none else some outer
  | depth, outer, i, '$' :: '\x7b' :: rest =>
    openPlace? (depth + 1) (if depth = 0 then i else outer) (i + 2) rest
  | depth, outer, i, c :: rest => openPlace? (if c = '\x7d' then depth - 1 else depth) outer (i + 1) rest

/-- What is wrong with the placeholders of a segment: one is not closed. -/
def checkVariables (p : Placed) : List Finding :=
  match openPlace? 0 0 0 p.text with
  | none => []
  | some i =>
    [{ message := "Unmatched \"$\x7b\" in variable syntax"
       position := p.offset + i
       example_ := "Variables should be: $\x7bvarName\x7d"
       part := p.index }]

/-- The placeholders of a text, which end at the next closing brace: where they start, and what is in
    them. The first argument counts characters of one still to be passed over. -/
def placeholdersFrom : Nat → (i : Nat) → Text → List (Nat × Text)
  | _, _, [] => []
  | skip + 1, i, _ :: rest => placeholdersFrom skip (i + 1) rest
  | 0, i, c :: rest =>
    match c, rest with
    | '$', '\x7b' :: inside =>
      match Text.cut '\x7d' inside with
      | (inner, some _) => (i, inner) :: placeholdersFrom (inner.length + 2) (i + 1) rest
      | (_, none) => placeholdersFrom 0 (i + 1) rest
    | _, _ => placeholdersFrom 0 (i + 1) rest

/-- The placeholders of a text: where they start, and what is in them. -/
def placeholders (t : Text) : List (Nat × Text) := placeholdersFrom 0 0 t

/-! ### Operators -/

/-- Whether a character may be part of an operator. -/
def isOperatorChar (c : Char) : Bool := c == '+' || c == '|' || c == '>'

/-- The operators in the order in which they are listed. -/
def operatorNames : List Text := ["++", "||", ">>", ">>>"]

/-- What may have been meant by something that is no operator, and an example. -/
def operatorHint (op : Text) : Text × Text :=
  if op == "+" || Text.startsWith "++" op then ("Did you mean \"++\"?", "Use: query1 ++ query2")
  else if op == "|" || Text.startsWith "||" op then
    ("Did you mean \"||\"?", "Use: query1 || query2")
  else if op == ">" then
    ("Did you mean \">>\" or \">>>\"?", "Use: query1 >> query2 or query1 >>> query2")
  else if 3 < op.length && op.all (· == '>') then
    ("Did you mean \">>>\" or \">>\"?", "Use: query1 >>> query2 or query1 >> query2")
  else ("Valid operators: " ++ Text.join ", " operatorNames, [])

/-- The runs of operator characters in a text, with the characters before and after them. `before` is
    the character before the text. -/
def operatorRuns (before : Option Char) (i : Nat) : (fuel : Nat) → Text →
    List (Nat × Option Char × Text × Option Char)
  | 0, _ => []
  | _ + 1, [] => []
  | fuel + 1, c :: rest =>
    if isOperatorChar c then
      let run := c :: rest.takeWhile isOperatorChar
      let after := rest.drop (run.length - 1)
      (i, before, run, after.head?) :: operatorRuns run.getLast? (i + run.length) fuel after
    else operatorRuns (some c) (i + 1) fuel rest

/-- Whether a character keeps operators apart, as the ends of a query do. -/
def isApart (c : Option Char) : Bool := c == none || c == some ' '

/-- What is wrong with the operators of a query: something between spaces looks like one and is none. -/
def checkOperators (query : Text) : List Finding :=
  let spans := (placeholders query).map fun (i, inner) => (i, i + inner.length + 3)
  let runs := operatorRuns none 0 (query.length + 1) query
  let wrong := runs.filter fun (i, before, run, after) =>
    !spans.any (fun (start, stop) => start ≤ i && i < stop) && isApart before && isApart after &&
      !operatorNames.contains run
  wrong.map fun (i, _, run, _) =>
    { message := "Invalid operator \"" ++ run ++ "\""
      position := i
      suggestion := (operatorHint run).1
      example_ := (operatorHint run).2 }

/-! ### Regular expressions -/

/-- The characters that are special in regular expressions, and what they do. -/
def specials : List (Char × Text) :=
  [('.', "matches any character"), ('*', "matches 0 or more of previous"),
    ('+', "matches 1 or more of previous"), ('?', "matches 0 or 1 of previous"),
    ('(', "starts capture group"), (')', "ends capture group"), ('[', "starts character class"),
    (']', "ends character class"), ('\x7b', "starts quantifier"), ('\x7d', "ends quantifier"),
    ('|', "alternation (OR)"), ('^', "matches start of string"), ('$', "matches end of string")]

/-- The first regular expression that a segment gives as a parameter, and where it starts. -/
def regexpParameter? (i : Nat) : Text → Option (Nat × Text)
  | [] => none
  | c :: rest =>
    let found : Option (Nat × Text) :=
      if c == '?' || c == '&' then
        (["transform=regexp:".toList, "regexp=".toList].findSome? fun lead =>
          (Text.after? lead rest).map fun t =>
            (i + 1 + lead.length, t.takeWhile fun c => !(c == '&' || Text.isSpace c))).filter
          fun (_, t) => !t.isEmpty
      else none
    match found with
    | some f => some f
    | none => regexpParameter? (i + 1) rest

/-- Whether each dot of a pattern is followed by a sign of repetition. -/
def dotsRepeat : Text → Bool
  | [] => true
  | '.' :: rest => (rest.head?.any fun c => c == '*' || c == '+' || c == '?') && dotsRepeat rest
  | _ :: rest => dotsRepeat rest

/-- Whether a special character in a pattern seems to be meant as one. -/
def isIntended (pattern : Text) (c : Char) : Bool :=
  Text.holds ['\\', c] pattern ||
  (c == '.' && dotsRepeat pattern) ||
  ((c == '*' || c == '+' || c == '?') && Text.holds ['.', c] pattern) ||
  (c == '^' && pattern.head? == some '^') ||
  (c == '$' && pattern.getLast? == some '$')

/-- What may be wrong with the first regular expression of a segment: a special character may have been
    meant as it is. -/
def checkRegexp (p : Placed) : List Finding :=
  match regexpParameter? 0 p.text with
  | none => []
  | some (place, t) =>
    match Query.splitUnescaped '/' t with
    | _ :: pattern :: _ =>
      match specials.find? fun (c, _) => pattern.contains c && !isIntended pattern c with
      | none => []
      | some (c, meaning) =>
        [{ message := "Unescaped special character \"" ++ c :: "\" in regexp pattern"
           position := p.offset + place + 1 + pattern.idxOf c
           suggestion := "In regex, \"" ++ c :: "\" " ++ meaning ++ ". If you want a literal \"" ++
             c :: "\", use \"\\" ++ [c, '"']
           part := p.index }]
    | _ => []

/-! ### Templates -/

/-- Whether a character may start the name of a variable. -/
def startsVariable (c : Char) : Bool := c.isAlpha || c == '_'

/-- The name of a variable at the start of a text. -/
def variableName? (t : Text) : Option Text :=
  match t with
  | c :: _ => if startsVariable c then some (t.takeWhile fun c => startsVariable c || c.isDigit) else none
  | [] => none

/-- The names in braces that no dollar sign precedes, and where the braces open. -/
def bareNames (before : Char) (i : Nat) : Text → List (Nat × Text)
  | [] => []
  | c :: rest =>
    let here : List (Nat × Text) :=
      match variableName? rest with
      | some name =>
        if c = '\x7b' && before != '$' && (rest.drop name.length).head? == some '\x7d' then
          [(i, name)]
        else []
      | none => []
    here ++ bareNames c (i + 1) rest

/-- The names after dollar signs without braces, and where the dollar signs are. -/
def unbracedNames (i : Nat) : Text → List (Nat × Text)
  | [] => []
  | c :: rest =>
    let here : List (Nat × Text) :=
      match variableName? rest with
      | some name => if c = '$' then [(i, name)] else []
      | none => []
    here ++ unbracedNames (i + 1) rest

/-- A name as a placeholder. -/
def asPlaceholder (name : Text) : Text := "$\x7b" ++ name ++ "\x7d"

/-- What may be wrong with a placeholder. -/
def checkPlaceholder (inner : Text) : Option (Text × Text) :=
  let trimmed := Text.trim inner
  if trimmed.isEmpty then
    some ("Empty template variable",
      "Template variables should contain a variable name: $\x7bvarName\x7d")
  else if trimmed != inner then
    some ("Template variable has leading/trailing whitespace",
      "Use \"" ++ asPlaceholder trimmed ++ "\" instead of \"" ++ asPlaceholder inner ++ "\"")
  else none

/-- What may be wrong with a template: variables that are not written as placeholders, and placeholders
    that are empty or have spaces in them. -/
def checkTemplate (p : Placed) : List Finding :=
  match Text.after? "template:" p.text with
  | none => []
  | some content =>
    let base := p.offset + "template:".length
    let at_ (i : Nat) (message suggestion : Text) : Finding :=
      { message, position := base + i, suggestion, part := p.index }
    (bareNames ' ' 0 content).map (fun (i, name) =>
      at_ i "Template variable missing \"$\" prefix"
        ("Use \"" ++ asPlaceholder name ++ "\" instead of \"\x7b" ++ name ++
          "\x7d\" for variable substitution")) ++
    (placeholders content).filterMap (fun (i, inner) =>
      (checkPlaceholder inner).map fun (message, suggestion) => at_ i message suggestion) ++
    (unbracedNames 0 content).map fun (i, name) =>
      at_ i "Possible template variable without braces"
        ("Use \"" ++ asPlaceholder name ++ "\" instead of \"$" ++ name ++
          "\" for variable substitution")

/-! ### Whole queries -/

/-- The stretches of text between operators, without white space around them, and where they start.
    Stretches without text are left out. -/
def stretches (offset : Nat) : List Query.Lexeme → List (Nat × Text)
  | [] => []
  | .separator op :: rest => stretches (offset + op.length) rest
  | .plain t :: rest =>
    let trimmed := Text.trim t
    let here := offset + (t.length - (Text.trimLeft t).length)
    let others := stretches (offset + t.length) rest
    if trimmed.isEmpty then others else (here, trimmed) :: others

/-- The segments of a query and where they start. -/
def segmentsOf (query : Text) : List Placed :=
  (stretches 0 (Query.split Query.operators query)).zipIdx.map fun ((offset, text), index) =>
    ⟨offset, text, index⟩

/-- The operators of a query. -/
def operatorsOf (query : Text) : List Text :=
  ((Query.split Query.operators query).filter (·.isSeparator)).map (·.text)

/-- A segment as it is read; one that cannot be read counts as a path in a document. -/
def partOf (required piped : Bool) (t : Text) : Part :=
  match Query.parseSegment t required piped with
  | .ok s => ⟨s.scheme.name, s.path, s.parameters, s.transforms.entries, s.piped, s.required⟩
  | .error _ => ⟨"html", t, [], [], piped, required⟩

/-- The segments as they are read, with the operators before those after the first. -/
def partsOf : (required piped : Bool) → (operators : List Text) → List Placed → List Part
  | _, _, _, [] => []
  | required, piped, [], p :: rest => partOf required piped p.text :: partsOf required piped [] rest
  | required, piped, op :: operators, p :: rest =>
    let pipes := op == Query.pipeMark || op == Query.arrayPipeMark
    partOf required piped p.text :: partsOf (pipes || op == Query.joinMark) pipes operators rest

/-- What a query is made of. -/
def summaryOf (query : Text) : Summary :=
  ⟨partsOf true false (operatorsOf query) (segmentsOf query), operatorsOf query, Template.names query⟩

/-- The report on a query. -/
def validate (query : Text) : Report :=
  let parts := segmentsOf query
  let errors := parts.flatMap (fun p => checkScheme p ++ checkParameters p ++ checkVariables p) ++
    checkOperators query
  let warnings := parts.flatMap fun p => checkRegexp p ++ checkTemplate p
  ⟨query, errors, warnings, if errors.isEmpty && !query.isEmpty then some (summaryOf query) else none⟩

end PageQuery.Validation
