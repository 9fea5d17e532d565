import PageQuery.Html.Entity
import PageQuery.Html.Tree

namespace PageQuery.Html

/-!
# The tokens of HTML

* `decode`: character references replaced by what they stand for;
* `Token`: tags, text and comments;
* `tokens`: the tokens of a document. What follows a tag such as `<script>` is read differently, so
  the way of reading is carried along as a `Mode`.
-/

/-- The white space of HTML. -/
def isBlankChar (c : Char) : Bool :=
  c == ' ' || c == '\t' || c == '\n' || c == '\x0c' || c == '\r'

/-! ### Character references -/

/-- What the numbers from 128 to 159 stand for: the characters that Windows has there. -/
def windows : List Nat :=
  [0x20AC, 0x81, 0x201A, 0x192, 0x201E, 0x2026, 0x2020, 0x2021, 0x2C6, 0x2030, 0x160, 0x2039,
    0x152, 0x8D, 0x17D, 0x8F, 0x90, 0x2018, 0x2019, 0x201C, 0x201D, 0x2022, 0x2013, 0x2014, 0x2DC,
    0x2122, 0x161, 0x203A, 0x153, 0x9D, 0x17E, 0x178]

/-- The character that a number in a reference stands for. -/
def numbered (n : Nat) : Char :=
  if n = 0 || 0x110000 ≤ n || (0xD800 ≤ n && n < 0xE000) then '\uFFFD'
  else Char.ofNat (if 128 ≤ n then windows[n - 128]?.getD n else n)

/-- The reference by number after `&#`, with the count of characters that it takes there. -/
def numberedReference? (t : Text) : Option (Text × Nat) :=
  let (lead, base, isDigit) : Nat × Nat × (Char → Bool) :=
    match t with
    | 'x' :: _ | 'X' :: _ => (1, 16, fun c => (Text.hexDigit? c).isSome)
    | _ => (0, 10, fun c => c.isDigit)
  let digits := (t.drop lead).takeWhile isDigit
  if digits.isEmpty then none
  else
    let n := digits.foldl (fun n c => n * base + (Text.hexDigit? c).getD 0) 0
    let stop := lead + digits.length
    some ([numbered n], if (t.drop stop).head? = some ';' then stop + 1 else stop)

/-- The reference after an ampersand, with the count of characters that it takes there. Inside an
    attribute a name without a semicolon counts only where no letter, digit or `=` follows. -/
def reference? (inAttribute : Bool) : Text → Option (Text × Nat)
  | '#' :: t => (numberedReference? t).map fun (chars, n) => (chars, n + 1)
  | t =>
    match Entity.longest? t with
    | none => none
    | some named =>
      let follows : Bool :=
        match t.drop named.name.length with
        | c :: _ => c == '=' || c.isAlphanum
        | [] => false
      if inAttribute && follows && named.name.getLast? != some ';' then none
      else some (named.characters, named.name.length)

/-- The references in a text replaced. The number counts characters of a reference still to be passed
    over. -/
def decodeFrom (inAttribute : Bool) : Nat → Text → Text
  | _, [] => []
  | skip + 1, _ :: rest => decodeFrom inAttribute skip rest
  | 0, c :: rest =>
    if c = '&' then
      match reference? inAttribute rest with
      | some (chars, n) => chars ++ decodeFrom inAttribute n rest
      | none => c :: decodeFrom inAttribute 0 rest
    else c :: decodeFrom inAttribute 0 rest

/-- The references in a text replaced by what they stand for. -/
def decode (inAttribute : Bool) (t : Text) : Text := decodeFrom inAttribute 0 t

/-! ### Attributes -/

/-- The attributes that need no value, because being there is all they say. -/
def isFlag (name : Text) : Bool :=
  (["checked", "compact", "declare", "defer", "disabled", "ismap", "multiple", "nohref",
    "noresize", "noshade", "nowrap", "readonly", "selected"].map String.toList).contains name

/-- The value at the start of a text that follows an equals sign, and the rest. -/
def attributeValue (t : Text) : Text × Text :=
  match t with
  | '"' :: rest => quoted '"' rest
  | '\'' :: rest => quoted '\'' rest
  | _ =>
    let value := t.takeWhile fun c => !(isBlankChar c || c == '>')
    (decode true value, t.drop value.length)
where
  /-- The value up to a closing quote. -/
  quoted (quote : Char) (t : Text) : Text × Text :=
    let (value, rest) := Text.cut quote t
    (decode true value, rest.getD [])

/-- One attribute at the start of a text, which must not be empty, and the rest. -/
def readAttribute (t : Text) : Attribute × Text :=
  let tail := (t.drop 1).takeWhile fun c => !(isBlankChar c || c == '/' || c == '>' || c == '=')
  let name := (t.take 1 ++ tail).map Char.toLower
  match (t.drop name.length).dropWhile isBlankChar with
  | '=' :: rest =>
    let (value, rest) := attributeValue (rest.dropWhile isBlankChar)
    (⟨name, some value⟩, rest)
  | rest => (⟨name, if isFlag name then some name else none⟩, rest)

/-- The inside of a tag after its name: the attributes, the first of a name only; whether the tag
    closes itself; and what follows the tag. -/
def tagInside : (fuel : Nat) → (seen : List Attribute) → Text → List Attribute × Bool × Text
  | 0, seen, t => (seen.reverse, false, t)
  | fuel + 1, seen, t =>
    match t.dropWhile isBlankChar with
    | [] => (seen.reverse, false, [])
    | '>' :: rest => (seen.reverse, false, rest)
    | '/' :: '>' :: rest => (seen.reverse, true, rest)
    | '/' :: rest => tagInside fuel seen rest
    | t =>
      let (a, rest) := readAttribute t
      tagInside fuel (if seen.any (·.name == a.name) then seen else a :: seen) rest

/-! ### Tokens -/

/-- A piece of a document. -/
inductive Token where
  | text (content : Text)
  | comment (content : Text)
  | start (name : Text) (attributes : List Attribute) (closed : Bool)
  | stop (name : Text)
  deriving Repr, DecidableEq

/-- How the text after a tag is to be read. -/
inductive Mode where
  /-- Markup. -/
  | markup
  /-- Text up to the end tag of an element, with or without character references. -/
  | verbatim (name : Text) (references : Bool)
  /-- Text up to the end of the document. -/
  | plain
  deriving Repr, DecidableEq

/-- Whether the text in an element stands as it is, without character references. -/
def isRaw (name : Text) : Bool :=
  (["script", "style", "xmp", "iframe", "noembed", "noframes", "plaintext"].map String.toList).contains
    name

/-- How the text after the start tag of an element is to be read. -/
def Mode.after (name : Text) : Mode :=
  if name = "plaintext" then .plain
  else if isRaw name then .verbatim name false
  else if (["title", "textarea"].map String.toList).contains name then .verbatim name true
  else .markup

/-- The text before the end tag of an element, and the text from there. -/
def beforeEndTag (name : Text) : Text → Text × Text
  | [] => ([], [])
  | c :: rest =>
    let closes : Bool :=
      ((c :: rest).take (name.length + 2)).map Char.toLower == '<' :: '/' :: name &&
        match rest.drop (name.length + 1) with
        | [] => false
        | d :: _ => isBlankChar d || d == '/' || d == '>'
    if closes then ([], c :: rest)
    else
      let (before, after) := beforeEndTag name rest
      (c :: before, after)

/-- The content of a comment, and what follows it. -/
def commentContent : Text → Text × Text
  | '-' :: '-' :: '>' :: rest => ([], rest)
  | '-' :: '-' :: '!' :: '>' :: rest => ([], rest)
  | c :: rest =>
    let (content, rest) := commentContent rest
    (c :: content, rest)
  | [] => ([], [])

/-- The content of something that ends at the next `>`, and what follows it. -/
def upToBracket (t : Text) : Text × Text :=
  let (content, rest) := Text.cut '>' t
  (content, rest.getD [])

/-- Whether a text starts with the word `doctype`, in any case. -/
def isDoctype (t : Text) : Bool := (t.take 7).map Char.toLower == "doctype"

/-- The name at the start of a tag, and the rest. -/
def tagName (t : Text) : Text × Text :=
  let name := t.takeWhile fun c => !(isBlankChar c || c == '/' || c == '>')
  (name.map Char.toLower, t.drop name.length)

/-- The next piece of a document in markup, if it gives a token; how to read on; and the rest. -/
def nextPiece : Text → Option Token × Mode × Text
  | '<' :: '!' :: '-' :: '-' :: '>' :: rest => (some (.comment []), .markup, rest)
  | '<' :: '!' :: '-' :: '-' :: '-' :: '>' :: rest => (some (.comment []), .markup, rest)
  | '<' :: '!' :: '-' :: '-' :: rest =>
    let (content, rest) := commentContent rest
    (some (.comment content), .markup, rest)
  | '<' :: '!' :: rest =>
    let (content, after) := upToBracket rest
    (if isDoctype rest then none else some (.comment content), .markup, after)
  | '<' :: '?' :: rest =>
    let (content, after) := upToBracket ('?' :: rest)
    (some (.comment content), .markup, after)
  | ['<', '/'] => (some (.text "</"), .markup, [])
  | '<' :: '/' :: '>' :: rest => (none, .markup, rest)
  | '<' :: '/' :: c :: rest =>
    if c.isAlpha then
      let (name, inside) := tagName (c :: rest)
      let (_, _, after) := tagInside (inside.length + 1) [] inside
      (some (.stop name), .markup, after)
    else
      let (content, after) := upToBracket (c :: rest)
      (some (.comment content), .markup, after)
  | '<' :: c :: rest =>
    if c.isAlpha then
      let (name, inside) := tagName (c :: rest)
      let (attributes, closed, after) := tagInside (inside.length + 1) [] inside
      (some (.start name attributes closed), if closed then .markup else .after name, after)
    else (some (.text "<"), .markup, c :: rest)
  | '<' :: [] => (some (.text "<"), .markup, [])
  | t =>
    let content := t.takeWhile (· != '<')
    (some (.text (decode false content)), .markup, t.drop content.length)

/-- The next piece of a document. -/
def piece (mode : Mode) (t : Text) : Option Token × Mode × Text :=
  match mode with
  | .markup => nextPiece t
  | .plain => (some (.text t), .markup, [])
  | .verbatim name references =>
    let (content, after) := beforeEndTag name t
    let content := if references then decode false content else content
    (if content.isEmpty then none else some (.text content), .markup, after)

/-- The tokens of a document, of which at most `fuel` pieces are read. -/
def tokensFrom : (fuel : Nat) → Mode → Text → List Token
  | 0, _, _ => []
  | _ + 1, _, [] => []
  | fuel + 1, mode, t =>
    match piece mode t with
    | (none, mode, rest) => tokensFrom fuel mode rest
    | (some token, mode, rest) => token :: tokensFrom fuel mode rest

/-- A text with every line ended by one line feed. -/
def unifyLines : Text → Text
  | '\r' :: '\n' :: rest => '\n' :: unifyLines rest
  | '\r' :: rest => '\n' :: unifyLines rest
  | c :: rest => c :: unifyLines rest
  | [] => []

/-- The tokens of a document. A piece is never empty except before an end tag, so twice the length of
    the text is enough fuel. -/
def tokens (t : Text) : List Token :=
  let t := unifyLines t
  tokensFrom (2 * t.length) .markup t

end PageQuery.Html
