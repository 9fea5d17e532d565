import PageQuery.Value.Stamp
import PageQuery.Yaml.Line

namespace PageQuery.Yaml

/-!
# Kinds of YAML nodes

* `Kind`: the kinds that have a meaning here;
* `Kind.ofTag`: the kind that a tag names;
* `Kind.ofText`: the kind of a plain scalar, which depends on its text.
-/

/-- A kind of nodes. -/
inductive Kind where
  | null
  | bool
  | int
  | float
  | binary
  | stamp
  | orderedMap
  | pairs
  | text
  | sequence
  | mapping
  /-- The key of entries that are to be merged into a mapping. -/
  | merge
  /-- The key of the value that stands for a whole mapping. -/
  | default
  /-- A kind without a meaning. -/
  | unknown
  deriving Repr, DecidableEq

namespace Kind

/-- The words for the kinds in tags. -/
def words : List (String × Kind) := [("null", .null), ("bool", .bool), ("int", .int),
  ("float", .float), ("binary", .binary), ("timestamp", .stamp), ("omap", .orderedMap),
  ("pairs", .pairs), ("str", .text), ("seq", .sequence), ("map", .mapping), ("merge", .merge),
  ("value", .default)]

/-- The kind that a tag names. -/
def ofTag (tag : Text) : Kind :=
  match Text.after? "tag:yaml.org,2002:" tag with
  | none => .unknown
  | some word => ((words.find? fun (w, _) => w.toList == word).map (·.2)).getD .unknown

/-! ### Plain scalars -/

/-- The truth value of a word. -/
def truth? (low : Text) : Option Bool :=
  if (["yes", "true", "on"].map String.toList).contains low then some true
  else if (["no", "false", "off"].map String.toList).contains low then some false
  else none

/-- Whether a text is a word for a truth value, in small letters, with a capital one, or in capitals. -/
def isBool (t : Text) : Bool :=
  let low := t.map Char.toLower
  (truth? low).isSome &&
    (t == low || t == t.map Char.toUpper ||
      t == (low.take 1).map Char.toUpper ++ low.drop 1)

/-- Whether a text is one of the signs and words for the absence of a value. -/
def isNull (t : Text) : Bool := (["", "~", "null", "Null", "NULL"].map String.toList).contains t

/-- A text without a sign at its start. -/
def unsigned (t : Text) : Text :=
  match t with
  | '+' :: rest => rest
  | '-' :: rest => rest
  | _ => t

/-- Digits and underscores. -/
def isDigitOrBar (c : Char) : Bool := c.isDigit || c == '_'

/-- Whether a text is a digit with more digits and underscores after it. -/
def isGrouped (t : Text) : Bool :=
  match t with
  | c :: rest => c.isDigit && rest.all isDigitOrBar
  | [] => false

/-- Whether a text is the numeral of a part of an hour or a minute. -/
def isSixtieth (t : Text) : Bool :=
  match t with
  | [c] => c.isDigit
  | [a, c] => '0' ≤ a && a ≤ '5' && c.isDigit
  | _ => false

/-- Whether a text is a whole number: binary, octal, decimal, hexadecimal, or in sixtieths. -/
def isInt (t : Text) : Bool :=
  match unsigned t with
  | '0' :: 'b' :: rest => !rest.isEmpty && rest.all fun c => c == '0' || c == '1' || c == '_'
  | '0' :: 'x' :: rest => !rest.isEmpty && rest.all fun c => (Text.hexDigit? c).isSome || c == '_'
  | '0' :: rest => rest.all fun c => ('0' ≤ c && c ≤ '7') || c == '_'
  | body =>
    match Text.split ':' body with
    | first :: parts => isGrouped first && parts.all isSixtieth
    | [] => false

/-- Whether a text is empty or an exponent with its sign. -/
def isExponent (t : Text) : Bool :=
  match t with
  | [] => true
  | e :: sign :: ds =>
    (e == 'e' || e == 'E') && (sign == '+' || sign == '-') && !ds.isEmpty && ds.all Char.isDigit
  | _ => false

/-- Whether a text is a number with a point. -/
def isFloat (t : Text) : Bool :=
  let body := unsigned t
  (["inf", "Inf", "INF"].map fun w => '.' :: w.toList).contains body ||
    (["nan", "NaN", "NAN"].map fun w => '.' :: w.toList).contains t ||
    match Text.cut '.' body with
    | (_, none) => false
    | (before, some after) =>
      let places := after.takeWhile isDigitOrBar
      let rest := after.dropWhile isDigitOrBar
      match Text.split ':' before with
      | [[]] => t.head? == some '.' && isGrouped places && isExponent rest
      | [first] => isGrouped first && isExponent rest
      | first :: parts => isGrouped first && parts.all isSixtieth && rest.isEmpty
      | [] => false

/-! ### Days and moments -/

/-- The numerals of a day or a moment. -/
structure StampText where
  year : Text
  month : Text
  day : Text
  time : Option (Text × Text × Text)
  fraction : Text
  /-- The sign, the hours and the minutes of the distance from universal time; no hours stand for
      universal time itself. -/
  zone : Option (Bool × Text × Text)
  deriving Repr, DecidableEq

/-- Digits at the start of a text, at least `lo` and at most `hi` of them. -/
def someDigits? (lo hi : Nat) (t : Text) : Option (Text × Text) :=
  let ds := (t.take hi).takeWhile Char.isDigit
  if ds.length < lo then none else some (ds, t.drop ds.length)

/-- The distance from universal time, if a text holds nothing else. -/
def zone? (t : Text) : Option (Option (Bool × Text × Text)) :=
  match t with
  | [] => some none
  | _ =>
    match t.dropWhile isBlank with
    | ['Z'] => some (some (false, [], []))
    | sign :: rest => do
      if sign != '+' && sign != '-' then none
      let (hours, rest) ← someDigits? 1 2 rest
      match rest with
      | [] => some (some (sign == '-', hours, []))
      | ':' :: rest => do
        let (minutes, rest) ← someDigits? 2 2 rest
        if rest.isEmpty then some (some (sign == '-', hours, minutes)) else none
      | _ => none
    | [] => none

/-- The text after the sign or the blanks between day and time. -/
def afterDay? (t : Text) : Option Text :=
  match t with
  | 'T' :: rest => some rest
  | 't' :: rest => some rest
  | c :: _ => if isBlank c then some (t.dropWhile isBlank) else none
  | [] => none

/-- The numerals of a text that is a day or a moment. -/
def stampText? (t : Text) : Option StampText := do
  let (year, rest) ← someDigits? 4 4 t
  let (month, rest) ← someDigits? 1 2 (← Text.after? "-" rest)
  let (day, rest) ← someDigits? 1 2 (← Text.after? "-" rest)
  if rest.isEmpty then return ⟨year, month, day, none, [], none⟩
  let (hour, rest) ← someDigits? 1 2 (← afterDay? rest)
  let (minute, rest) ← someDigits? 2 2 (← Text.after? ":" rest)
  let (second, rest) ← someDigits? 2 2 (← Text.after? ":" rest)
  let (fraction, rest) := match rest with
    | '.' :: more => (more.takeWhile Char.isDigit, more.dropWhile Char.isDigit)
    | _ => ([], rest)
  return ⟨year, month, day, some (hour, minute, second), fraction, ← zone? rest⟩

/-- Whether a plain scalar is a day or a moment; a day without time has two digits for month and day. -/
def isStamp (t : Text) : Bool :=
  match stampText? t with
  | none => false
  | some s => s.time.isSome || (s.month.length == 2 && s.day.length == 2)

/-- The kind of a plain scalar. -/
def ofText (t : Text) : Kind :=
  if isBool t then .bool
  else if isFloat t then .float
  else if isInt t then .int
  else if t = "<<" then .merge
  else if isNull t then .null
  else if isStamp t then .stamp
  else if t = "=" then .default
  else if t = "!" || t = "&" || t = "*" then .unknown
  else .text

end Kind

end PageQuery.Yaml
