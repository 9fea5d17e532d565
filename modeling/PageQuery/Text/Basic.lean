namespace PageQuery

/-!
# Texts

A text is a list of Unicode characters, so that lengths and positions count characters.

* `Text`: the type, with string literals read into it;
* `Text.trim`, `Text.isBlank`: the rule for white space, which is Unicode's and not only ASCII's;
* `Text.cut`, `Text.pieces`, `Text.find?`, `Text.replace`: looking for one text in another;
* `Text.ofNat`, `Text.ofInt`: numerals;
* `Text.glob`: whether a pattern with `*` for any characters and `?` for one of them fits a text.
-/

/-- A text is the list of its characters. -/
abbrev Text := List Char

instance : Coe String Text := ⟨String.toList⟩

namespace Text

/-- The text as a string, for output. -/
def toString (t : Text) : String := String.ofList t

/-- Whether one of the inclusive ranges of code points holds `c`. -/
def inRanges (ranges : List (Nat × Nat)) (c : Char) : Bool :=
  ranges.any fun (lo, hi) => lo ≤ c.toNat && c.toNat ≤ hi

/-! ### White space -/

/-- The characters that count as white space. -/
def isSpace (c : Char) : Bool :=
  inRanges [(9, 13), (28, 32), (133, 133), (160, 160), (5760, 5760), (8192, 8202), (8232, 8233),
    (8239, 8239), (8287, 8287), (12288, 12288)] c

/-- Whether a text holds nothing but white space. -/
def isBlank (t : Text) : Bool := t.all isSpace

/-- A text without the white space at its start. -/
def trimLeft (t : Text) : Text := t.dropWhile isSpace

/-- A list without the elements at its end that `p` accepts. -/
def dropEndWhile (p : Char → Bool) : Text → Text
  | [] => []
  | c :: rest =>
    match dropEndWhile p rest with
    | [] => if p c then [] else [c]
    | kept => c :: kept

/-- A text without the white space at its end. -/
def trimRight (t : Text) : Text := dropEndWhile isSpace t

/-- A text without the white space at both ends. -/
def trim (t : Text) : Text := trimRight (trimLeft t)

/-! ### Looking for a text in a text -/

/-- What follows `lead` in a text that starts with it. -/
def after? : (lead t : Text) → Option Text
  | [], t => some t
  | _ :: _, [] => none
  | a :: lead, b :: t => if a = b then after? lead t else none

/-- Whether `t` starts with `lead`. -/
def startsWith (lead t : Text) : Bool := (after? lead t).isSome

/-- Whether `t` ends with `tail`. -/
def endsWith (tail t : Text) : Bool := startsWith tail.reverse t.reverse

/-- The position of the first occurrence of `needle`. -/
def find? (needle : Text) : Text → Option Nat
  | [] => if needle.isEmpty then some 0 else none
  | c :: rest =>
    if startsWith needle (c :: rest) then some 0 else (find? needle rest).map (· + 1)

/-- Whether `needle` occurs in a text. -/
def holds (needle t : Text) : Bool := (find? needle t).isSome

/-- The text before the first `sep`, and the text after it if there is one. -/
def cut (sep : Char) : Text → Text × Option Text
  | [] => ([], none)
  | c :: rest =>
    if c = sep then ([], some rest)
    else
      let (before, found) := cut sep rest
      (c :: before, found)

/-- The text before the last `sep` if there is one, and the text after it. -/
def cutLast (sep : Char) (t : Text) : Option Text × Text :=
  match cut sep t.reverse with
  | (tail, head) => (head.map List.reverse, tail.reverse)

/-- The pieces of a text between the characters that `p` accepts; there is always one. -/
def pieces (p : Char → Bool) : Text → List Text
  | [] => [[]]
  | c :: rest =>
    if p c then [] :: pieces p rest
    else
      match pieces p rest with
      | [] => [[c]]
      | first :: others => (c :: first) :: others

/-- The pieces of a text between the occurrences of one character. -/
def split (sep : Char) (t : Text) : List Text := pieces (· == sep) t

/-- The words of a text: the longest stretches free of white space. -/
def words (t : Text) : List Text := (pieces isSpace t).filter (! ·.isEmpty)

/-- The pieces joined with `sep` between them. -/
def join (sep : Text) (parts : List Text) : Text := sep.intercalate parts

/-- Each occurrence of `old`, read from the left and without overlap, replaced by `new`. The first
    argument counts characters of an occurrence still to be passed over. -/
def replaceFrom (old new : Text) : Nat → Text → Text
  | _, [] => []
  | skip + 1, _ :: rest => replaceFrom old new skip rest
  | 0, c :: rest =>
    if startsWith old (c :: rest) then new ++ replaceFrom old new (old.length - 1) rest
    else c :: replaceFrom old new 0 rest

/-- Each occurrence of the non-empty `old`, from the left, replaced by `new`. -/
def replace (old new t : Text) : Text := replaceFrom old new 0 t

/-- The characters from position `lo` up to before position `hi`. -/
def slice (lo hi : Nat) (t : Text) : Text := (t.drop lo).take (hi - lo)

/-! ### Numerals -/

/-- The digit characters of `n` in the given base, which is at most sixteen. -/
def digits (base n : Nat) : Text := Nat.toDigits base n

/-- The decimal numeral of a natural number. -/
def ofNat (n : Nat) : Text := Nat.toDigits 10 n

/-- The decimal numeral of an integer. -/
def ofInt : Int → Text
  | .ofNat n => ofNat n
  | .negSucc n => '-' :: ofNat (n + 1)

/-- A numeral filled up with zeros on the left to the given width. -/
def padLeft (width : Nat) (fill : Char) (t : Text) : Text :=
  List.replicate (width - t.length) fill ++ t

/-- The value of a hexadecimal digit. -/
def hexDigit? (c : Char) : Option Nat :=
  if '0' ≤ c && c ≤ '9' then some (c.toNat - 48)
  else if 'a' ≤ c && c ≤ 'f' then some (c.toNat - 87)
  else if 'A' ≤ c && c ≤ 'F' then some (c.toNat - 55)
  else none

/-! ### Order -/

/-- Texts in the order of their code points, the shorter first when one starts the other. -/
def le : Text → Text → Bool
  | [], _ => true
  | _ :: _, [] => false
  | a :: s, b :: t => if a = b then le s t else a.toNat ≤ b.toNat

/-- Texts in the order of their code points. -/
def sort (ts : List Text) : List Text := ts.mergeSort le

/-! ### Wildcards -/

/-- Whether some end of a text, reached without passing a line feed, is accepted. -/
def anySuffix (accepts : Text → Bool) : Text → Bool
  | [] => accepts []
  | c :: rest => accepts (c :: rest) || (c != '\n' && anySuffix accepts rest)

/-- Whether a pattern fits a whole text, or all of it but a line feed at its end. A wildcard stands for
    no line feed. -/
def glob : (pattern t : Text) → Bool
  | [], t => t.isEmpty || t == ['\n']
  | '*' :: pattern, t => anySuffix (glob pattern) t
  | '?' :: pattern, c :: rest => c != '\n' && glob pattern rest
  | '?' :: _, [] => false
  | p :: pattern, c :: rest => p == c && glob pattern rest
  | _ :: _, [] => false

end Text

end PageQuery
