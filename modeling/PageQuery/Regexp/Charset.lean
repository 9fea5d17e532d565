import PageQuery.Text.Case
import PageQuery.Text.Word

namespace PageQuery.Regexp

/-!
# Sets of characters

* `Charset`: single characters, ranges and classes, or everything but these;
* `Charset.accepts`: whether a character is in a set, with or without regard to case.
-/

/-- How much of the difference between upper and lower case is ignored. -/
inductive Folding where
  /-- Case counts. -/
  | exact
  /-- Only the letters of ASCII are compared without regard to case. -/
  | ascii
  | full
  deriving Repr, DecidableEq

namespace Folding

/-- The lower case of a character, as far as case is ignored. -/
def lower : Folding → Char → Char
  | .exact, c => c
  | .ascii, c => c.toLower
  | .full, c => Text.lowerChar c

/-- The code points whose simple lower case is `n`, apart from `n` itself. -/
def raised (n : Nat) : List Nat :=
  let ascii := if 97 ≤ n && n ≤ 122 then [n - 32] else []
  ascii ++ Text.lowerRuns.filterMap fun (lo, hi, step, offset) =>
    let m := ((n : Int) - offset).toNat
    if lo ≤ m && m ≤ hi && (m - lo) % step == 0 && (m : Int) + offset == n then some m else none

/-- The code points that count as the same as a character. -/
def variants (f : Folding) (c : Char) : List Nat :=
  match f with
  | .exact => [c.toNat]
  | .ascii => if c.isAlpha then [c.toLower.toNat, c.toUpper.toNat] else [c.toNat]
  | .full =>
    let low := Text.lowerChar c
    (low :: Text.caseMates low).flatMap fun m => m.toNat :: raised m.toNat

end Folding

/-- The classes that have names. -/
inductive Category where
  | digit
  | space
  | word
  deriving Repr, DecidableEq

/-- Whether a character is in a class; `ascii` narrows the class to ASCII. -/
def Category.accepts (ascii : Bool) (c : Char) : Category → Bool
  | .digit => if ascii then c.isDigit else Text.isDigit c
  | .space => if ascii then c.toNat < 128 && Text.isSpace c && !(28 ≤ c.toNat && c.toNat < 32)
    else Text.isSpace c
  | .word => if ascii then c.isAlphanum || c == '_' else Text.isWord c

/-- A part of a set. Code points need not be those of characters. -/
inductive Item where
  | single (n : Nat)
  | range (lo hi : Nat)
  | category (k : Category) (negated ascii : Bool)
  deriving Repr, DecidableEq

/-- Whether a part of a set holds a character whose variants are given. -/
def Item.accepts (low : Char) (variants : List Nat) : Item → Bool
  | .single n => variants.contains n
  | .range lo hi => variants.any fun n => lo ≤ n && n ≤ hi
  | .category k negated ascii => k.accepts ascii low != negated

/-- A set of characters. -/
structure Charset where
  folding : Folding
  negated : Bool
  items : List Item
  deriving Repr, DecidableEq

namespace Charset

/-- The set of one code point. -/
def single (f : Folding) (n : Nat) : Charset := ⟨f, false, [.single n]⟩

/-- All characters, or all but line breaks. -/
def any (withBreaks : Bool) : Charset :=
  ⟨.exact, true, if withBreaks then [] else [.single 10]⟩

/-- Whether a set holds a character. -/
def accepts (s : Charset) (c : Char) : Bool :=
  let low := s.folding.lower c
  let variants := s.folding.variants c
  s.items.any (·.accepts low variants) != s.negated

end Charset

end PageQuery.Regexp
