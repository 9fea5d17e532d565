import PageQuery.Regexp.Charset

namespace PageQuery.Regexp

/-!
# Patterns

* `Pattern`: regular expressions with groups, references, assertions and three kinds of repetition;
* `Pattern.width`: the least and the greatest number of characters that a pattern matches.
-/

/-- A condition on a place in a text. -/
inductive Anchor where
  | textStart
  | lineStart
  /-- The end, or the place before a line break at the end. -/
  | lastLineEnd
  | lineEnd
  | textEnd
  /-- Between a word character and another character; `ascii` narrows the words to ASCII. -/
  | boundary (negated ascii : Bool)
  deriving Repr, DecidableEq

/-- In which order the lengths of a repetition are tried. -/
inductive Eagerness where
  | greedy
  | lazy
  /-- Only the longest is tried. -/
  | possessive
  deriving Repr, DecidableEq

/-- The least and the greatest number of characters of a match. -/
structure Width where
  least : Nat
  most : Nat
  deriving Repr, DecidableEq

/-- A regular expression. -/
inductive Pattern where
  | empty
  | one (s : Charset)
  | anchor (a : Anchor)
  | seq (p q : Pattern)
  | alt (p q : Pattern)
  /-- A numbered group. -/
  | group (n : Nat) (p : Pattern)
  /-- What the group of a number, which has the given width, has matched. -/
  | reference (n : Nat) (folding : Folding) (width : Width)
  /-- The first pattern if a group has matched, else the second. -/
  | conditional (n : Nat) (yes no : Pattern)
  | ahead (negated : Bool) (p : Pattern)
  | behind (negated : Bool) (p : Pattern)
  /-- The first way only in which a pattern matches. -/
  | atomic (p : Pattern)
  | repeated (e : Eagerness) (least : Nat) (most : Option Nat) (p : Pattern)
  deriving Repr, DecidableEq

namespace Width

/-- Where widths are cut off. -/
def limit : Nat := 18446744073709551616

/-- A width of at most the limit. -/
def capped (w : Width) : Width := ⟨min w.least limit, min w.most limit⟩

/-- The width of two patterns one after the other. -/
def add (v w : Width) : Width := capped ⟨v.least + w.least, v.most + w.most⟩

/-- The width of either of two patterns. -/
def join (v w : Width) : Width := ⟨min v.least w.least, max v.most w.most⟩

/-- The width of a repetition. -/
def times (w : Width) (least : Nat) (most : Option Nat) : Width :=
  let top := match most with
    | none => if w.most = 0 then 0 else limit
    | some n => w.most * n
  capped ⟨w.least * least, top⟩

end Width

namespace Pattern

/-- The least and the greatest number of characters that a pattern matches. -/
def width : Pattern → Width
  | .empty => ⟨0, 0⟩
  | .one _ => ⟨1, 1⟩
  | .anchor _ => ⟨0, 0⟩
  | .seq p q => p.width.add q.width
  | .alt p q => p.width.join q.width
  | .group _ p => p.width
  | .reference _ _ w => w
  | .conditional _ yes no => yes.width.join no.width
  | .ahead .. => ⟨0, 0⟩
  | .behind .. => ⟨0, 0⟩
  | .atomic p => p.width
  | .repeated _ least most p => p.width.times least most

/-- A pattern of characters in a row. -/
def literal (f : Folding) (t : Text) : Pattern :=
  t.foldr (fun c p => .seq (.one (.single f c.toNat)) p) .empty

/-- A pattern for any number of repetitions. -/
def star (e : Eagerness) (p : Pattern) : Pattern := .repeated e 0 none p

/-- Patterns in a row. -/
def row : List Pattern → Pattern
  | [] => .empty
  | [p] => p
  | p :: ps => .seq p (row ps)

/-- Patterns of which one is to match, tried in order. -/
def oneOf : List Pattern → Pattern
  | [] => .empty
  | [p] => p
  | p :: ps => .alt p (oneOf ps)

end Pattern

end PageQuery.Regexp
