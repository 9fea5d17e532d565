import PageQuery.Text.Basic

namespace PageQuery.Validation

/-!
# Distances between words

* `distance`: how many characters must be changed, added or dropped to turn a word into another;
* `suggest`: the nearest of some words, if one is near.
-/

/-- The next row of the table of distances: `old` is the row for the word so far, `left` the entry before
    the ones to come. -/
def nextRow (c : Char) : (b : Text) → (old : List Nat) → (left : Nat) → List Nat
  | d :: b, diagonal :: above :: old, left =>
    let here := min (min (above + 1) (left + 1)) (diagonal + if c = d then 0 else 1)
    here :: nextRow c b (above :: old) here
  | _, _, _ => []

/-- The last row of the table of distances, from the row for the characters of `a` before these. -/
def lastRow (b : Text) : (a : Text) → (row : List Nat) → List Nat
  | [], row => row
  | c :: a, row =>
    let left := row.headD 0 + 1
    lastRow b a (left :: nextRow c b row left)

/-- The least number of changes of one character that turn a word into another. The table is left out
    where one of the words is empty, and where they are equal. -/
def distance (a b : Text) : Nat :=
  if a = b then 0
  else if a.isEmpty then b.length
  else if b.isEmpty then a.length
  else (lastRow b a (List.range (b.length + 1))).getLastD 0

/-- The greatest distance at which a word is near. -/
def nearness : Nat := 2

/-- The first of the nearest words, and its distance. -/
def nearest (word : Text) : (best : Text × Nat) → List Text → Text × Nat
  | best, [] => best
  | best, option :: rest =>
    let d := distance word option
    nearest word (if d < best.2 then (option, d) else best) rest

/-- The nearest of some words; empty if none is near. -/
def suggest (word : Text) (options : List Text) : Text := (nearest word ([], nearness + 1) options).1

end PageQuery.Validation
