import PageQuery.Regexp.Pattern

namespace PageQuery.Regexp

/-!
# Matching

Patterns are matched by trying alternatives in order and taking back choices that lead nowhere.

* `Cursor`: a place in a text, with what stands before and after it;
* `Pattern.run p c g k`: the first way in which `p` matches at `c` and the rest, `k`, succeeds;
* `Pattern.matchAt`, `Pattern.search`: a match at a place, and the first match from a place on.
-/

/-- A place in a text. -/
structure Cursor where
  position : Nat
  /-- What stands before the place, nearest first. -/
  before : Text
  after : Text
  deriving Repr, DecidableEq

namespace Cursor

/-- The start of a text. -/
def start (t : Text) : Cursor := ⟨0, [], t⟩

/-- The whole text. -/
def subject (c : Cursor) : Text := c.before.reverse ++ c.after

/-- The place one character further on. -/
def next (c : Cursor) : Cursor :=
  match c.after with
  | [] => c
  | x :: rest => ⟨c.position + 1, x :: c.before, rest⟩

/-- The place some characters back. -/
def back : (n : Nat) → Cursor → Cursor
  | 0, c => c
  | n + 1, c =>
    match c.before with
    | [] => c
    | x :: rest => back n ⟨c.position - 1, rest, x :: c.after⟩

/-- The place after a text, if that comes next; case is ignored as far as `f` says. -/
def skip? (f : Folding) : Text → Cursor → Option Cursor
  | [], c => some c
  | x :: rest, c =>
    match c.after with
    | [] => none
    | y :: _ => if f.lower x == f.lower y then skip? f rest c.next else none

/-- The text between two places. -/
def between (lo hi : Cursor) : Text := lo.after.take (hi.position - lo.position)

end Cursor

/-- The texts that groups have matched last. -/
abbrev Captures := List (Nat × Text)

/-- What a match ends with: its end, and its groups. -/
abbrev Outcome := Cursor × Captures

/-- What is still to match after a pattern. -/
abbrev Rest := Cursor → Captures → Option Outcome

/-- A pattern as a matcher. -/
abbrev Matcher := Cursor → Captures → Rest → Option Outcome

/-- Whether a condition holds at a place. -/
def Anchor.holds (c : Cursor) : Anchor → Bool
  | .textStart => c.before.isEmpty
  | .lineStart => c.before.isEmpty || c.before.head? == some '\n'
  | .lastLineEnd => c.after.isEmpty || c.after == ['\n']
  | .lineEnd => c.after.isEmpty || c.after.head? == some '\n'
  | .textEnd => c.after.isEmpty
  | .boundary negated ascii =>
    if c.before.isEmpty && c.after.isEmpty then false
    else
      let isWord (t : Text) : Bool := t.head?.any fun x => Category.word.accepts ascii x
      (isWord c.before != isWord c.after) != negated

/-! ### Repetition -/

/-- More repetitions first, then the rest. `count` repetitions have been matched, and `last` is where
    the last one beyond the least number began: an empty repetition is not followed by another. -/
def greedyFrom (body : Matcher) (least : Nat) (most : Option Nat) (rest : Rest) :
    (fuel count : Nat) → (last : Option Nat) → Cursor → Captures → Option Outcome
  | 0, _, _, c, g => rest c g
  | fuel + 1, count, last, c, g =>
    if count < least then
      body c g fun c' g' => greedyFrom body least most rest fuel (count + 1) last c' g'
    else if most.all (count < ·) && last != some c.position then
      match body c g fun c' g' =>
          greedyFrom body least most rest fuel (count + 1) (some c.position) c' g' with
      | some r => some r
      | none => rest c g
    else rest c g

/-- The rest first, then more repetitions. -/
def lazyFrom (body : Matcher) (least : Nat) (most : Option Nat) (rest : Rest) :
    (fuel count : Nat) → (last : Option Nat) → Cursor → Captures → Option Outcome
  | 0, _, _, c, g => rest c g
  | fuel + 1, count, last, c, g =>
    if count < least then
      body c g fun c' g' => lazyFrom body least most rest fuel (count + 1) last c' g'
    else
      match rest c g with
      | some r => some r
      | none =>
        if most.all (count < ·) && last != some c.position then
          body c g fun c' g' =>
            lazyFrom body least most rest fuel (count + 1) (some c.position) c' g'
        else none

/-- As many repetitions as there are, each in its first way. -/
def possessiveFrom (body : Matcher) (least : Nat) (most : Option Nat) :
    (fuel count : Nat) → (last : Option Nat) → Cursor → Captures → Option Outcome
  | 0, _, _, c, g => some (c, g)
  | fuel + 1, count, last, c, g =>
    if count < least then
      match body c g fun c' g' => some (c', g') with
      | none => none
      | some (c', g') => possessiveFrom body least most fuel (count + 1) last c' g'
    else if most.all (count < ·) && last != some c.position then
      match body c g fun c' g' => some (c', g') with
      | none => some (c, g)
      | some (c', g') =>
        possessiveFrom body least most fuel (count + 1) (some c.position) c' g'
    else some (c, g)

/-- Of the next characters, as many as are in a set, but at most `most`: the places passed on the way,
    the last first. -/
def placesOf (s : Charset) (most : Option Nat) : (after : Text) → (passed : List Cursor) → Cursor →
    List Cursor
  | [], passed, c => c :: passed
  | x :: rest, passed, c =>
    if most.all (passed.length < ·) && s.accepts x then placesOf s most rest (c :: passed) c.next
    else c :: passed

/-- A repetition of one character in the order of its eagerness. -/
def repeatOne (e : Eagerness) (least : Nat) (most : Option Nat) (s : Charset) : Matcher :=
  fun c g rest =>
    let places := placesOf s most c.after [] c
    let allowed := places.take (places.length - least)
    let tried := match e with
      | .greedy => allowed
      | .lazy => allowed.reverse
      | .possessive => allowed.take 1
    tried.findSome? fun c' => rest c' g

/-- A repetition in the order of its eagerness. -/
def repeatAny (e : Eagerness) (least : Nat) (most : Option Nat) (body : Matcher) : Matcher :=
  fun c g rest =>
    let fuel := least + c.after.length + 2
    match e with
    | .greedy => greedyFrom body least most rest fuel 0 none c g
    | .lazy => lazyFrom body least most rest fuel 0 none c g
    | .possessive =>
      match possessiveFrom body least most fuel 0 none c g with
      | some (c', g') => rest c' g'
      | none => none

/-! ### Patterns -/

/-- The set of characters that a pattern stands for, if it matches single characters. -/
def Pattern.charset? : Pattern → Option Charset
  | .one s => some s
  | _ => none

/-- The first way in which a pattern matches at a place and the rest succeeds. -/
def Pattern.run : Pattern → Matcher
  | .empty, c, g, rest => rest c g
  | .one s, c, g, rest =>
    match c.after with
    | [] => none
    | x :: _ => if s.accepts x then rest c.next g else none
  | .anchor a, c, g, rest => if a.holds c then rest c g else none
  | .seq p q, c, g, rest => p.run c g fun c' g' => q.run c' g' rest
  | .alt p q, c, g, rest =>
    match p.run c g rest with
    | some r => some r
    | none => q.run c g rest
  | .group n p, c, g, rest => p.run c g fun c' g' => rest c' ((n, c.between c') :: g')
  | .reference n f _, c, g, rest =>
    match List.lookup n g with
    | none => none
    | some t => (c.skip? f t).bind fun c' => rest c' g
  | .conditional n yes no, c, g, rest =>
    if (List.lookup n g).isSome then yes.run c g rest else no.run c g rest
  | .ahead negated p, c, g, rest =>
    match p.run c g fun c' g' => some (c', g') with
    | some (_, g') => if negated then none else rest c g'
    | none => if negated then rest c g else none
  | .behind negated p, c, g, rest =>
    let n := p.width.least
    let found :=
      if c.position < n then none
      else p.run (c.back n) g fun c' g' => some (c', g')
    match found with
    | some (_, g') => if negated then none else rest c g'
    | none => if negated then rest c g else none
  | .atomic p, c, g, rest =>
    match p.run c g fun c' g' => some (c', g') with
    | some (c', g') => rest c' g'
    | none => none
  | .repeated e least most p, c, g, rest =>
    match p.charset? with
    | some s => repeatOne e least most s c g rest
    | none => repeatAny e least most (fun c g k => p.run c g k) c g rest

/-- A match: where it begins, where it ends, and what its groups matched. -/
structure Found where
  first : Cursor
  last : Cursor
  captures : Captures
  deriving Repr, DecidableEq

/-- The text of a match. -/
def Found.text (m : Found) : Text := m.first.between m.last

/-- The text of a group; group zero is the whole match. -/
def Found.group? (m : Found) (n : Nat) : Option Text :=
  if n = 0 then some m.text else List.lookup n m.captures

namespace Pattern

/-- The match at a place, which must not be empty if `moving` is set. -/
def matchAt (p : Pattern) (moving : Bool) (c : Cursor) : Option Found :=
  (p.run c [] fun c' g => if moving && c'.position == c.position then none else some (c', g)).map
    fun (c', g) => ⟨c, c', g⟩

/-- The first match from a place on; `moving` forbids an empty match at that very place. -/
def searchFrom (p : Pattern) : (after : Text) → (moving : Bool) → Cursor → Option Found
  | [], moving, c => p.matchAt moving c
  | _ :: rest, moving, c =>
    match p.matchAt moving c with
    | some m => some m
    | none => searchFrom p rest false c.next

/-- The first match in a text. -/
def search (p : Pattern) (t : Text) : Option Found := searchFrom p t false (.start t)

/-- The matches from a place on, none overlapping another. -/
def allFrom (p : Pattern) : (fuel : Nat) → (moving : Bool) → Cursor → List Found
  | 0, _, _ => []
  | fuel + 1, moving, c =>
    match searchFrom p c.after moving c with
    | none => []
    | some m => m :: allFrom p fuel (m.last.position == m.first.position) m.last

/-- The matches in a text from the left. An empty match may follow a match that is not empty. -/
def all (p : Pattern) (t : Text) : List Found := allFrom p (2 * t.length + 2) false (.start t)

/-- The text with every match replaced by what `f` gives for it. -/
def substitute (p : Pattern) (f : Found → Text) (t : Text) : Text :=
  go (.start t) (p.all t)
where
  /-- The text from a place on, in which the given matches are replaced. -/
  go (c : Cursor) : List Found → Text
    | [] => c.after
    | m :: rest => c.between m.first ++ f m ++ go m.last rest

end Pattern

end PageQuery.Regexp
