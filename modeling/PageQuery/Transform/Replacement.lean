import PageQuery.Session
import PageQuery.Query.Parameters
import PageQuery.Regexp.Parser
import PageQuery.Regexp.Matching

namespace PageQuery.Transform

/-!
# Regular expressions on values

A body `/pattern/` takes the first match out of a text; `/pattern/replacement/` replaces every match.

* `parseBody? body`: pattern and replacement;
* `Replacement.ofText`: the literal parts of a replacement and its references to groups;
* `applyRegexp`: the transform.
-/

/-- Pattern and replacement of a body: its first two parts that are not empty. The pattern `\ALL`
    stands for the whole text; slashes and semicolons of the replacement may be escaped. -/
def parseBody? (body : Text) : Option (Text × Text) :=
  match (Query.splitUnescaped '/' body).filter (! ·.isEmpty) with
  | [] => none
  | pattern :: rest =>
    let replacement := Text.replace "\\;" ";" (Text.replace "\\/" "/" (rest.head?.getD []))
    some (Text.replace "\\ALL" "^[\\s\\S]*$" pattern, replacement)

/-- A part of a replacement. -/
inductive Part where
  | plain (c : Char)
  /-- A dollar sign and digits: the text of a group. -/
  | group (digits : Text)
  deriving Repr, DecidableEq

/-- The parts of a replacement of which `skip` characters belong to a reference read already. -/
def partsFrom : (skip : Nat) → Text → List Part
  | _, [] => []
  | skip + 1, _ :: rest => partsFrom skip rest
  | 0, c :: rest =>
    let digits := rest.takeWhile Text.isDigit
    if c == '$' && !digits.isEmpty then .group digits :: partsFrom digits.length rest
    else .plain c :: partsFrom 0 rest

/-- The parts of a replacement. -/
def partsOf (t : Text) : List Part := partsFrom 0 t

/-- A part with the number of its group read. -/
abbrev Step := Char ⊕ Text × Nat

/-- The number of the group that a part refers to. -/
def Part.step : Part → Except Numeral.Error Step
  | .plain c => .ok (.inl c)
  | .group digits => do
    let n ← Numeral.readInt digits
    return .inr (digits, n.toNat)

/-- What a part stands for in a match. A reference to a group that the pattern does not have stands
    for itself, one to a group that has not matched for nothing. -/
def expandStep (groups : Nat) (m : Regexp.Found) : Step → Text
  | .inl c => [c]
  | .inr (digits, n) => if groups < n then '$' :: digits else (m.group? n).getD []

/-- The text with every match replaced. -/
def replaceAll (c : Regexp.Compiled) (replacement t : Text) : Except Numeral.Error Text :=
  if (c.pattern.search t).isNone then .ok t
  else do
    let steps ← (partsOf replacement).mapM Part.step
    return c.pattern.substitute (fun m => steps.flatMap (expandStep c.groups m)) t

/-- The first match in a text, or null. -/
def firstMatch (c : Regexp.Compiled) (t : Text) : Value :=
  match c.pattern.search t with
  | some m => .text m.text
  | none => .null

/-- The transform of a value by a body. A body or pattern at fault leaves the value as it is. -/
def applyRegexp (v : Value) (body : Text) : Run Value :=
  if v.isNull then return .null
  else match parseBody? body with
    | none => do
      Run.note (.regexpForm body)
      return v
    | some (pattern, replacement) =>
      match Regexp.compile { multiline := true } pattern with
      | .error (.wrong e place) => do
        Run.note (.regexpPattern pattern ((Regexp.Refusal.wrong e place).message pattern))
        return v
      | .error r => throw (.pattern pattern r)
      | .ok c => do
        let t ← Run.text v
        if replacement.isEmpty then return firstMatch c t
        else return .text (← Run.of ((replaceAll c replacement t).mapError .numeral))

end PageQuery.Transform
