import PageQuery.Text.Basic

namespace PageQuery.Query

/-!
# Splitting a text at its separators

* `Lexeme`: a separator, or a stretch of text between separators;
* `split seps t`: the leftmost lexing of a text, in which nothing is lost;
* `operators`, `alternatives`, `wildcards`: the separators of queries and of paths in JSON;
* `tokens`, `stageTexts`: the trimmed tokens of a query, and its parts between array pipes.
-/

/-- A piece of a text that is split at separators. -/
inductive Lexeme where
  | separator (t : Text)
  | plain (t : Text)
  deriving Repr, DecidableEq

/-- The text of a piece. -/
def Lexeme.text : Lexeme → Text
  | .separator t => t
  | .plain t => t

/-- Whether a piece is a separator. -/
def Lexeme.isSeparator : Lexeme → Bool
  | .separator _ => true
  | .plain _ => false

/-- The first of the separators that a text starts with. -/
def leading? (seps : List Text) (t : Text) : Option Text :=
  seps.find? fun s => Text.startsWith s t

/-- A character put before pieces: it joins a stretch of text at their front. -/
def attach (c : Char) : List Lexeme → List Lexeme
  | .plain t :: rest => .plain (c :: t) :: rest
  | pieces => .plain [c] :: pieces

/-- The pieces of a text of which the first `skip` characters have been read already. -/
def splitFrom (seps : List Text) : (skip : Nat) → Text → List Lexeme
  | _, [] => []
  | skip + 1, _ :: rest => splitFrom seps skip rest
  | 0, c :: rest =>
    match leading? seps (c :: rest) with
    | some s => .separator s :: splitFrom seps (s.length - 1) rest
    | none => attach c (splitFrom seps 0 rest)

/-- The pieces of a text: from the left, each occurrence of a separator, and the stretches between.
    Where several separators fit, the one listed first is taken. -/
def split (seps : List Text) (t : Text) : List Lexeme := splitFrom seps 0 t

/-- What stands between the alternatives of a segment chain: another try. -/
def fallbackMark : Text := "||"

/-- What stands between segments whose results are joined. -/
def joinMark : Text := "++"

/-- What hands each result to the next segment. -/
def pipeMark : Text := ">>"

/-- What hands all results as one list to the next stage. -/
def arrayPipeMark : Text := ">>>"

/-- The operators of the query language; the longer of the pipes comes first. -/
def operators : List Text := [fallbackMark, joinMark, arrayPipeMark, pipeMark]

/-- The separators between alternatives in a part of a JSON path. -/
def alternatives : List Text := ["|", ","]

/-- The separators between the key patterns in a part of a JSON path. -/
def wildcards : List Text := ["|", ",", "&"]

/-- A piece with its text trimmed, unless nothing is left of it. -/
def Lexeme.trimmed? : Lexeme → Option Lexeme
  | .separator t => some (.separator t)
  | .plain t => let t := Text.trim t; if t.isEmpty then none else some (.plain t)

/-- The tokens of a query: operators and trimmed segments that are not empty. -/
def tokens (t : Text) : List Lexeme := (split operators t).filterMap Lexeme.trimmed?

/-- The pieces gathered into the parts between array pipes. -/
def gatherStages : List Lexeme → List Text
  | [] => [[]]
  | .separator s :: rest =>
    if s = arrayPipeMark then [] :: gatherStages rest
    else match gatherStages rest with
      | [] => [s]
      | part :: parts => (s ++ part) :: parts
  | .plain t :: rest =>
    match gatherStages rest with
    | [] => [t]
    | part :: parts => (t ++ part) :: parts

/-- The parts of a query between its array pipes. -/
def stageTexts (t : Text) : List Text := gatherStages (split operators t)

end PageQuery.Query
