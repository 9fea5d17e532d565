import PageQuery.Text.Quoted
import PageQuery.Number.Numeral
import PageQuery.Regexp.Pattern

namespace PageQuery.Regexp

/-!
# Faulty patterns

* `Complaint`: what makes a text no pattern;
* `Refusal`: a complaint with its place, or one of the three rarer reasons to refuse a pattern.
-/

/-- What makes a text no pattern. -/
inductive Complaint where
  | escapeAtEnd
  | escapeCutShort (escape : Text)
  | escapeUnknown (escape : Text)
  | octalTooLarge (escape : Text)
  | missingBrace
  | unknownCharacter (name : Text)
  | openReference
  | siblingReference
  | unknownReference (n : Nat)
  | openSet
  | badRange (lo hi : Text)
  | crossedBounds
  | nothingToRepeat
  | repeatedRepeat
  | unexpectedEnd
  | missingName (what : Text)
  | openName (closing : Char)
  | badName (name : Text)
  | unknownName (name : Text)
  | takenName (name : Text) (new old : Nat)
  | unknownExtension (t : Text)
  | openComment
  | openGroup
  | groupZero
  | threeBranches
  | lateFlags
  | localeFlag
  | clashingFlags
  | unknownFlag
  | missingFlag
  | missingFlagEnd
  | missingColon
  | globalFlagOn
  | globalFlagOff
  | keptFlagOff
  | flagOnAndOff
  | unbalanced
  | lookBehindWidth
  | lookBehindTooFar
  | templateRepeat (e : Eagerness)
  deriving Repr, DecidableEq

/-- The complaint in words. -/
def Complaint.message : Complaint → Text
  | .escapeAtEnd => "bad escape (end of pattern)"
  | .escapeCutShort e => "incomplete escape " ++ e
  | .escapeUnknown e => "bad escape " ++ e
  | .octalTooLarge e => "octal escape value " ++ e ++ " outside of range 0-0o377"
  | .missingBrace => "missing \x7b"
  | .unknownCharacter n => "undefined character name " ++ Text.quoted n
  | .openReference => "cannot refer to an open group"
  | .siblingReference => "cannot refer to group defined in the same lookbehind subpattern"
  | .unknownReference n => "invalid group reference " ++ Text.ofNat n
  | .openSet => "unterminated character set"
  | .badRange lo hi => "bad character range " ++ lo ++ '-' :: hi
  | .crossedBounds => "min repeat greater than max repeat"
  | .nothingToRepeat => "nothing to repeat"
  | .repeatedRepeat => "multiple repeat"
  | .unexpectedEnd => "unexpected end of pattern"
  | .missingName what => "missing " ++ what
  | .openName closing => "missing " ++ closing :: ", unterminated name"
  | .badName n => "bad character in group name " ++ Text.quoted n
  | .unknownName n => "unknown group name " ++ Text.quoted n
  | .takenName n new old =>
    "redefinition of group name " ++ Text.quoted n ++ " as group " ++ Text.ofNat new ++
      "; was group " ++ Text.ofNat old
  | .unknownExtension t => "unknown extension ?" ++ t
  | .openComment => "missing ), unterminated comment"
  | .openGroup => "missing ), unterminated subpattern"
  | .groupZero => "bad group number"
  | .threeBranches => "conditional backref with more than two branches"
  | .lateFlags => "global flags not at the start of the expression"
  | .localeFlag => "bad inline flags: cannot use 'L' flag with a str pattern"
  | .clashingFlags => "bad inline flags: flags 'a', 'u' and 'L' are incompatible"
  | .unknownFlag => "unknown flag"
  | .missingFlag => "missing flag"
  | .missingFlagEnd => "missing -, : or )"
  | .missingColon => "missing :"
  | .globalFlagOn => "bad inline flags: cannot turn on global flag"
  | .globalFlagOff => "bad inline flags: cannot turn off global flag"
  | .keptFlagOff => "bad inline flags: cannot turn off flags 'a', 'u' and 'L'"
  | .flagOnAndOff => "bad inline flags: flag turned on and off"
  | .unbalanced => "unbalanced parenthesis"
  | .lookBehindWidth => "look-behind requires fixed-width pattern"
  | .lookBehindTooFar => "looks too much behind"
  | .templateRepeat .greedy => "internal: unsupported template operator MAX_REPEAT"
  | .templateRepeat .lazy => "internal: unsupported template operator MIN_REPEAT"
  | .templateRepeat .possessive => "internal: unsupported template operator POSSESSIVE_REPEAT"

/-- Why a pattern is refused. -/
inductive Refusal where
  /-- The text is no pattern; the place is told where there is one. -/
  | wrong (c : Complaint) (position : Option Nat)
  /-- A number of repetitions is too large to be held. -/
  | repeatTooLarge
  /-- A number of repetitions has too many digits to be read. -/
  | numeral (e : Numeral.Error)
  /-- The whole pattern is asked to be read both as ASCII and as Unicode. -/
  | twoAlphabets
  deriving Repr, DecidableEq

/-- The place of a complaint in words; line and column are told if the pattern has several lines. -/
def placeText (source : Text) (position : Nat) : Text :=
  let before := source.take position
  let line := before.count '\n' + 1
  let column := (before.reverse.takeWhile (· != '\n')).length + 1
  let lines : Text :=
    if source.contains '\n' then
      " (line " ++ Text.ofNat line ++ ", column " ++ Text.ofNat column ++ [')']
    else []
  " at position " ++ Text.ofNat position ++ lines

/-- The refusal of a pattern in words. -/
def Refusal.message (source : Text) : Refusal → Text
  | .wrong c none => c.message
  | .wrong c (some n) => c.message ++ placeText source n
  | .repeatTooLarge => "the repetition number is too large"
  | .numeral e => e.message
  | .twoAlphabets => "ASCII and UNICODE flags are incompatible"

end PageQuery.Regexp
