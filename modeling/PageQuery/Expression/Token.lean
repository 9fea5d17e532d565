import PageQuery.Number.Quantity
import PageQuery.Text.Quoted
import PageQuery.Json.Reader

namespace PageQuery.Expression

/-!
# Tokens of expressions

* `Token`: numerals, quoted texts, names, and the signs of operators and parentheses;
* `tokens t`: the tokens of a text;
* `Error`: what makes a text no expression, or an expression without a value.
-/

/-- The operators. -/
inductive Operator where
  | plus
  | minus
  | times
  | divide
  | modulo
  deriving Repr, DecidableEq

/-- The sign of an operator. -/
def Operator.sign : Operator → Char
  | .plus => '+'
  | .minus => '-'
  | .times => '*'
  | .divide => '/'
  | .modulo => '%'

/-- A token. -/
inductive Token where
  /-- Digits, with at most one point among or beside them. -/
  | numeral (t : Text)
  /-- A text with its quotes. -/
  | literal (t : Text)
  | name (t : Text)
  | operator (o : Operator)
  | opening
  | closing
  deriving Repr, DecidableEq

/-- The text that a token was written as. -/
def Token.text : Token → Text
  | .numeral t => t
  | .literal t => t
  | .name t => t
  | .operator o => [o.sign]
  | .opening => ['(']
  | .closing => [')']

/-- Why an expression has no value. -/
inductive Error where
  /-- No token starts at a position, where the text `rest` is left. -/
  | unexpectedCharacter (position : Nat) (rest : Text)
  | empty
  | unexpectedToken (t : Text)
  | unexpectedEnd
  | missingClosing
  | unknownVariable (name : Text)
  | negatedNonNumber
  /-- An operator met operands that are not both numbers; they are given as they are shown. -/
  | needsNumbers (o : Operator) (left right : Text)
  | arithmetic (e : ArithmeticError)
  deriving Repr, DecidableEq

/-- The error in words. -/
def Error.message : Error → Text
  | .unexpectedCharacter n rest =>
    "unexpected character at " ++ Text.ofNat n ++ ": " ++ Text.quoted rest
  | .empty => "empty expression"
  | .unexpectedToken t => "unexpected token " ++ Text.quoted t
  | .unexpectedEnd => "unexpected end of expression"
  | .missingClosing => "missing ')'"
  | .unknownVariable name => "unknown variable " ++ Text.quoted name
  | .negatedNonNumber => "unary minus on a non-number"
  | .needsNumbers o left right =>
    '\'' :: o.sign :: '\'' :: " needs numbers, got " ++ left ++ " and " ++ right
  | .arithmetic e => e.message

/-- Whether a name may start with `c`. -/
def isNameStart (c : Char) : Bool := c.isAlpha || c == '_'

/-- Whether a name of a variable may go on with `c`. -/
def isNamePart (c : Char) : Bool := c.isAlphanum || c == '_' || c == '.'

/-- A numeral at the start of a text: digits with a point after or between them, or a point and
    digits. -/
def numeral? (t : Text) : Option (Text × Text) :=
  let before := t.takeWhile Text.isDigit
  match before, t.dropWhile Text.isDigit with
  | [], '.' :: rest =>
    let after := rest.takeWhile Text.isDigit
    if after.isEmpty then none else some ('.' :: after, rest.dropWhile Text.isDigit)
  | [], _ => none
  | before, '.' :: rest =>
    some (before ++ '.' :: rest.takeWhile Text.isDigit, rest.dropWhile Text.isDigit)
  | before, rest => some (before, rest)

/-- What is left of a quoted text up to and with its closing quote, and what follows it. A backslash
    protects the next character, which must not be a line break. -/
def closing? (quote : Char) : Text → Option (Text × Text)
  | [] => none
  | '\\' :: c :: rest =>
    if c == '\n' then none
    else (closing? quote rest).map fun (t, after) => ('\\' :: c :: t, after)
  | c :: rest =>
    if c == quote then some ([c], rest)
    else if c == '\\' then none
    else (closing? quote rest).map fun (t, after) => (c :: t, after)

/-- The token that a sign stands for. -/
def sign? (c : Char) : Option Token :=
  match c with
  | '+' => some (.operator .plus)
  | '-' => some (.operator .minus)
  | '*' => some (.operator .times)
  | '/' => some (.operator .divide)
  | '%' => some (.operator .modulo)
  | '(' => some .opening
  | ')' => some .closing
  | _ => none

/-- The token at the start of a text, and what follows it. -/
def token? (t : Text) : Option (Token × Text) :=
  match numeral? t with
  | some (n, rest) => some (.numeral n, rest)
  | none =>
    match t with
    | [] => none
    | c :: rest =>
      if c == '"' || c == '\'' then
        (closing? c rest).map fun (body, after) => (.literal (c :: body), after)
      else if isNameStart c then
        some (.name (c :: rest.takeWhile isNamePart), rest.dropWhile isNamePart)
      else (sign? c).map fun token => (token, rest)

/-- The tokens of the end of a text that is `length` characters long as a whole. Every token takes at
    least one character. -/
def tokensFrom (length : Nat) : (fuel : Nat) → Text → Except Error (List Token)
  | 0, _ => .ok []
  | fuel + 1, t =>
    match Text.trimLeft t with
    | [] => .ok []
    | start =>
      match token? start with
      | none => .error (.unexpectedCharacter (length - t.length) t)
      | some (token, rest) => do return token :: (← tokensFrom length fuel rest)

/-- The tokens of a text. -/
def tokens (t : Text) : Except Error (List Token) := tokensFrom t.length (t.length + 1) t

end PageQuery.Expression
