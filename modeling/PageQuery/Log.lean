import PageQuery.Ordered
import PageQuery.Text.Case

namespace PageQuery.Log

/-!
# Levels of remarks

* `Level`: how much a remark matters;
* `numberOf`: the level from which on remarks are shown, which comes from a name that is given or from the
  variables of the surroundings.
-/

/-- How much a remark matters. -/
inductive Level where
  | debug
  | info
  | warning
  deriving Repr, DecidableEq

/-- The number of a level. -/
def Level.number : Level → Nat
  | .debug => 10
  | .info => 20
  | .warning => 30

/-- The name of a level. -/
def Level.name : Level → Text
  | .debug => "DEBUG"
  | .info => "INFO"
  | .warning => "WARNING"

/-- The names of levels and their numbers. -/
def names : List (String × Nat) := [("CRITICAL", 50), ("FATAL", 50), ("ERROR", 40), ("WARN", 30),
  ("WARNING", 30), ("INFO", 20), ("DEBUG", 10), ("NOTSET", 0)]

/-- The number of a name; that of warnings if there is no such name. -/
def ofName (t : Text) : Nat :=
  ((names.find? fun (n, _) => n.toList == t).map (·.2)).getD Level.warning.number

/-- The value of a variable of the surroundings, unless it is empty. -/
def setting? (surroundings : Ordered Text) (name : Text) : Option Text :=
  (Ordered.get? surroundings name).filter (! ·.isEmpty)

/-- Whether everything is told. -/
def isTraced (surroundings : Ordered Text) : Bool := (setting? surroundings "WEBQ_DEBUG").isSome

/-- The number of the level from which on remarks are shown. -/
def numberOf (given : Option Text) (surroundings : Ordered Text) : Nat :=
  if isTraced surroundings then Level.debug.number
  else match given.filter (! ·.isEmpty), setting? surroundings "WEBQ_LOG_LEVEL" with
    | some name, _ => ofName (Text.upper name)
    | none, some name => ofName (Text.upper name)
    | none, none => Level.warning.number

/-- Whether a remark of a level is shown. The number zero stands for no choice, and then only warnings
    are. -/
def isShown (threshold : Nat) (l : Level) : Bool :=
  (if threshold = 0 then Level.warning.number else threshold) ≤ l.number

/-- The line for a remark of a part of the program. -/
def line (l : Level) (origin message : Text) : Text :=
  l.name ++ ' ' :: origin ++ ": " ++ message ++ ['\n']

end PageQuery.Log
