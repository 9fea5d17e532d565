import PageQuery.Ordered
import PageQuery.Value.Display

namespace PageQuery

/-!
# Environments

The named values that one execution of a query saves. Names are added or overwritten, never removed,
and keep the order in which they were first written.

* `Environment.seeded`: the environment in which an execution starts;
* `Environment.remove`, `Environment.pop`, `Environment.popItem`, `Environment.clear`: what taking a name
  away gives, which is an error whenever there is a name to take away.
-/

/-- Named values. -/
abbrev Environment := Ordered Value

namespace Environment

/-- Why an environment does not answer. -/
inductive Error where
  /-- No value has this name. -/
  | unbound (name : Text)
  /-- There is no name at all. -/
  | empty
  /-- A name was to be removed. -/
  | removal
  deriving Repr, DecidableEq

/-- The word for the kind of an error. -/
def Error.kind : Error → Text
  | .removal => "TypeError"
  | _ => "KeyError"

/-- The error in words. -/
def Error.message : Error → Text
  | .unbound name => Text.quoted name
  | .empty => []
  | .removal => "variables cannot be removed from a VariableEnvironment"

/-- The moment at which executions take place, in milliseconds. -/
def now : Int := 1700000000500

/-- The environment of an execution that starts: the time, the two addresses of the page, and the
    given variables, which may overwrite them. -/
def seeded (pageUrl rootUrl : Text) (initial : Environment) : Environment :=
  Ordered.overlay
    [("time", .int now), ("pageUrl", .text pageUrl), ("rootUrl", .text rootUrl)] initial

/-- The value of a name. -/
def find (env : Environment) (name : Text) : Except Error Value :=
  match Ordered.get? env name with
  | some v => .ok v
  | none => .error (.unbound name)

/-- Removing a name is never possible, whether it is there or not. -/
def remove (_env : Environment) (_name : Text) : Except Error Unit := .error .removal

/-- The default for a name that has no value; one that has a value would have to be removed. -/
def pop (env : Environment) (name : Text) (default? : Option Value) : Except Error Value :=
  if Ordered.contains env name then .error .removal
  else match default? with
    | some v => .ok v
    | none => .error (.unbound name)

/-- The first name with its value would have to be removed. -/
def popItem (env : Environment) : Except Error (Text × Value) :=
  if env.isEmpty then .error .empty else .error .removal

/-- Removing all names succeeds only if there are none. -/
def clear (env : Environment) : Except Error Unit :=
  if env.isEmpty then .ok () else .error .removal

/-- The value of a name, which is given the default first if it has none. -/
def ensure (env : Environment) (name : Text) (default : Value) : Value × Environment :=
  match Ordered.get? env name with
  | some v => (v, env)
  | none => (default, Ordered.put name default env)

end Environment

end PageQuery
