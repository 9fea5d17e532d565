import PageQuery.Fault
import PageQuery.Ordered

namespace PageQuery

/-!
# Registries of transforms

A registry holds named functions on values and may fall back to another registry.

* `Registry`: own functions and the number of the registry to fall back to;
* `Registries`: all registries, by number;
* `Decorator`: where a function is still to be registered;
* `Scope`: the tables of functions that a registry sees, the nearest first;
* `Scope.find?`, `Scope.names`: the function of a name, and all names.
-/

/-- A named function on values. -/
abbrev Function := Value → Except Fault Value

/-- Functions by name. -/
abbrev Functions := Ordered Function

/-- The tables in which functions are looked up, the nearest first. -/
abbrev Scope := List Functions

namespace Scope

/-- The function of a name in the nearest table that has one. -/
def find? (s : Scope) (name : Text) : Option Function :=
  s.findSome? fun functions => Ordered.get? functions name

/-- The names of all functions, each once and in order. -/
def names (s : Scope) : List Text := Text.sort (s.flatMap Ordered.keys).eraseDups

end Scope

/-- Functions of its own, and where others are looked up. -/
structure Registry where
  functions : Functions
  parent : Option Nat

/-- Registries by number. -/
abbrev Registries := List Registry

namespace Registries

/-- The tables that a registry sees, at most as many as there are registries. -/
def scopeFrom (rs : Registries) : (fuel : Nat) → Option Nat → Scope
  | 0, _ => []
  | _ + 1, none => []
  | fuel + 1, some i =>
    match rs[i]? with
    | none => []
    | some r => r.functions :: scopeFrom rs fuel r.parent

/-- The tables that a registry sees. -/
def scope (rs : Registries) (i : Nat) : Scope := scopeFrom rs rs.length (some i)

/-- The registries with the functions of one changed. -/
def update (f : Functions → Functions) (i : Nat) (rs : Registries) : Registries :=
  rs.modify i fun r => { r with functions := f r.functions }

/-- The registries with a function registered in one of them. -/
def register (i : Nat) (name : Text) (f : Function) (rs : Registries) : Registries :=
  update (Ordered.put name f) i rs

/-- The registries with a name taken from one of them. -/
def unregister (i : Nat) (name : Text) (rs : Registries) : Registries :=
  update (Ordered.erase name) i rs

end Registries

/-- What registering without a function gives: a registry and the name under which it registers a function later. -/
structure Decorator where
  registry : Nat
  name : Text

/-- The registries with a function registered by a decorator. -/
def Decorator.apply (d : Decorator) (f : Function) (rs : Registries) : Registries :=
  rs.register d.registry d.name f

end PageQuery
