import PageQuery.Text.Basic

namespace PageQuery

/-!
# Named entries in order

Lists of named entries that keep the order in which the names first came.

* `Ordered.get?`, `Ordered.put`, `Ordered.erase`: reading, writing and dropping one entry;
* `Ordered.add`: adding to the list of values under a name;
* `Ordered.keys`: the names in order.
-/

/-- Entries under names, in the order in which the names first came. -/
abbrev Ordered (α : Type) := List (Text × α)

namespace Ordered

variable {α : Type}

/-- The entry under a name. -/
def get? (m : Ordered α) (name : Text) : Option α := List.lookup name m

/-- Whether there is an entry under a name. -/
def contains (m : Ordered α) (name : Text) : Bool := (get? m name).isSome

/-- The names, in order. -/
def keys (m : Ordered α) : List Text := m.map (·.1)

/-- The entries with one set: an old name keeps its place, a new one comes last. -/
def put (name : Text) (v : α) : Ordered α → Ordered α
  | [] => [(name, v)]
  | (key, old) :: rest => if key = name then (key, v) :: rest else (key, old) :: put name v rest

/-- The entries without the one under a name. -/
def erase (name : Text) (m : Ordered α) : Ordered α := m.filter (·.1 != name)

/-- Values added to the list under a name, after those that are there. -/
def add (name : Text) (vs : List α) (m : Ordered (List α)) : Ordered (List α) :=
  put name ((get? m name).getD [] ++ vs) m

/-- Pairs gathered under their names. -/
def group (pairs : List (Text × α)) : Ordered (List α) :=
  pairs.foldl (fun m p => add p.1 [p.2] m) []

/-- Entries from pairs in which a name may be repeated; the last one counts. -/
def ofList (pairs : List (Text × α)) : Ordered α := pairs.foldl (fun m p => put p.1 p.2 m) []

/-- The entries overlaid by others. -/
def overlay (m changes : Ordered α) : Ordered α := changes.foldl (fun m p => put p.1 p.2 m) m

end Ordered

end PageQuery
