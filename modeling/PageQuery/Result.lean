import PageQuery.Value

namespace PageQuery

/-!
# Results

The results of a query are a flat list of values.

* `Results.ofValue`: a value as results;
* `Results.kept`, `Results.opened`: results without the discarded values, and with them opened;
* `Results.simplified`: results as one value.
-/

/-- The results of a query. -/
abbrev Results := List Value

namespace Results

/-- A value as results: a list is one already, and nothing gives none. -/
def ofValue : Value → Results
  | .list vs => vs
  | .null => []
  | v => [v]

/-- Results without the values that have only been saved. -/
def kept (rs : Results) : Results :=
  rs.filter fun
    | .discarded _ => false
    | _ => true

/-- Results with the values that have only been saved as if they were returned. -/
def opened (rs : Results) : Results :=
  rs.map fun
    | .discarded v => v
    | v => v

/-- Results as one value: nothing, the only one, or a list. -/
def simplified : Results → Value
  | [] => .null
  | [v] => v
  | vs => .list vs

end Results

mutual

/-- The values in nested lists, in order. -/
def Value.flattened : Value → List Value
  | .list vs => flattenedItems vs
  | v => [v]

/-- The values in a list of nested lists, in order. -/
def flattenedItems : List Value → List Value
  | [] => []
  | v :: rest => v.flattened ++ flattenedItems rest

end

end PageQuery
