import PageQuery.Text.Basic
import PageQuery.Number.Binary64
import PageQuery.Html.Tree

namespace PageQuery

/-!
# Values

What queries pass around: the values of JSON and YAML documents, page elements, and values that
have been saved and are not to be returned.

* `Scalar`: values without parts, which may also be keys;
* `Value`: scalars, lists, maps in insertion order, elements and discarded values;
* `Entries.get?`, `Entries.put`: reading a map and writing to it.
-/

/-- A day of the calendar, or a moment of one with an optional distance from universal time in
    seconds. -/
inductive Stamp where
  | day (year month day : Nat)
  | moment (year month day hour minute second micro : Nat) (offset : Option Int)
  deriving Repr, DecidableEq

/-- A value without parts. -/
inductive Scalar where
  | null
  | bool (b : Bool)
  | int (n : Int)
  | float (x : Float)
  | text (t : Text)
  | stamp (s : Stamp)
  | bytes (bs : List UInt8)
  deriving Repr, Inhabited

/-- A value. Maps keep the order in which their keys were first written. -/
inductive Value where
  | scalar (s : Scalar)
  | list (items : List Value)
  | map (entries : List (Scalar × Value))
  | element (e : Html.Element)
  /-- A value that was saved under a name and is not part of the result. -/
  | discarded (v : Value)
  deriving Repr, Inhabited

namespace Scalar

/-- The number that a scalar counts as when keys are compared: truth values are one and zero, and
    a whole double is the whole number. -/
def key? : Scalar → Option Int
  | .bool b => some (if b then 1 else 0)
  | .int n => some n
  | .float x => Binary64.whole? x
  | _ => none

/-- Whether two scalars are the same key. -/
def sameKey (a b : Scalar) : Bool :=
  match a, b with
  | .null, .null => true
  | .text s, .text t => s == t
  | .stamp s, .stamp t => s == t
  | .bytes s, .bytes t => s == t
  | .float x, .float y => x == y
  | a, b =>
    match a.key?, b.key? with
    | some m, some n => m == n
    | _, _ => false

end Scalar

namespace Value

/-- The value that stands for the absence of one. -/
@[match_pattern] abbrev null : Value := .scalar .null

/-- A truth value. -/
@[match_pattern] abbrev bool (b : Bool) : Value := .scalar (.bool b)

/-- A whole number. -/
@[match_pattern] abbrev int (n : Int) : Value := .scalar (.int n)

/-- A double. -/
@[match_pattern] abbrev float (x : Float) : Value := .scalar (.float x)

/-- A text. -/
@[match_pattern] abbrev text (t : Text) : Value := .scalar (.text t)

/-- Whether a value is absent. -/
def isNull : Value → Bool
  | .null => true
  | _ => false

/-- Whether a value may be part of a result: it is there, and as a text it is neither blank nor the
    word `null`. -/
def isValid : Value → Bool
  | .null => false
  | .text t => t != "null" && !Text.isBlank t
  | _ => true

end Value

/-- The entries of a map, in the order of their keys' first writing. -/
abbrev Entries := List (Scalar × Value)

namespace Entries

/-- The value under a key. -/
def get? (entries : Entries) (key : Scalar) : Option Value :=
  (entries.find? fun e => e.1.sameKey key).map (·.2)

/-- The entries with a key set: an old key keeps its place, a new one comes last. -/
def put (key : Scalar) (v : Value) : Entries → Entries
  | [] => [(key, v)]
  | e :: rest => if e.1.sameKey key then (e.1, v) :: rest else e :: put key v rest

/-- The entries overlaid by others, written one after the other. -/
def overlay (entries changes : Entries) : Entries :=
  changes.foldl (fun acc e => put e.1 e.2 acc) entries

/-- Entries from a list in which a key may be repeated; the last value counts. -/
def ofList (pairs : List (Scalar × Value)) : Entries := overlay [] pairs

end Entries

end PageQuery
