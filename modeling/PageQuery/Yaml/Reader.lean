import PageQuery.Bytes.Base64
import PageQuery.Number.Numeral
import PageQuery.Text.Case
import PageQuery.Yaml.Kind
import PageQuery.Yaml.Node

namespace PageQuery.Yaml

/-!
# Values of YAML documents

* `Node.value`: the value of a node, which depends on its kind and, for a scalar, on its text;
* `read t`: the value of a text that is a single document.
-/

/-! ### Numbers -/

/-- The text without underscores, whether it is negative, and what follows its sign. -/
def signed (t : Text) : Except Error (Bool × Text) :=
  match t.filter (· != '_') with
  | [] => .error .emptyNumber
  | '-' :: rest => .ok (true, rest)
  | '+' :: rest => .ok (false, rest)
  | t => .ok (false, t)

/-- The digits of a numeral in a base, after a letter that may name the base. -/
def afterLetter (base : Nat) (t : Text) : Text :=
  let letter := if base = 2 then 'b' else if base = 8 then 'o' else 'x'
  match t with
  | '0' :: c :: rest => if c.toLower == letter then rest else t
  | _ => t

/-- The whole number that digits of a base stand for, which may have a sign and white space around. -/
def based (base : Nat) (t : Text) : Except Error Int :=
  let (negative, body) := Numeral.sign (Numeral.unpad (Numeral.plain t))
  let digit? (c : Char) : Option Nat := (Text.hexDigit? c).filter (· < base)
  match afterLetter base body with
  | [] => .error .unreadable
  | ds =>
    match ds.foldlM (fun n c => (digit? c).map (base * n + ·)) 0 with
    | none => .error .unreadable
    | some n => .ok (if negative then -(n : Int) else n)

/-- A decimal whole number. -/
def decimal (t : Text) : Except Error Int := (Numeral.readInt t).mapError fun _ => .unreadable

/-- The whole number that the text of a node stands for. -/
def wholeNumber (t : Text) : Except Error Int := do
  let (negative, body) ← signed t
  let size : Int ← match body with
    | ['0'] => pure 0
    | '0' :: 'b' :: rest => based 2 rest
    | '0' :: 'x' :: rest => based 16 rest
    | '0' :: _ => based 8 body
    | [] => throw .emptyNumber
    | _ =>
      if body.contains ':' then do
        let parts ← (Text.split ':' body).mapM decimal
        pure (parts.foldl (fun n part => 60 * n + part) 0)
      else decimal body
  return if negative then -size else size

/-- A double. -/
def double (t : Text) : Except Error Float :=
  match Numeral.readFloat? t with
  | some x => .ok x
  | none => .error .unreadable

/-- The double that numerals in sixtieths stand for, the last of them first; `power` is the power of
    sixty of the first. -/
def sixtieths (power : Nat) (sum : Float) : List Float → Float
  | [] => sum
  | x :: rest => sixtieths (power + 1) (sum + x * Binary64.ofRatio false (Nat.pow 60 power) 1) rest

/-- The double that the text of a node stands for. -/
def number (t : Text) : Except Error Float := do
  let (negative, body) ← signed (Text.lower t)
  let sign : Float := if negative then -1.0 else 1.0
  if body = ".inf" then return sign * (1.0 / 0.0)
  else if body = ".nan" then return 0.0 / 0.0
  else if body.contains ':' then
    let parts ← (Text.split ':' body).mapM double
    return sign * sixtieths 0 0.0 parts.reverse
  else return sign * (← double body)

/-! ### Days and moments -/

/-- Whether a year has a day more than others. -/
def isLeap (year : Nat) : Bool := year % 4 == 0 && (year % 100 != 0 || year % 400 == 0)

/-- How many days a month has. -/
def monthDays (year month : Nat) : Nat :=
  if month = 2 then (if isLeap year then 29 else 28)
  else if [4, 6, 9, 11].contains month then 30
  else 31

/-- Six digits of a fraction, as a number. -/
def micro (fraction : Text) : Nat :=
  let ds := fraction.take 6
  Numeral.value (ds ++ List.replicate (6 - ds.length) '0')

/-- The distance from universal time in seconds; it is less than a day. -/
def offset (negative : Bool) (hours minutes : Text) : Except Error Int :=
  let seconds : Int := 3600 * Numeral.value hours + 60 * Numeral.value minutes
  if 86400 ≤ seconds then .error .unreadable
  else .ok (if negative then -seconds else seconds)

/-- The day or moment of its numerals, if the calendar and the clock have it. -/
def stamp (s : Kind.StampText) : Except Error Stamp := do
  let year := Numeral.value s.year
  let month := Numeral.value s.month
  let day := Numeral.value s.day
  let zone ← s.zone.mapM fun (negative, hours, minutes) => offset negative hours minutes
  if year = 0 || month = 0 || 12 < month || day = 0 || monthDays year month < day then
    throw .unreadable
  match s.time with
  | none => return .day year month day
  | some (h, m, sec) =>
    let hour := Numeral.value h
    let minute := Numeral.value m
    let second := Numeral.value sec
    if 23 < hour || 59 < minute || 59 < second then throw .unreadable
    return .moment year month day hour minute second (micro s.fraction) zone

/-! ### Bytes -/

/-- The bytes of base 64 text in which foreign characters do not count. -/
def binary (t : Text) : Except Error Bytes :=
  if t.any (128 ≤ ·.toNat) then .error .malformed
  else match Base64.decodeLoose t with
    | .ok bs => .ok bs
    | .error _ => .error .malformed

/-! ### Nodes -/

namespace Node

/-- The kind of a node. -/
def kind : Node → Kind
  | .scalar (some tag) _ _ => Kind.ofTag tag
  | .scalar none true t => Kind.ofText t
  | .scalar none false _ => .text
  | .sequence (some tag) _ => Kind.ofTag tag
  | .sequence none _ => .sequence
  | .mapping (some tag) _ => Kind.ofTag tag
  | .mapping none _ => .mapping

/-- The text of a scalar, or of the scalar that stands for a whole mapping. -/
def text? : Node → Option Text
  | .scalar _ _ t => some t
  | .sequence .. => none
  | .mapping _ entries => standing entries
where
  /-- The text of the first value under the key of default values. -/
  standing : List (Node × Node) → Option Text
    | [] => none
    | (k, v) :: rest => if k.kind = .default then v.text? else standing rest

/-- The text of a node that has one. -/
def text (n : Node) : Except Error Text :=
  match n.text? with
  | some t => .ok t
  | none => .error .malformed

mutual

/-- The entries of a mapping with others merged into it: those come first, and its own count. -/
def merged : Node → Except Error (List (Node × Node))
  | .mapping _ entries => do
    let (others, own) ← separate entries
    return others ++ own
  | _ => .error .malformed

/-- The entries that are to be merged into a mapping, and its own ones. -/
def separate : List (Node × Node) → Except Error (List (Node × Node) × List (Node × Node))
  | [] => .ok ([], [])
  | (key, value) :: rest => do
    if key.kind = .merge then
      let new ← match value with
        | .mapping tag entries => merged (.mapping tag entries)
        | .sequence _ items => mergedAll items
        | .scalar .. => .error .malformed
      let (others, own) ← separate rest
      return (new ++ others, own)
    else
      let (others, own) ← separate rest
      return (others, (key, value) :: own)

/-- The entries of several mappings, those of the last one first. -/
def mergedAll : List Node → Except Error (List (Node × Node))
  | [] => .ok []
  | n :: rest => do
    let first ← merged n
    return (← mergedAll rest) ++ first

end

/-- The value of a scalar of a kind that goes by its text. -/
def scalarValue (k : Kind) (t : Text) : Except Error Value :=
  match k with
  | .null => .ok .null
  | .bool =>
    match Kind.truth? (Text.lower t) with
    | some b => .ok (.bool b)
    | none => .error .noTruthValue
  | .int => do return .int (← wholeNumber t)
  | .float => do return .float (← number t)
  | .binary => do return .scalar (.bytes (← binary t))
  | .stamp =>
    match Kind.stampText? t with
    | none => .error .noStamp
    | some s => do return .scalar (.stamp (← stamp s))
  | .text => .ok (.text t)
  | _ => .error .malformed

mutual

/-- The value of a node. -/
def value : (fuel : Nat) → Node → Except Error Value
  | 0, _ => .error .malformed
  | fuel + 1, n =>
    match n.kind, n with
    | .sequence, .sequence _ items => do return .list (← values fuel items)
    | .mapping, n => do
      let entries ← merged n
      return .map (Entries.ofList (← entryValues fuel entries))
    | .orderedMap, .sequence _ items => do return .list (← pairValues fuel items)
    | .pairs, .sequence _ items => do return .list (← pairValues fuel items)
    | k, n => do scalarValue k (← n.text)

/-- The values of the items of a sequence. -/
def values : (fuel : Nat) → List Node → Except Error (List Value)
  | 0, _ => .error .malformed
  | _ + 1, [] => .ok []
  | fuel + 1, n :: rest => do
    let v ← value fuel n
    return v :: (← values fuel rest)

/-- The keys and values of entries; a list or a map is no key. -/
def entryValues : (fuel : Nat) → List (Node × Node) → Except Error Entries
  | 0, _ => .error .malformed
  | _ + 1, [] => .ok []
  | fuel + 1, (k, v) :: rest => do
    let key ← match k.kind, k with
      | .default, .scalar _ _ t => pure (Scalar.text t)
      | _, _ => do
        match ← value fuel k with
        | .scalar s => pure s
        | _ => throw .malformed
    let v ← value fuel v
    return (key, v) :: (← entryValues fuel rest)

/-- The items of a sequence of mappings with one entry each, as pairs. -/
def pairValues : (fuel : Nat) → List Node → Except Error (List Value)
  | 0, _ => .error .malformed
  | _ + 1, [] => .ok []
  | fuel + 1, n :: rest =>
    match n with
    | .mapping _ [(k, v)] => do
      let key ← value fuel k
      let v ← value fuel v
      return .list [key, v] :: (← pairValues fuel rest)
    | _ => .error .malformed

end

/-! ### Size -/

mutual

/-- How many nodes a node holds, in a count that bounds the depth of reading it. -/
def size : Node → Nat
  | .scalar .. => 1
  | .sequence _ items => 2 + sizeItems items
  | .mapping _ entries => 2 + sizeEntries entries

/-- The sizes of nodes together. -/
def sizeItems : List Node → Nat
  | [] => 1
  | n :: rest => n.size + sizeItems rest + 1

/-- The sizes of entries together. -/
def sizeEntries : List (Node × Node) → Nat
  | [] => 1
  | (k, v) :: rest => k.size + v.size + sizeEntries rest + 1

end

end Node

/-- The value of a text that is a single document; without a document there is none. -/
def read (t : Text) : Except Error Value := do
  match ← Node.read t with
  | none => return .null
  | some n => n.value (2 * n.size + 2)

end PageQuery.Yaml
