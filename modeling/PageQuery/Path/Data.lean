import PageQuery.Query.Lexeme
import PageQuery.Result
import PageQuery.Text.Basic
import PageQuery.Value.Display

namespace PageQuery.Path

/-!
# Paths in data

A path leads through maps and lists. Its parts stand between slashes; a part lists keys, separated by
`,` for all of them and by `|` for the first that leads somewhere.

* `step`: what a value has under one key;
* `data`: the results at the end of a path.
-/

/-- The keys of a map as texts. -/
def keyTexts (entries : Entries) : Except Numeral.Error (List Text) :=
  entries.mapM fun e => e.1.plain

/-- Whether a part of a path asks for keys by wildcards. -/
def isWild (part : Text) : Bool := part.contains '*' || part.contains '?'

/-- A part of a path with wildcards replaced by the keys that fit, in order. A part that fits no key
    stays. -/
def expandKey (entries : Entries) (part : Text) : Except Numeral.Error Text :=
  if Query.wildcards.contains part || part == "*" || Text.startsWith ".." part || !isWild part then
    .ok part
  else do
    let pattern := Text.dropEndWhile (· == '!') part
    let found := (← keyTexts entries).filter (Text.glob pattern)
    return if found.isEmpty then part else Text.join [','] (Text.sort found)

/-- The keys that one part of a path lists, with wildcards replaced where a map is read. -/
def expand (v : Value) (part : Text) : Except Numeral.Error Text :=
  match v with
  | .map entries => do
    let parts := (Query.split Query.wildcards part).map fun l => Text.trim l.text
    return (← parts.mapM (expandKey entries)).flatten
  | _ => .ok part

mutual

/-- The values under keys that fit a pattern, anywhere inside a value; lists among them are opened. -/
def deepSearch (pattern : Text) : Value → Except Numeral.Error (List Value)
  | .map entries => deepEntries pattern entries
  | .list vs => deepItems pattern vs
  | _ => .ok []

/-- The same for the items of a list. -/
def deepItems (pattern : Text) : List Value → Except Numeral.Error (List Value)
  | [] => .ok []
  | v :: rest => do
    let found ← deepSearch pattern v
    return found ++ (← deepItems pattern rest)

/-- The same for the entries of a map, where an entry comes before what is inside it. -/
def deepEntries (pattern : Text) : List (Scalar × Value) → Except Numeral.Error (List Value)
  | [] => .ok []
  | (key, v) :: rest => do
    let here := if Text.glob pattern (← key.plain) then
        match v with
        | .list vs => vs
        | v => [v]
      else []
    let inside ← deepSearch pattern v
    return here ++ inside ++ (← deepEntries pattern rest)

end

/-- The values that the maps of a list have under a key. -/
def pluck (key : Text) (vs : List Value) : List Value :=
  vs.filterMap fun
    | .map entries => (Entries.get? entries (.text key)).filter fun v => !v.isNull
    | _ => none

/-- The items of a list from one position to before another, where a negative one counts from the
    end. -/
def sliced (vs : List Value) (start stop : Int) : List Value :=
  let place (i : Int) : Nat := (if i < 0 then max 0 (i + vs.length) else i).toNat
  (vs.take (place stop)).drop (place start)

/-- The positions that a key such as `2-4` names. -/
def range? (count : Nat) (key : Text) : Option (Int × Int) :=
  match Text.cut '-' key with
  | ([], _) => none
  | (_, none) => none
  | (first, some last) => do
    let start ← Numeral.readInt? first
    let stop ← if last.isEmpty then some ((count : Int) - 1) else Numeral.readInt? last
    return (start, stop + 1)

/-- Whether a key has the form of a range. -/
def isRange (key : Text) : Bool := key.contains '-' && key.head? != some '-'

/-- What a list has under a key: the items of a range, one item, or what its maps have there. -/
def stepInList (vs : List Value) (key : Text) : Value :=
  if isRange key then
    match range? vs.length key with
    | some (start, stop) => .list (sliced vs start stop)
    | none => .list (pluck key vs)
  else
    match Numeral.readInt? key with
    | some i => if i < 0 then .null else vs[i.toNat]?.getD .null
    | none => .list (pluck key vs)

/-- What a value has under one key. -/
def step (v : Value) (key : Text) : Except Numeral.Error Value :=
  if key = "*" then .ok v
  else
    match Text.after? ".." key with
    | some pattern => do return .list (← deepSearch pattern v)
    | none =>
      match v with
      | .list vs => .ok (stepInList vs key)
      | .map entries =>
        if key = "@keys" then .ok (.list (entries.map fun e => .scalar e.1))
        else .ok ((Entries.get? entries (.text key)).getD .null)
      | _ => .ok .null

/-- The results for the keys of one part. `go` says what follows a key; `required` says whether the next
    key counts although there are results. -/
def alternatives (go : Text → Except Numeral.Error (List Value)) :
    (found : List Value) → (required : Bool) → List Text → Except Numeral.Error (List Value)
  | found, _, [] => .ok found
  | found, required, key :: rest =>
    if key == "|" then alternatives go found false rest
    else if key == "," then alternatives go found true rest
    else
      let (key, required) : Text × Bool :=
        if Text.endsWith "!" key then (key.dropLast, true) else (key, required)
      if !found.isEmpty && !required then alternatives go found required rest
      else do alternatives go (found ++ (← go key)) required rest

/-- The results at the end of the parts of a path. -/
def walk : (parts : List Text) → Value → Except Numeral.Error (List Value)
  | [], v => .ok (Results.ofValue v)
  | part :: rest, v => do
    let keys := (Query.split Query.alternatives (← expand v part)).map fun l => Text.trim l.text
    alternatives (fun key => do walk rest (← step v key)) [] true keys

/-- The results at the end of a path in data. -/
def data (v : Value) (path : Text) : Except Numeral.Error Results :=
  walk ((Text.split '/' path).filter fun p => !p.isEmpty) v

end PageQuery.Path
