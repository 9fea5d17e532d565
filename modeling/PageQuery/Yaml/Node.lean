import PageQuery.Yaml.Token
import PageQuery.Ordered

namespace PageQuery.Yaml

/-!
# Nodes of a YAML document

* `Node`: scalars, sequences and mappings with their tags;
* `Node.read t`: the node of a text that is a single document. An alias gives a copy of the node that
  it names.
-/

/-- A node. A missing tag leaves the kind of a node to its form; a scalar says whether its kind
    depends on its text. -/
inductive Node where
  | scalar (tag : Option Text) (byText : Bool) (t : Text)
  | sequence (tag : Option Text) (items : List Node)
  | mapping (tag : Option Text) (entries : List (Node × Node))
  deriving Repr, Inhabited

namespace Node

/-- The tokens still to be read, and the nodes that have been given a name; a node that is still being
    read has none yet. -/
structure Reading where
  tokens : List Token
  named : Ordered (Option Node) := []
  deriving Repr

/-- A step that reads tokens. -/
abbrev Reader := StateT Reading (Except Error)

/-- The next token. -/
def peek? : Reader (Option Token) := return (← get).tokens.head?

/-- Passes over the next token. -/
def skip : Reader Unit := modify fun r => { r with tokens := r.tokens.drop 1 }

/-- Passes over the next token if it is the given one. -/
def accept (t : Token) : Reader Bool := do
  if (← peek?) == some t then
    skip
    return true
  else return false

/-- Passes over the next token, which has to be the given one. -/
def expect (t : Token) : Reader Unit := do
  if !(← accept t) then throw .malformed

/-- Whether the next token is one of some tokens. -/
def sees (ts : List Token) : Reader Bool := return (← peek?).any ts.contains

/-- The node in place of which nothing is written. -/
def nothing : Node := .scalar none true []

/-- A tag as it is written, with its handle replaced. -/
def fullTag (handles : Ordered Text) (handle : Option Text) (suffix : Text) :
    Except Error Text :=
  match handle with
  | none => .ok suffix
  | some h =>
    match Ordered.get? handles h with
    | none => .error .malformed
    | some lead => .ok (lead ++ suffix)

/-- The name of the node to come, if one is written here. -/
def anchor? : Reader (Option Text) := do
  match ← peek? with
  | some (.anchor n) => do
    skip
    return some n
  | _ => return none

/-- The tag of the node to come, if one is written here. -/
def tag? (handles : Ordered Text) : Reader (Option Text) := do
  match ← peek? with
  | some (.tag h suffix) => do
    skip
    return some (← fullTag handles h suffix)
  | _ => return none

/-- The name and the tag of the node to come, in either order. -/
def properties (handles : Ordered Text) : Reader (Option Text × Option Text) := do
  match ← anchor? with
  | some n => return (some n, ← tag? handles)
  | none => do
    let t ← tag? handles
    return (← if t.isSome then anchor? else pure none, t)

/-- Keeps a name for the node to come; a name can be used once only. -/
def reserve (name : Option Text) : Reader Unit := do
  match name with
  | none => return ()
  | some n =>
    if Ordered.contains (← get).named n then throw .malformed
    else modify fun r => { r with named := Ordered.put n none r.named }

/-- Notes the node that a name stands for. -/
def define (name : Option Text) (node : Node) : Reader Node := do
  match name with
  | none => return node
  | some n => do
    modify fun r => { r with named := Ordered.put n (some node) r.named }
    return node

/-- The tag that takes part in finding the kind of a node: a single exclamation mark does not. -/
def ownTag (tag : Option Text) : Option Text := tag.filter (· != "!".toList)

mutual

/-- A node at this place. Inside brackets no blocks may begin; as a value of a mapping a sequence may
    begin without indentation. -/
def node (handles : Ordered Text) (inFlow unindented : Bool) : (fuel : Nat) → Reader Node
  | 0 => throw .malformed
  | fuel + 1 => do
    match ← peek? with
    | some (.alias n) => do
      skip
      match Ordered.get? (← get).named n with
      | some (some found) => return found
      | _ => throw .malformed
    | _ => do
      let (name, tag) ← properties handles
      let whole := ownTag tag
      let next ← peek?
      match next with
      | some (.scalar t plain) => do
        skip
        reserve name
        let byText := (plain && tag.isNone) || tag == some ['!']
        define name (.scalar whole byText t)
      | some .openBracket => do
        skip
        reserve name
        define name (.sequence whole (← flowItems handles true fuel))
      | some .openBrace => do
        skip
        reserve name
        define name (.mapping whole (← flowEntries handles true fuel))
      | _ =>
        if unindented && next == some .hyphen then do
          reserve name
          define name (.sequence whole (← hyphenItems handles fuel))
        else if !inFlow && next == some .sequenceStart then do
          skip
          reserve name
          let items ← blockItems handles fuel
          define name (.sequence whole items)
        else if !inFlow && next == some .mappingStart then do
          skip
          reserve name
          let entries ← blockEntries handles fuel
          define name (.mapping whole entries)
        else if name.isSome || tag.isSome then do
          reserve name
          define name (.scalar whole (tag.all (· == "!".toList)) [])
        else throw .malformed

/-- The items of an indented sequence, up to its end. -/
def blockItems (handles : Ordered Text) : (fuel : Nat) → Reader (List Node)
  | 0 => throw .malformed
  | fuel + 1 => do
    if ← accept .hyphen then
      let item ← if ← sees [.hyphen, .blockEnd] then pure nothing else node handles false false fuel
      return item :: (← blockItems handles fuel)
    else do
      expect .blockEnd
      return []

/-- The items of a sequence that is not indented. -/
def hyphenItems (handles : Ordered Text) : (fuel : Nat) → Reader (List Node)
  | 0 => throw .malformed
  | fuel + 1 => do
    if ← accept .hyphen then
      let item ← if ← sees [.hyphen, .key, .value, .blockEnd] then pure nothing
        else node handles false false fuel
      return item :: (← hyphenItems handles fuel)
    else return []

/-- The entries of an indented mapping, up to its end. -/
def blockEntries (handles : Ordered Text) : (fuel : Nat) → Reader (List (Node × Node))
  | 0 => throw .malformed
  | fuel + 1 => do
    if ← accept .key then
      let key ← if ← sees [.key, .value, .blockEnd] then pure nothing
        else node handles false true fuel
      let value ← blockValue handles fuel
      return (key, value) :: (← blockEntries handles fuel)
    else do
      expect .blockEnd
      return []

/-- The value of an entry of an indented mapping, which may be missing. -/
def blockValue (handles : Ordered Text) : (fuel : Nat) → Reader Node
  | 0 => throw .malformed
  | fuel + 1 => do
    if ← accept .value then
      if ← sees [.key, .value, .blockEnd] then return nothing
      else node handles false true fuel
    else return nothing

/-- The items between brackets, up to the closing one. A key among them makes a mapping of one entry. -/
def flowItems (handles : Ordered Text) (first : Bool) : (fuel : Nat) → Reader (List Node)
  | 0 => throw .malformed
  | fuel + 1 => do
    if ← accept .closeBracket then return []
    if !first then expect .comma
    if ← accept .key then
      let key ← if ← sees [.value, .comma, .closeBracket] then pure nothing
        else node handles true false fuel
      let value ← flowValue handles .closeBracket fuel
      return .mapping none [(key, value)] :: (← flowItems handles false fuel)
    else if ← accept .closeBracket then return []
    else do
      let item ← node handles true false fuel
      return item :: (← flowItems handles false fuel)

/-- The entries between braces, up to the closing one. -/
def flowEntries (handles : Ordered Text) (first : Bool) : (fuel : Nat) → Reader (List (Node × Node))
  | 0 => throw .malformed
  | fuel + 1 => do
    if ← accept .closeBrace then return []
    if !first then expect .comma
    if ← accept .key then
      let key ← if ← sees [.value, .comma, .closeBrace] then pure nothing
        else node handles true false fuel
      let value ← flowValue handles .closeBrace fuel
      return (key, value) :: (← flowEntries handles false fuel)
    else if ← accept .closeBrace then return []
    else do
      let key ← node handles true false fuel
      return (key, nothing) :: (← flowEntries handles false fuel)

/-- The value of an entry inside brackets, which may be missing. -/
def flowValue (handles : Ordered Text) (close : Token) : (fuel : Nat) → Reader Node
  | 0 => throw .malformed
  | fuel + 1 => do
    if ← accept .value then
      if ← sees [.comma, close] then return nothing
      else node handles true false fuel
    else return nothing

end

/-! ### Documents -/

/-- The handles that a document may use without declaring them. -/
def standardHandles : Ordered Text :=
  [(['!'], ['!']), ("!!".toList, "tag:yaml.org,2002:".toList)]

/-- The handles that directives declare, and the tokens after them. The version may be given once, and
    no handle twice. -/
def declared (version : Bool) (handles : Ordered Text) :
    List Token → Except Error (Ordered Text × List Token)
  | .directive (.version major) :: rest =>
    if version || major != 1 then .error .malformed else declared true handles rest
  | .directive (.handle h lead) :: rest =>
    if Ordered.contains handles h then .error .malformed
    else declared version (Ordered.put h lead handles) rest
  | .directive .other :: rest => declared version handles rest
  | rest => .ok (Ordered.overlay standardHandles handles, rest)

/-- Whether tokens begin with one that stands between documents. -/
def atDocumentEdge : List Token → Bool
  | [] => true
  | .directive _ :: _ => true
  | .documentStart :: _ => true
  | .documentEnd :: _ => true
  | _ => false

/-- The node of the tokens of a text, if there is a document in it. -/
def ofTokens? (ts : List Token) : Except Error (Option Node) := do
  let read (handles : Ordered Text) (ts : List Token) : Except Error (Option Node) := do
    let (n, after) ← (node handles false false (4 * ts.length + 4)).run { tokens := ts }
    if after.tokens.all (· == .documentEnd) then return some n else throw .malformed
  match ts with
  | [] => return none
  | .directive _ :: _ | .documentStart :: _ =>
    let (handles, rest) ← declared false [] ts
    match rest with
    | .documentStart :: rest =>
      if !atDocumentEdge rest then read handles rest
      else if rest.all (· == .documentEnd) then return some nothing
      else throw .malformed
    | _ => throw .malformed
  | _ => read standardHandles ts

/-- The node of a text, if there is a document in it. -/
def read (t : Text) : Except Error (Option Node) := do ofTokens? (← tokens t)

end Node

end PageQuery.Yaml
