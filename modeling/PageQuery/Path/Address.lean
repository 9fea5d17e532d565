import PageQuery.Session
import PageQuery.Url.Parts

namespace PageQuery.Path

/-!
# Paths in addresses

* `changed`: an address with parameters set and parts replaced;
* `address`: the parts of an address by name.
-/

/-- An address that is being changed. -/
structure Draft where
  scheme : Text
  host : Text
  /-- The host and the port as they are written, where the port cannot be read. -/
  written : Option Text
  port : Option Int
  userInfo : Option Text
  path : Text
  query : Ordered (List Text)
  fragment : Text
  deriving Repr, DecidableEq

namespace Draft

/-- The draft of an address. -/
def ofParts (u : Url.Parts) : Draft :=
  let (port, written) : Option Int × Option Text :=
    match Url.port u.authority with
    | .ok port => (port.map Int.ofNat, none)
    | .error _ => (none, some (Url.written u.authority))
  ⟨u.scheme, Url.host u.authority, written, port, Url.userInfo? u.authority, u.path,
    Ordered.group (Url.readPairs u.query), u.fragment⟩

/-- The address of a draft. -/
def text (d : Draft) : Text :=
  let authority := d.written.getD d.host
  let authority := match d.port with
    | some n => authority ++ ':' :: Text.ofInt n
    | none => authority
  let authority := match d.userInfo with
    | some u => if u.isEmpty then authority else u ++ '@' :: authority
    | none => authority
  Url.join ⟨d.scheme, authority, d.path, Url.writePairs d.query, d.fragment⟩

/-- The names that values list, separated by commas. -/
def listed (values : List Text) : List Text := (values.flatMap (Text.split ',')).map Text.trim

/-- A draft with one parameter applied: a name with an underscore may stand for a part, whose last
    value counts; any other name is a parameter of the query. -/
def apply (d : Draft) (name : Text) (values : List Text) : Run Draft :=
  let value := values.getLast?.getD []
  match String.ofList name with
  | "_scheme" => return { d with scheme := value }
  | "_host" => return { d with host := value, written := none }
  | "_port" =>
    match Numeral.readInt? value with
    | some n => return { d with port := some n, written := none }
    | none => do
      Run.note (.port value)
      return d
  | "_path" => return { d with path := value }
  | "_fragment" => return { d with fragment := value }
  | "_userInfo" => return { d with userInfo := some value }
  | "_remove" => return { d with query := (listed values).foldl (fun q n => Ordered.erase n q) d.query }
  | _ => return { d with query := Ordered.put name values d.query }

end Draft

/-- An address taken apart. -/
def split (t : Text) : Run Url.Parts := Run.of ((Url.split t).mapError .url)

/-- An address with parameters applied, in order. -/
def changed (t : Text) (parameters : Ordered (List Text)) : Run Text := do
  let d := Draft.ofParts (← split t)
  return (← parameters.foldlM (fun d (name, values) => d.apply name values) d).text

/-- The port that a scheme has if none is given. -/
def defaultPort? (scheme : Text) : Option Nat :=
  Ordered.get? [("http", 80), ("https", 443), ("ws", 80), ("wss", 443), ("ftp", 21)] scheme

/-- The port of an address, which may be that of the scheme; zero counts as none. -/
def portOf (u : Url.Parts) : List Value :=
  match Url.port u.authority with
  | .error _ => []
  | .ok port =>
    match (port.filter (· != 0)).or (defaultPort? u.scheme) with
    | some n => [.text (Text.ofNat n)]
    | none => []

/-- The parts of an address that a path names. -/
def partsOf (u : Url.Parts) (path : Text) : List Value :=
  let query := Ordered.ofList (Url.readPairs u.query)
  match String.ofList path with
  | "scheme" => [.text u.scheme]
  | "host" => [.text (Url.host u.authority)]
  | "port" => portOf u
  | "path" => [.text u.path]
  | "query" => [.text u.query]
  | "fragment" => [.text u.fragment]
  | "userInfo" => [.text ((Url.userInfo? u.authority).getD [])]
  | "origin" => [.text (u.scheme ++ "://" ++ Url.written u.authority)]
  | "queryParameters" => [.map (query.map fun (name, v) => (.text name, .text v))]
  | _ =>
    match Text.after? "queryParameters/" path with
    | some name => (Ordered.get? query name).toList.map .text
    | none => []

/-- The results at the end of a path in an address, which the parameters change first. -/
def address (t path : Text) (parameters : Ordered (List Text)) : Run (List Value) := do
  let t ← if parameters.isEmpty then pure t else changed t parameters
  if path.isEmpty then return [.text t]
  else return partsOf (← split t) path

end PageQuery.Path
