import PageQuery.Fault
import PageQuery.Value.Display

namespace PageQuery.Http

/-!
# Requests

* `Settings`: how long to wait, how often to try again, and what to send along;
* `Settings.read`: settings from named values;
* `Request.make`: the request that settings and a body give.
-/

/-- How requests are sent. -/
structure Settings where
  /-- Seconds to wait for an answer. -/
  timeout : Float
  /-- How often to try again. -/
  retries : Int
  /-- Seconds before the second attempt; each further pause is twice as long. -/
  backoff : Float
  headers : Entries
  params : Entries
  deriving Repr

/-- What is sent. -/
structure Request where
  method : Text
  url : Text
  headers : Entries
  params : Entries
  content : Option Bytes
  deriving Repr

/-! ### Settings from named values -/

/-- A whole number as a double. -/
def double (n : Int) : Except Fault Float :=
  match Binary64.ofInt? n with
  | some x => .ok x
  | none => .error (.tooLarge "int too large to convert to float")

/-- A number of seconds. -/
def seconds : Value → Except Fault Float
  | .scalar (.float x) => .ok x
  | .scalar (.int n) => double n
  | .scalar (.bool b) => .ok (if b then 1.0 else 0.0)
  | .scalar (.text t) =>
    match Numeral.readFloat? t with
    | some x => .ok x
    | none => .error (.unfit ("could not convert string to float: " ++ Text.quoted t))
  | v => .error (.mistyped
      ("float() argument must be a string or a real number, not '" ++ v.kindName ++ ['\'']))

/-- A number of attempts. -/
def count : Value → Except Fault Int
  | .scalar (.int n) => .ok n
  | .scalar (.bool b) => .ok (if b then 1 else 0)
  | .scalar (.float x) =>
    if x.isNaN then .error (.unfit "cannot convert float NaN to integer")
    else if x.isInf then .error (.tooLarge "cannot convert float infinity to integer")
    else .ok (Binary64.truncate x)
  | .scalar (.text t) => (Numeral.readInt t).mapError .numeral
  | v => .error (.mistyped
      ("int() argument must be a string, a bytes-like object or a real number, not '" ++ v.kindName ++
        ['\'']))

/-- The key and the value that an item of a list stands for. -/
def pairOf (index : Nat) (v : Value) : Except Fault (Scalar × Value) :=
  let wrong (n : Nat) : Except Fault (Scalar × Value) :=
    .error (.unfit ("dictionary update sequence element #" ++ Text.ofNat index ++ " has length " ++
      Text.ofNat n ++ "; 2 is required"))
  match v with
  | .list [.scalar k, v] => .ok (k, v)
  | .list [k, _] => .error (.mistyped ("unhashable type: '" ++ k.kindName ++ ['\'']))
  | .list vs => wrong vs.length
  | .scalar (.text [a, b]) => .ok (.text [a], .text [b])
  | .scalar (.text t) => wrong t.length
  | .map [(a, _), (b, _)] => .ok (a, .scalar b)
  | .map es => wrong es.length
  | _ => .error (.mistyped ("cannot convert dictionary update sequence element #" ++
      Text.ofNat index ++ " to a sequence"))

/-- The pairs that the items of a list stand for. -/
def pairsOf (index : Nat) : List Value → Except Fault Entries
  | [] => .ok []
  | v :: rest => do
    let p ← pairOf index v
    return p :: (← pairsOf (index + 1) rest)

/-- The entries of a map, or of a list of pairs. -/
def entriesOf : Value → Except Fault Entries
  | .map es => .ok es
  | .list vs => do return Entries.ofList (← pairsOf 0 vs)
  | .scalar (.text t) => do
    return Entries.ofList (← pairsOf 0 (t.map fun c => Value.text [c]))
  | v => .error (.mistyped ('\'' :: v.kindName ++ "' object is not iterable"))

namespace Settings

/-- The seconds to wait where nothing else is said: those of a text if it is a number, or else ten. -/
def defaultTimeout (text : Option Text) : Float :=
  match text with
  | none => 10.0
  | some t => (Numeral.readFloat? t).getD 10.0

/-- The headers of every request. -/
def defaultHeaders : Entries := [
  (.text "User-Agent", .text "webq/0.1 (+https://pypi.org/project/webq/)"),
  (.text "Accept", .text "text/html,application/json;q=0.9,*/*;q=0.8")]

/-- The settings of named values. -/
def read (config : Entries) (timeout : Float) : Except Fault Settings := do
  let named (name : Text) (default : Value) : Value :=
    (Entries.get? config (.text name)).getD default
  let timeout ← seconds (named "timeout" (.float timeout))
  let retries ← count (named "retries" (.int 2))
  let backoff ← seconds (named "backoff" (.float 0.2))
  let headers ← entriesOf (named "headers" (.map []))
  let params ← entriesOf (named "params" (.map []))
  return ⟨timeout, retries, backoff, Entries.overlay defaultHeaders headers, params⟩

end Settings

/-- The name of the header that says what a body is. -/
def contentType : Scalar := .text "Content-Type"

/-- The request with a body; its kind is plain text unless the headers say otherwise. -/
def Request.make (s : Settings) (method url : Text) (body : Option Bytes) : Request :=
  let headers := if body.isSome && (Entries.get? s.headers contentType).isNone then
      Entries.put contentType (.text "text/plain; charset=utf-8") s.headers
    else s.headers
  ⟨Text.upper method, url, headers, s.params, body⟩

end PageQuery.Http
