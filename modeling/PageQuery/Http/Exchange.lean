import PageQuery.Http.Request
import PageQuery.Page

namespace PageQuery.Http

/-!
# Exchanges

A request is sent again after a failure, with pauses that double, until there is an answer with a status
from 200 up to below 300 or no attempt is left.

* `Outcome`: what comes of sending a request;
* `Exchange`: what has been sent, and when there were failures and pauses;
* `exchange`: the answer to a request;
* `fetch`: the page at an address.
-/

/-- An answer. -/
structure Response where
  status : Int
  content : Bytes
  headers : Entries
  url : Text
  deriving Repr, Inhabited

/-- What comes of sending a request: an answer, or a failure on the way. -/
inductive Outcome where
  | response (r : Response)
  | failure (kind message : Text)
  deriving Repr, Inhabited

/-- What happens in sending a request. -/
inductive Event where
  | sent (r : Request)
  /-- What a failure before a pause said. -/
  | trouble (message : Text)
  /-- The seconds of a pause. -/
  | paused (seconds : Float)
  deriving Repr

/-- What has happened in sending a request, in order. -/
structure Exchange where
  events : List Event := []
  deriving Repr, Inhabited

namespace Exchange

/-- The exchange with one more event. -/
def add (e : Event) (x : Exchange) : Exchange := { x with events := x.events ++ [e] }

/-- The requests that have been sent. -/
def requests (x : Exchange) : List Request :=
  x.events.filterMap fun
    | .sent r => some r
    | _ => none

/-- The seconds of the pauses. -/
def pauses (x : Exchange) : List Float :=
  x.events.filterMap fun
    | .paused p => some p
    | _ => none

/-- What failures before a pause said. -/
def troubles (x : Exchange) : List Text :=
  x.events.filterMap fun
    | .trouble t => some t
    | _ => none

end Exchange

/-- Whether a status says that all went well. -/
def isSuccess (status : Int) : Bool := 200 ≤ status && status < 300

/-- The answer as it is handed on: header names are in small letters, and the address is that of the
    request if the answer has none. -/
def Response.settled (r : Response) (url : Text) : Response :=
  let low : Scalar → Scalar
    | .text t => .text (Text.lower t)
    | k => k
  { r with
    headers := Entries.ofList (r.headers.map fun (k, v) => (low k, v))
    url := if r.url.isEmpty then url else r.url }

/-- The most characters of an answer that are told in a failure. -/
def toldLength : Nat := 200

/-- The answer of an outcome, or why it is none. -/
def settle (url : Text) : Outcome → Except Fault Response
  | .failure kind message => .error (.transport kind message)
  | .response r =>
    if isSuccess r.status then .ok (r.settled url)
    else .error (.status r.status url ((Utf8.decodeSkipping r.content).take toldLength))

/-- The pause after an attempt. There is none if doubling so often leads beyond the largest double, however
    short the first pause is. -/
def pause (backoff : Float) (attempt : Nat) : Except Fault Float := do
  return backoff * (← double (twoTo attempt))

/-- Sends a request for the given attempt, and again as long as attempts are left. -/
def send (s : Settings) (r : Request) (outcome : Nat → Outcome) :
    (left attempt : Nat) → Exchange → Except Fault Response × Exchange
  | 0, attempt, x => (settle r.url (outcome attempt), x.add (.sent r))
  | left + 1, attempt, x =>
    let x := x.add (.sent r)
    match settle r.url (outcome attempt) with
    | .ok a => (.ok a, x)
    | .error f =>
      let x := x.add (.trouble f.message)
      match pause s.backoff attempt with
      | .ok p => send s r outcome left (attempt + 1) (x.add (.paused p))
      | .error f => (.error f, x)

/-- The answer to a request, where `outcome` tells what comes of each attempt. A negative number of
    retries allows not even one. -/
def exchange (s : Settings) (r : Request) (outcome : Nat → Outcome) :
    Except Fault Response × Exchange :=
  match s.retries with
  | .ofNat n => send s r outcome n 0 {}
  | .negSucc _ => (.error (.noResponse r.url), {})

/-- The page that an answer holds. -/
def Response.page (r : Response) : Except Fault Page :=
  let kind := match Entries.get? r.headers (.text "content-type") with
    | some (.scalar (.text t)) => some t
    | _ => none
  Page.ofBody r.url (.bytes r.content) kind

/-- The page at an address, and what has happened in getting it. -/
def fetch (s : Settings) (url : Text) (outcome : Nat → Outcome) : Except Fault Page × Exchange :=
  let (answer, x) := exchange s (.make s "GET" url none) outcome
  (answer >>= Response.page, x)

end PageQuery.Http
