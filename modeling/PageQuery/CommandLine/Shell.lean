import PageQuery.CommandLine.Arguments
import PageQuery.File.Locator
import PageQuery.Format.Writer
import PageQuery.Http.Exchange
import PageQuery.Runner
import PageQuery.Validation.Check

namespace PageQuery.CommandLine

/-!
# The command line

* `Surroundings`: what the command line has to work with besides its arguments;
* `Shell`: a page with what has happened in running queries against it, and `Shell.answer`,
  `Shell.respond`, which run one query and one line that was typed;
* `run`: the whole course of a command line.
-/

/-- What has been written to the two channels. -/
structure Output where
  out : Text := []
  err : Text := []
  deriving Repr, DecidableEq

instance : Append Output := ⟨fun a b => ⟨a.out ++ b.out, a.err ++ b.err⟩⟩

/-- What the command line has to work with. -/
structure Surroundings where
  /-- The variables of the surroundings that say how the program works. -/
  settings : Ordered Text
  folder : Folder
  /-- What comes of each attempt to reach an address. -/
  outcome : Nat → Http.Outcome

/-- How a command line ends. -/
structure Ending where
  output : Output
  code : Nat
  deriving Repr, DecidableEq

/-- The ending after a message on the second channel. -/
def Ending.failed (message : Text) : Ending := ⟨⟨[], message ++ ['\n']⟩, 1⟩

/-! ### Variables and the page -/

/-- The variables of the command line, each a name and a value around the first equals sign; or the text
    that is none. -/
def assignments : List Text → Except Text Environment
  | [] => .ok []
  | t :: rest =>
    match Text.cut '=' t with
    | ([], _) | (_, none) => .error t
    | (name, some v) => do
      let more ← assignments rest
      return (name, .text v) :: more

/-- Whether a source is an address. -/
def isAddress (source : Text) : Bool :=
  Text.startsWith "http://" source || Text.startsWith "https://" source

/-- The remarks about attempts that were repeated. -/
def troubleLines (threshold : Nat) (url : Text) (troubles : List Text) : Text :=
  if Log.isShown threshold .info then
    troubles.flatMap fun t =>
      Log.line .info "webq.webq_http" ("retrying GET " ++ url ++ " after error: " ++ t)
  else []

/-- The page of a source, and what is said in getting it. -/
def page (s : Surroundings) (threshold : Nat) (o : Options) : Except Fault Page × Text :=
  let override := o.url.getD []
  if isAddress o.source then
    let timeout := Http.Settings.defaultTimeout (Ordered.get? s.settings "WEBQ_HTTP_TIMEOUT")
    match Http.Settings.read [] timeout with
    | .error f => (.error f, [])
    | .ok settings =>
      let (found, x) := Http.fetch settings o.source s.outcome
      let found := found.map fun p => if override.isEmpty then p else { p with url := override }
      (found, troubleLines threshold o.source x.troubles)
  else (s.folder.load [] o.source .null override, [])

/-- The words for a fault that keeps a page from being loaded, if it is one that is reported. -/
def loadMessage? (source : Text) : Fault → Option Text
  | .file ⟨.missing, _⟩ => some ("Error: file not found: " ++ source)
  | .file ⟨.noFolder, path⟩ => other (File.Error.message ⟨.noFolder, path⟩)
  | .file ⟨.folder, path⟩ => other (File.Error.message ⟨.folder, path⟩)
  | .file ⟨.longName, path⟩ => other (File.Error.message ⟨.longName, path⟩)
  | .status code address start => other (Fault.message (.status code address start))
  | .noResponse address => other (Fault.message (.noResponse address))
  | .transport kind message =>
    if (["ConnectionError", "TimeoutError", "OSError", "RuntimeError"].map String.toList).contains kind then
      other message
    else none
  | _ => none
where
  /-- The words for a fault with words of its own. -/
  other (message : Text) : Option Text :=
    some ("Error: could not load " ++ source ++ ": " ++ message)

/-! ### Queries -/

/-- A page, and what has happened in running queries against it. -/
structure Shell where
  options : Options
  environment : Environment
  page : Page
  threshold : Nat
  /-- Whether the course of queries is told. -/
  traced : Bool
  cache : Cache := { capacity := 256 }
  session : Session := {}

/-- The lines for the remarks that are shown; `traced` says whether the course of a query is. -/
def noticeLines (threshold : Nat) (traced : Bool) (ns : List Notice) : Text :=
  ns.flatMap fun n =>
    if Log.isShown threshold n.level && (traced || !n.isTrace) then Log.line n.level n.origin (n.message id) else []

/-- A value as it is printed: nothing for none, and a text as it stands where JSON is asked for. -/
def shown (yaml : Bool) (v : Value) : Except Fault Text :=
  match yaml, v with
  | _, .scalar .null => .ok []
  | false, .scalar (.text t) => .ok (t ++ ['\n'])
  | yaml, v => do
    let t ← Format.write v (some (if yaml then "yaml" else "json")) true "root"
    return Text.dropEndWhile (· == '\n') t ++ ['\n']

namespace Shell

/-- Runs a query and prints its value, or what is wrong; says whether there was a value. -/
def answer (s : Shell) (query : Text) : Except Fault (Output × Bool × Shell) := do
  let report := if s.options.validates then (Validation.validate query).text ++ ['\n'] else []
  let (result, session) :=
    (Runner.attempt {} s.cache query s.page s.environment).run.run { s.session with notices := [] }
  let (attempt, cache) ← result
  let said := report ++ noticeLines s.threshold s.traced session.notices
  let after := { s with cache, session }
  match attempt with
  | .failure m i => return (⟨[], said ++ (Attempt.failure m i).text query ++ ['\n']⟩, false, after)
  | .success v _ => return (⟨← shown s.options.yaml v, said⟩, true, after)

/-- What a line that was typed leads to. -/
inductive Response where
  /-- The end was asked for. -/
  | leave
  | print (o : Output) (s : Shell)

/-- Responds to a line that was typed: a query, a query to be checked, or the word for the end. -/
def respond (s : Shell) (line : Text) : Except Fault Response := do
  let line := Text.trim line
  if line.isEmpty then return .print {} s
  else if line = "exit" then return .leave
  else match Text.after? ":validate " line with
    | some query =>
      return .print ⟨(Validation.validate (Text.trim query)).text ++ ['\n'], []⟩ s
    | none => do
      let (o, _, s) ← s.answer line
      return .print o s

/-- What is printed before the first line. -/
def greeting (s : Shell) : Text :=
  "webq REPL v0.1\nPage: " ++ s.page.url ++ ("\nType 'exit' or press Ctrl+D to quit.\n" : Text)

/-- What is printed before each line. -/
def prompt : Text := ">> "

/-- What is printed at the end of the input. -/
def farewell : Text := "\nExiting.\n"

/-- What is printed for lines that are typed, up to the end that is asked for or the end of the input. -/
def respondAll (s : Shell) : List Text → Except Fault Output
  | [] => .ok ⟨prompt ++ farewell, []⟩
  | line :: rest => do
    match ← s.respond line with
    | .leave => return ⟨prompt, []⟩
    | .print o s =>
      let more ← respondAll s rest
      return ⟨prompt, []⟩ ++ o ++ more

end Shell

/-! ### The whole course -/

/-- How a command line begins: with a page to run queries against, or with its end. -/
inductive Start where
  | ended (e : Ending)
  | shell (said : Text) (s : Shell)

/-- The beginning of a command line with options. -/
def startWith (s : Surroundings) (o : Options) : Except Fault Start :=
  let threshold := Log.numberOf o.level s.settings
  match assignments o.assigned with
  | .error t => .ok (.ended (.failed ("Error: --var expects NAME=VALUE, got " ++ Text.quoted t)))
  | .ok given =>
    let (found, said) := page s threshold o
    match found with
    | .ok p => .ok (.shell said ⟨o, Ordered.ofList given, p, threshold, Log.isTraced s.settings,
        { capacity := 256 }, {}⟩)
    | .error f =>
      match loadMessage? o.source f with
      | none => .error f
      | some m =>
        let e := Ending.failed m
        .ok (.ended { e with output := ⟨[], said⟩ ++ e.output })

/-- The beginning of a command line. -/
def start (s : Surroundings) (arguments : List Text) : Except Fault Start :=
  match parse arguments with
  | .error .help => .ok (.ended ⟨{}, 0⟩)
  | .error .misuse => .ok (.ended ⟨{}, 2⟩)
  | .ok o => startWith s o

/-- The whole course of a command line: the query it gives, or the lines that are typed. -/
def run (s : Surroundings) (arguments lines : List Text) : Except Fault Ending := do
  match ← start s arguments with
  | .ended e => return e
  | .shell said shell =>
    match shell.options.query with
    | some query => do
      let (o, fine, _) ← shell.answer query
      return ⟨⟨[], said⟩ ++ o, if fine then 0 else 1⟩
    | none => do
      let o ← shell.respondAll lines
      return ⟨⟨shell.greeting, said⟩ ++ o, 0⟩

end PageQuery.CommandLine
