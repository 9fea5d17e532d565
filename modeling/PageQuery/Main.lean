import PageQuery.CommandLine.Shell

open PageQuery CommandLine

namespace PageQuery.Program

/-!
# The program

* `main`: the command line, which reads files and standard input and writes to both channels.
-/

/-- The variables of the surroundings that say how the program works. -/
def settings : IO (Ordered Text) := do
  let names := ["WEBQ_DEBUG", "WEBQ_LOG_LEVEL", "WEBQ_HTTP_TIMEOUT"]
  let found ← names.mapM fun n => do return (n.toList, (← IO.getEnv n).map String.toList)
  return found.filterMap fun (n, v) => v.map fun t => (n, t)

/-- The folder of the program's work, with the file of a source if that can be read. -/
def folder (source : Text) : IO Folder := do
  let current := (← IO.currentDir).toString.toList
  let home := ((← IO.getEnv "HOME").getD "/").toList
  let f : Folder := { current, home }
  let path := f.resolve [] source
  try
    let bytes ← IO.FS.readBinFile (String.ofList path)
    return { f with files := [(File.place current path, bytes.toList)] }
  catch _ => return f

/-- Writes what is to be written. -/
def put (o : Output) : IO Unit := do
  let (out, err) := (← IO.getStdout, ← IO.getStderr)
  err.putStr (String.ofList o.err)
  err.flush
  out.putStr (String.ofList o.out)
  out.flush

/-- Reads lines and responds to them up to the end. -/
partial def loop (s : Shell) : IO UInt32 := do
  put ⟨Shell.prompt, []⟩
  let line ← (← IO.getStdin).getLine
  if line.isEmpty then
    put ⟨Shell.farewell, []⟩
    return 0
  match s.respond line.toList with
  | .error f =>
    put ⟨[], f.kind ++ ": " ++ f.message ++ ['\n']⟩
    return 1
  | .ok .leave => return 0
  | .ok (.print o s) =>
    put o
    loop s

/-- The arguments as texts, and the source among them. -/
def sourceOf (arguments : List Text) : Text :=
  match parse arguments with
  | .ok o => o.source
  | .error _ => []

/-- The course of the program. -/
def course (arguments : List Text) : IO UInt32 := do
  let unreachable : Http.Outcome := .failure "ConnectionError" "no connection"
  let s : Surroundings := ⟨← settings, ← folder (sourceOf arguments), fun _ => unreachable⟩
  match start s arguments with
  | .error f =>
    put ⟨[], f.kind ++ ": " ++ f.message ++ ['\n']⟩
    return 1
  | .ok (.ended e) =>
    put e.output
    return UInt32.ofNat e.code
  | .ok (.shell said shell) =>
    put ⟨[], said⟩
    match shell.options.query with
    | none =>
      put ⟨shell.greeting, []⟩
      loop shell
    | some query =>
      match shell.answer query with
      | .error f =>
        put ⟨[], f.kind ++ ": " ++ f.message ++ ['\n']⟩
        return 1
      | .ok (o, fine, _) =>
        put o
        return if fine then 0 else 1

end PageQuery.Program

/-- The program. -/
def main (arguments : List String) : IO UInt32 :=
  PageQuery.Program.course (arguments.map String.toList)
