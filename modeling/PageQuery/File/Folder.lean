import PageQuery.Bytes.Utf8
import PageQuery.Text.Quoted

namespace PageQuery

/-!
# Folders and the paths in them

* `File.normal`: a path without empty steps, single points and steps back, where that can be told from the path
  alone;
* `File.join`: a path taken from another one on;
* `File.suffix`: the end of a file's name from its last point on;
* `Folder`: the files that can be read, and the place in which and the home from which paths are taken;
* `Folder.read`: the bytes of a file.
-/

namespace File

/-! ### Paths -/

/-- The steps of a path. -/
def steps (path : Text) : List Text :=
  (Text.split '/' path).filter fun s => !(s.isEmpty || s == ['.'])

/-- Whether a path starts at the root. -/
def isAbsolute (path : Text) : Bool := path.head? == some '/'

/-- Steps taken one after the other, where a step back undoes the last one. `taken` are the steps so far,
    the last one first; from the root no step leads back. -/
def follow (absolute : Bool) : (taken rest : List Text) → List Text
  | taken, [] => taken.reverse
  | taken, s :: rest =>
    if s != "..".toList then follow absolute (s :: taken) rest
    else match taken with
      | [] => follow absolute (if absolute then [] else [s]) rest
      | last :: before =>
        if last == "..".toList then follow absolute (s :: taken) rest
        else follow absolute before rest

/-- The slashes at the start of a normal path: two if there are exactly two. -/
def lead : Text → Text
  | '/' :: '/' :: '/' :: _ => ['/']
  | '/' :: '/' :: _ => ['/', '/']
  | '/' :: _ => ['/']
  | _ => []

/-- A path in its normal form. -/
def normal (path : Text) : Text :=
  match lead path ++ Text.join ['/'] (follow (isAbsolute path) [] (steps path)) with
  | [] => ['.']
  | t => t

/-- A path taken from a folder on. -/
def join (folder path : Text) : Text :=
  if isAbsolute path then path
  else if folder.isEmpty || folder.getLast? == some '/' then folder ++ path
  else folder ++ '/' :: path

/-- The steps from the root to a path that is taken from a folder on. -/
def place (folder path : Text) : List Text := follow true [] (steps (join folder path))

/-- The last step of a path; empty if the path ends with a slash. -/
def lastStep (path : Text) : Text := (Text.cutLast '/' path).2

/-- The end of a file's name from its last point on, if other than points stand before that. -/
def suffix (path : Text) : Text :=
  match Text.cutLast '.' (lastStep path) with
  | (some before, after) => if before.all (· == '.') then [] else '.' :: after
  | (none, _) => []

/-! ### Files -/

/-- Why a file is not read. -/
inductive Problem where
  | missing
  | folder
  /-- A step of the path leads through a file. -/
  | noFolder
  /-- A step of the path is longer than a name can be. -/
  | longName
  deriving Repr, DecidableEq

/-- Why the file of a path is not read. -/
structure Error where
  problem : Problem
  path : Text
  deriving Repr, DecidableEq

/-- The word for the kind of a problem. -/
def Problem.kind : Problem → Text
  | .missing => "FileNotFoundError"
  | .folder => "IsADirectoryError"
  | .noFolder => "NotADirectoryError"
  | .longName => "OSError"

/-- The number and the words for a problem. -/
def Problem.message : Problem → Text
  | .missing => "[Errno 2] No such file or directory"
  | .folder => "[Errno 21] Is a directory"
  | .noFolder => "[Errno 20] Not a directory"
  | .longName => "[Errno 36] File name too long"

/-- The problem and the path. -/
def Error.message (e : Error) : Text := e.problem.message ++ ": " ++ Text.quoted e.path

end File

/-- The files that can be read, by the steps from the root, and the folder in which work is done. -/
structure Folder where
  files : List (List Text × Bytes) := []
  current : Text := ['/']
  home : Text := ['/']
  deriving Repr

namespace Folder

/-- Whether steps from the root lead to a folder. -/
def isFolder (f : Folder) (steps : List Text) : Bool :=
  steps.isPrefixOf (File.steps f.current) || f.files.any fun (path, _) => steps.isPrefixOf path

/-- The most bytes that a name can have. -/
def longestName : Nat := 255

/-- The steps from the root of a file, reached by following steps from those already taken, the last one
    of which comes first. Every step but the last has to lead to a folder. -/
def reach (f : Folder) : (taken rest : List Text) → Except File.Problem (List Text)
  | taken, [] => .ok taken.reverse
  | taken, s :: rest =>
    if s.isEmpty || s == ['.'] then reach f taken rest
    else if s == "..".toList then reach f (taken.drop 1) rest
    else if longestName < (Utf8.encode s).length then .error .longName
    else
      let path := (s :: taken).reverse
      if f.isFolder path && (List.lookup path f.files).isNone then reach f (s :: taken) rest
      else if (List.lookup path f.files).isNone then .error .missing
      else if rest.isEmpty then .ok path
      else .error .noFolder

/-- The bytes of the file of a path. -/
def read (f : Folder) (path : Text) : Except File.Error Bytes :=
  match f.reach [] (Text.split '/' (File.join f.current path)) with
  | .error p => .error ⟨p, path⟩
  | .ok steps =>
    match List.lookup steps f.files with
    | some bs => .ok bs
    | none => .error ⟨.folder, path⟩

end Folder

end PageQuery
