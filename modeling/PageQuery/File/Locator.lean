import PageQuery.File.Folder
import PageQuery.Page
import PageQuery.Url.Percent

namespace PageQuery

/-!
# Pages from files

* `Folder.resolve`: the path that a locator stands for;
* `Folder.url`: the address of a path;
* `Folder.load`: the page of a locator.
-/

namespace File

/-- A byte in the address of a file. -/
def urlByte (b : UInt8) : Text :=
  if b = 47 then ['/']
  else if Url.staysInQuery b then [Char.ofNat b.toNat]
  else '%' :: (Text.padLeft 2 '0' (Text.digits 16 b.toNat)).map Char.toUpper

/-- The address of steps from the root. -/
def urlOf (steps : List Text) : Text :=
  "file:///" ++ (Utf8.encode (Text.join ['/'] steps)).flatMap urlByte

/-- The formats of files by the ends of their names. -/
def formatOf? (suffix : Text) : Option Format :=
  let low := Text.lower suffix
  if low = ".json" then some .json
  else if low = ".xml" then some .xml
  else if low = ".yaml" || low = ".yml" then some .yaml
  else none

end File

namespace Folder

/-- A path that starts with a tilde, taken from the home folder on. The home of somebody else is not
    known. -/
def fromHome (f : Folder) (path : Text) : Text :=
  match path with
  | '~' :: rest =>
    if rest.isEmpty || rest.head? == some '/' then
      match Text.dropEndWhile (· == '/') f.home ++ rest with
      | [] => ['/']
      | t => t
    else path
  | _ => path

/-- The path of a locator without the sign of an address in front of it, taken from a folder on. -/
def resolvePath (f : Folder) (folder path : Text) : Text :=
  if path.head? == some '~' then f.fromHome path
  else if File.isAbsolute path then File.normal path
  else File.normal (File.join (if folder.isEmpty then f.current else folder) path)

/-- The path of a locator, which is a path or the address of a file. An absolute path in an address stays
    as it is, except that it starts with one slash. -/
def resolve (f : Folder) (folder locator : Text) : Text :=
  match Text.after? "file://" locator with
  | none => f.resolvePath folder locator
  | some rest =>
    if File.isAbsolute rest then '/' :: rest.dropWhile (· == '/') else f.resolvePath folder rest

/-- The address of a path. -/
def url (f : Folder) (path : Text) : Text := File.urlOf (File.place f.current path)

/-- The text of bytes in an encoding, which is UTF-8 unless one is given. Where there are no bytes, the
    name of the encoding does not matter. -/
def textIn (encoding : Value) (bs : Bytes) : Except Fault Text :=
  match encoding with
  | .text name =>
    if bs.isEmpty then .ok []
    else match Charset.decode? (if name.isEmpty then "utf-8" else name) bs with
      | some t => .ok t
      | none => .error (.unknownEncoding name)
  | v =>
    if v.isNothing then .ok (Utf8.decodeReplacing bs)
    else .error (.mistyped ("decode() argument 'encoding' must be str, not " ++ v.kindName))

/-- The page of bytes that a file holds: the end of the file's name may name the format of data, and a
    file that holds other than data is text. -/
def pageOf (url path : Text) (encoding : Value) (bs : Bytes) : Except Fault Page := do
  let data ← (File.formatOf? (File.suffix path)).bindM fun f =>
    Page.structured? f (Utf8.decodeReplacing bs)
  match data with
  | some v => Page.build url [] v []
  | none => Page.ofText url (← textIn encoding bs) none

/-- The page of a locator, taken from a folder on. Its address is that of the file unless one is
    given. -/
def load (f : Folder) (folder locator : Text) (encoding : Value) (url : Text) : Except Fault Page := do
  let path := f.resolve folder locator
  let bs ← (f.read path).mapError .file
  pageOf (if url.isEmpty then f.url path else url) path encoding bs

end Folder

end PageQuery
