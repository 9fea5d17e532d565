import PageQuery.Text.Quoted
import PageQuery.Url.Authority
import PageQuery.Url.Percent

namespace PageQuery.Url

/-!
# Addresses of pages

* `Parts`: scheme, authority, path, query and fragment;
* `split`, `join`: an address taken apart and put together;
* `origin`: the part of an address that all pages of a site share.
-/

/-- The parts of an address. A part that is missing is empty. -/
structure Parts where
  scheme : Text
  authority : Text
  path : Text
  query : Text
  fragment : Text
  deriving Repr, DecidableEq

/-- Whether a character may stand in a scheme. -/
def isSchemeChar (c : Char) : Bool := c.isAlphanum || c == '+' || c == '-' || c == '.'

/-- The scheme at the start of an address, if there is one, and the rest. -/
def splitScheme (t : Text) : Text × Text :=
  match Text.cut ':' t with
  | (c :: name, some rest) =>
    if c.isAlpha && name.all isSchemeChar then ((c :: name).map Char.toLower, rest) else ([], t)
  | _ => ([], t)

/-- The authority at the start of an address without a scheme, if there is one, and the rest. -/
def splitAuthority : Text → Text × Text
  | '/' :: '/' :: t =>
    let authority := t.takeWhile fun c => !(c == '/' || c == '?' || c == '#')
    (authority, t.drop authority.length)
  | t => ([], t)

/-- An address without the control characters that are passed over. -/
def clean (t : Text) : Text :=
  (t.dropWhile fun c => c.toNat ≤ 32).filter fun c => !(c == '\t' || c == '\r' || c == '\n')

/-- An address taken apart. -/
def split (t : Text) : Except Error Parts := do
  let (scheme, rest) := splitScheme (clean t)
  let (authority, rest) := splitAuthority rest
  checkBrackets authority
  let (rest, fragment) := Text.cut '#' rest
  let (path, query) := Text.cut '?' rest
  checkLookalikes authority
  return ⟨scheme, authority, path, query.getD [], fragment.getD []⟩

/-- The schemes whose addresses have an authority. -/
def schemesWithAuthority : List Text :=
  ["ftp", "http", "gopher", "nntp", "telnet", "imap", "wais", "file", "mms", "https", "shttp",
    "snews", "prospero", "rtsp", "rtsps", "rtspu", "rsync", "svn", "svn+ssh", "sftp", "nfs", "git", "git+ssh",
    "ws", "wss"]

/-- An address put together. -/
def join (u : Parts) : Text :=
  let path :=
    if !u.authority.isEmpty || schemesWithAuthority.contains u.scheme || Text.startsWith "//" u.path
    then
      let path := if u.path.isEmpty || u.path.head? = some '/' then u.path else '/' :: u.path
      "//" ++ u.authority ++ path
    else u.path
  let t := if u.scheme.isEmpty then path else u.scheme ++ ':' :: path
  let t := if u.query.isEmpty then t else t ++ '?' :: u.query
  if u.fragment.isEmpty then t else t ++ '#' :: u.fragment

/-- The scheme and the host of an address; empty unless it has both. -/
def origin (t : Text) : Except Error Text := do
  let u ← split t
  if u.scheme.isEmpty || u.authority.isEmpty then return []
  else return u.scheme ++ "://" ++ written u.authority

/-- What is wrong with an address, in words. -/
def Error.message : Error → Text
  | .brackets => "Invalid IPv6 URL"
  | .future => "IPvFuture address is invalid"
  | .address t => Text.quoted t ++ " does not appear to be an IPv4 or IPv6 address"
  | .shortAddress => "An IPv4 address cannot be in brackets"
  | .lookalike t => "netloc '" ++ t ++ "' contains invalid characters under NFKC normalization"
  | .portText t => "Port could not be cast to integer value as " ++ Text.quoted t
  | .portRange => "Port out of range 0-65535"

end PageQuery.Url
