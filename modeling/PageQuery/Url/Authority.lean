import PageQuery.Text.Case

namespace PageQuery.Url

/-!
# Hosts and ports

* `checkBrackets`, `checkLookalikes`: whether the text between `//` and the path may stand there;
* `host`, `port`, `userInfo?`: its parts.
-/

/-- Why a text is no address. -/
inductive Error where
  | brackets
  | future
  /-- The text in brackets is no address of a host. -/
  | address (t : Text)
  | shortAddress
  | lookalike (t : Text)
  | portText (t : Text)
  | portRange
  deriving Repr, DecidableEq

/-! ### Numbered hosts -/

/-- Whether a text is a number of a four-part address. -/
def isOctet (t : Text) : Bool :=
  !t.isEmpty && t.length ≤ 3 && t.all Char.isDigit && (t == "0" || t.head? != some '0') &&
    t.foldl (fun n c => n * 10 + (c.toNat - 48)) 0 ≤ 255

/-- Whether a text is a four-part address. -/
def isShortAddress (t : Text) : Bool :=
  let parts := Text.split '.' t
  parts.length == 4 && parts.all isOctet

/-- Whether a text is a group of an eight-part address. -/
def isGroup (t : Text) : Bool := !t.isEmpty && t.length ≤ 4 && t.all fun c => (Text.hexDigit? c).isSome

/-- Whether the groups before and after a gap are those of an address that starts, or ends, with the
    gap or with a group. -/
def areGroups (outerEmpty : Bool) (groups : List Text) : Bool :=
  groups.all isGroup || (outerEmpty && groups == [[]])

/-- Whether groups make an eight-part address, where one gap may stand for several groups of zero. -/
def isGroups (parts : List Text) : Bool :=
  let inner := (parts.drop 1).dropLast
  match inner.filter List.isEmpty with
  | [] => parts.length == 8 && parts.all isGroup
  | [_] =>
    let before := parts.takeWhile (fun p => !p.isEmpty)
    let before := if before.isEmpty then [[]] else before
    let after := parts.drop (before.length + 1)
    let count (groups : List Text) : Nat := (groups.filter fun p => !p.isEmpty).length
    areGroups true before && areGroups true after && count before + count after < 8
  | _ => false

/-- Whether a text is an eight-part address, where the last two parts may be written as a four-part
    one and the name of a zone may follow. -/
def isLongAddress (t : Text) : Bool :=
  let (address, zone) := Text.cut '%' t
  let zoneOk : Bool :=
    match zone with
    | none => true
    | some z => !z.isEmpty && !z.contains '%'
  let parts := Text.split ':' address
  let last := parts.getLast?.getD []
  let parts := if isShortAddress last then parts.dropLast ++ [['0'], ['0']] else parts
  zoneOk && 3 ≤ (Text.split ':' address).length && parts.length ≤ 9 && isGroups parts

/-- Checks a host in brackets. -/
def checkBracketed (t : Text) : Except Error Unit :=
  match t with
  | 'v' :: rest =>
    let version := rest.takeWhile fun c => (Text.hexDigit? c).isSome
    match version.isEmpty, rest.drop version.length with
    | false, '.' :: c :: more => if (c :: more).contains '\n' then .error .future else .ok ()
    | _, _ => .error .future
  | _ =>
    if isShortAddress t then .error .shortAddress
    else if isLongAddress t then .ok ()
    else .error (.address t)

/-! ### Authorities -/

/-- The characters outside ASCII that would be read as one of `/ ? # @ :`. -/
def lookalikes : List Nat :=
  [0x2047, 0x2048, 0x2049, 0x2100, 0x2101, 0x2105, 0x2106, 0x2A74, 0xFE13, 0xFE16, 0xFE55, 0xFE56,
    0xFE5F, 0xFE6B, 0xFF03, 0xFF0F, 0xFF1A, 0xFF1F, 0xFF20]

/-- The text after the first `[` and before the next `]`. -/
def bracketed (t : Text) : Text :=
  (Text.cut ']' ((Text.cut '[' t).2.getD [])).1

/-- Checks the brackets in the text between `//` and the path. -/
def checkBrackets (t : Text) : Except Error Unit :=
  match t.contains '[', t.contains ']' with
  | true, true => checkBracketed (bracketed t)
  | false, false => .ok ()
  | _, _ => .error .brackets

/-- Checks that no character in the text between `//` and the path can be taken for another one. -/
def checkLookalikes (t : Text) : Except Error Unit :=
  if t.any fun c => lookalikes.contains c.toNat then .error (.lookalike t) else .ok ()

/-- The text before the last `@`, if there is one. -/
def userInfo? (authority : Text) : Option Text := (Text.cutLast '@' authority).1

/-- The host and the port as they are written. -/
def written (authority : Text) : Text := (Text.cutLast '@' authority).2

/-- The host and the text of the port, which may be missing. -/
def hostAndPort (authority : Text) : Text × Option Text :=
  let t := written authority
  let (host, port) :=
    match Text.cut '[' t with
    | (_, some inside) =>
      let (host, rest) := Text.cut ']' inside
      (host, (Text.cut ':' (rest.getD [])).2)
    | (_, none) => Text.cut ':' t
  (host, port.filter fun p => !p.isEmpty)

/-- The host in lower case, except for the name of a zone. -/
def host (authority : Text) : Text :=
  let (name, zone) := Text.cut '%' (hostAndPort authority).1
  Text.lower name ++ match zone with
    | some z => '%' :: z
    | none => []

/-- The port, if one is given. -/
def port (authority : Text) : Except Error (Option Nat) :=
  match (hostAndPort authority).2 with
  | none => .ok none
  | some t =>
    if t.all Char.isDigit then
      let n := t.foldl (fun n c => n * 10 + (c.toNat - 48)) 0
      if n ≤ 65535 then .ok (some n) else .error .portRange
    else .error (.portText t)

end PageQuery.Url
