import PageQuery.Bytes.CodePage

namespace PageQuery.Charset

/-!
# Encodings by name

* `decode? name bs`: the text of bytes in the encoding of a name, in which every fault is one replacement
  character; nothing if no such encoding is known.
-/

/-- A name in small letters, in which signs between letters and digits are one underscore. -/
def normal (name : Text) : Text :=
  let isWordChar (c : Char) : Bool := c.isAlphanum || c == '.'
  Text.join ['_'] (((Text.pieces (fun c => !isWordChar c) name).filter (! ·.isEmpty)).map
    (·.map Char.toLower))

/-- Numbers of two bytes each, the lower byte first or last, and whether a byte is left over. -/
def pairsOf (littleEnd : Bool) : Bytes → List Nat × Bool
  | a :: b :: rest =>
    let (more, left) := pairsOf littleEnd rest
    ((if littleEnd then a.toNat + 256 * b.toNat else 256 * a.toNat + b.toNat) :: more, left)
  | [_] => ([], true)
  | [] => ([], false)

/-- The characters of code units of sixteen bits, when a byte may be left over. A high surrogate at the
    end takes that byte with it. -/
def ofUnits (left : Bool) : List Nat → Text
  | hi :: lo :: rest =>
    if 0xD800 ≤ hi && hi < 0xDC00 then
      if 0xDC00 ≤ lo && lo < 0xE000 then
        Char.ofNat (0x10000 + (hi - 0xD800) * 0x400 + (lo - 0xDC00)) :: ofUnits left rest
      else '\ufffd' :: ofUnits left (lo :: rest)
    else (if 0xDC00 ≤ hi && hi < 0xE000 then '\ufffd' else Char.ofNat hi) :: ofUnits left (lo :: rest)
  | [u] =>
    if 0xD800 ≤ u && u < 0xDC00 then ['\ufffd']
    else
      (if 0xDC00 ≤ u && u < 0xE000 then '\ufffd' else Char.ofNat u) :: if left then ['\ufffd'] else []
  | [] => if left then ['\ufffd'] else []

/-- The text of bytes of which every two are a code unit. -/
def decodePairs (littleEnd : Bool) (bs : Bytes) : Text :=
  let (us, left) := pairsOf littleEnd bs
  ofUnits left us

/-- The text of bytes of which every four are a code point. -/
def decodeQuads (littleEnd : Bool) : Bytes → Text
  | a :: b :: c :: d :: rest =>
    let n := if littleEnd then ((d.toNat * 256 + c.toNat) * 256 + b.toNat) * 256 + a.toNat
      else ((a.toNat * 256 + b.toNat) * 256 + c.toNat) * 256 + d.toNat
    (if 0x10FFFF < n || (0xD800 ≤ n && n < 0xE000) then '\ufffd' else Char.ofNat n) ::
      decodeQuads littleEnd rest
  | [] => []
  | _ => ['\ufffd']

/-- The names of ASCII. -/
def asciiNames : Text :=
  "646 ansi_x3.4_1968 ansi_x3.4_1986 ansi_x3_4_1968 ascii cp367 csascii ibm367 iso646_us " ++
    ("iso_646.irv_1991 iso_ir_6 us us_ascii" : Text)

/-- The names of Latin-1. -/
def latinNames : Text :=
  "8859 cp819 csisolatin1 ibm819 iso8859 iso8859_1 iso_8859_1 iso_8859_1_1987 iso_ir_100 l1 " ++
    ("latin latin1 latin_1" : Text)

/-- The names of UTF-8. -/
def utf8Names : Text := "cp65001 u8 utf utf8 utf8_ucs2 utf8_ucs4 utf_8"

/-- The text of bytes in the encoding of a name. -/
def decode? (name : Text) (bs : Bytes) : Option Text :=
  let n := normal name
  let isOne (names : Text) : Bool := (Text.words names).contains n
  if isOne utf8Names then some (Utf8.decodeReplacing bs)
  else if isOne latinNames then some (bs.map fun b => Char.ofNat b.toNat)
  else if isOne asciiNames then
    some (bs.map fun b => if b.toNat < 128 then Char.ofNat b.toNat else '\ufffd')
  else if n = "utf_8_sig" then
    match bs with
    | 0xEF :: 0xBB :: 0xBF :: rest => some (Utf8.decodeReplacing rest)
    | _ => some (Utf8.decodeReplacing bs)
  else if isOne "unicodelittleunmarked utf_16_le utf_16le" then some (decodePairs true bs)
  else if isOne "unicodebigunmarked utf_16_be utf_16be" then some (decodePairs false bs)
  else if isOne "u16 utf16 utf_16" then
    match bs with
    | 0xFF :: 0xFE :: rest => some (decodePairs true rest)
    | 0xFE :: 0xFF :: rest => some (decodePairs false rest)
    | _ => some (decodePairs true bs)
  else if isOne "utf_32_le utf_32le" then some (decodeQuads true bs)
  else if isOne "utf_32_be utf_32be" then some (decodeQuads false bs)
  else if isOne "u32 utf32 utf_32" then
    match bs with
    | 0xFF :: 0xFE :: 0x00 :: 0x00 :: rest => some (decodeQuads true rest)
    | 0x00 :: 0x00 :: 0xFE :: 0xFF :: rest => some (decodeQuads false rest)
    | _ => some (decodeQuads true bs)
  else (CodePage.find? n).map (·.decode bs)

/-- The names of encodings that stand between bytes and bytes, or texts and texts. -/
def otherNames : Text :=
  "base64 base64_codec base_64 bz2 bz2_codec hex hex_codec quopri quopri_codec quoted_printable " ++
    ("quotedprintable rot13 rot_13 uu uu_codec zip zlib zlib_codec" : Text)

/-- Whether a name is that of an encoding that does not give texts for bytes. -/
def isForBytes (name : Text) : Bool := (Text.words otherNames).contains (normal name)

end PageQuery.Charset
