import PageQuery.Bytes.Utf8

namespace PageQuery.Digest

/-!
# Digests

* `md5`, `sha1`, `sha256`: fingerprints of bytes, written in hexadecimal digits.

All three work on blocks of sixteen words of 32 bits, and end the bytes with a set bit, zeros and
the number of bits.
-/

/-- A word from bytes, the most significant first. -/
def wordOf (bs : Bytes) : UInt32 := bs.foldl (fun w b => w <<< 8 ||| b.toUInt32) 0

/-- The bytes of a number, the least significant first. -/
def littleEndian : (count n : Nat) → Bytes
  | 0, _ => []
  | count + 1, n => UInt8.ofNat (n % 256) :: littleEndian count (n / 256)

/-- The bytes up to a whole number of blocks; `order` says in which order the bytes of the length come,
    given least significant first. -/
def padded (order : Bytes → Bytes) (bs : Bytes) : Bytes :=
  let zeros := (55 + 64 - bs.length % 64) % 64
  bs ++ 0x80 :: List.replicate zeros 0 ++ order (littleEndian 8 (8 * bs.length))

/-- A list cut into pieces of `n + 1` elements. -/
def pieces (n : Nat) : (fuel : Nat) → Bytes → List Bytes
  | 0, _ => []
  | fuel + 1, bs => if bs.isEmpty then [] else bs.take (n + 1) :: pieces n fuel (bs.drop (n + 1))

/-- The blocks of padded bytes as words; `order` is applied to the four bytes of each. -/
def blocks (order : Bytes → Bytes) (bs : Bytes) : List (Array UInt32) :=
  (pieces 63 (bs.length / 64 + 1) bs).map fun block =>
    ((pieces 3 16 block).map fun w => wordOf (order w)).toArray

/-- A word turned to the left by some bits. -/
def rotate (w n : UInt32) : UInt32 := w <<< n ||| w >>> (32 - n)

/-- A word of an array; the indices used are always inside. -/
def wordAt (a : Array UInt32) (i : Nat) : UInt32 := a[i]?.getD 0

/-- Bytes in hexadecimal digits. -/
def hex (bs : Bytes) : Text := bs.flatMap fun b => Text.padLeft 2 '0' (Text.digits 16 b.toNat)

/-- The bytes of a word, the least significant first. -/
def wordBytes (w : UInt32) : Bytes := littleEndian 4 w.toNat

/-! ### MD5 -/

/-- By how many bits the sum of a step is turned. -/
def md5Turns : Array UInt32 := #[7, 12, 17, 22, 5, 9, 14, 20, 4, 11, 16, 23, 6, 10, 15, 21]

/-- The constants of the sixty-four steps. -/
def md5Constants : Array UInt32 := #[
  0xd76aa478, 0xe8c7b756, 0x242070db, 0xc1bdceee, 0xf57c0faf, 0x4787c62a, 0xa8304613, 0xfd469501,
  0x698098d8, 0x8b44f7af, 0xffff5bb1, 0x895cd7be, 0x6b901122, 0xfd987193, 0xa679438e, 0x49b40821,
  0xf61e2562, 0xc040b340, 0x265e5a51, 0xe9b6c7aa, 0xd62f105d, 0x02441453, 0xd8a1e681, 0xe7d3fbc8,
  0x21e1cde6, 0xc33707d6, 0xf4d50d87, 0x455a14ed, 0xa9e3e905, 0xfcefa3f8, 0x676f02d9, 0x8d2a4c8a,
  0xfffa3942, 0x8771f681, 0x6d9d6122, 0xfde5380c, 0xa4beea44, 0x4bdecfa9, 0xf6bb4b60, 0xbebfbc70,
  0x289b7ec6, 0xeaa127fa, 0xd4ef3085, 0x04881d05, 0xd9d4d039, 0xe6db99e5, 0x1fa27cf8, 0xc4ac5665,
  0xf4292244, 0x432aff97, 0xab9423a7, 0xfc93a039, 0x655b59c3, 0x8f0ccc92, 0xffeff47d, 0x85845dd1,
  0x6fa87e4f, 0xfe2ce6e0, 0xa3014314, 0x4e0811a1, 0xf7537e82, 0xbd3af235, 0x2ad7d2bb, 0xeb86d391]

/-- Four words that a digest is built from. -/
structure Four where
  a : UInt32
  b : UInt32
  c : UInt32
  d : UInt32

/-- One step over a block. -/
def md5Step (block : Array UInt32) (s : Four) (i : Nat) : Four :=
  let (f, k) :=
    if i < 16 then ((s.b &&& s.c) ||| (~~~s.b &&& s.d), i)
    else if i < 32 then ((s.d &&& s.b) ||| (~~~s.d &&& s.c), (5 * i + 1) % 16)
    else if i < 48 then (s.b ^^^ s.c ^^^ s.d, (3 * i + 5) % 16)
    else (s.c ^^^ (s.b ||| ~~~s.d), 7 * i % 16)
  let sum := f + s.a + wordAt md5Constants i + wordAt block k
  ⟨s.d, s.b + rotate sum (wordAt md5Turns (i / 16 * 4 + i % 4)), s.b, s.c⟩

/-- One block. -/
def md5Block (s : Four) (block : Array UInt32) : Four :=
  let t := (List.range 64).foldl (md5Step block) s
  ⟨s.a + t.a, s.b + t.b, s.c + t.c, s.d + t.d⟩

/-- The MD5 digest of bytes. -/
def md5 (bs : Bytes) : Text :=
  let s := (blocks List.reverse (padded id bs)).foldl md5Block
    ⟨0x67452301, 0xefcdab89, 0x98badcfe, 0x10325476⟩
  hex ([s.a, s.b, s.c, s.d].flatMap wordBytes)

/-! ### SHA-1 -/

/-- Further words of a block, each from earlier ones, until there are `count` more. -/
def extend (f : Array UInt32 → Nat → UInt32) : (count : Nat) → Array UInt32 → Array UInt32
  | 0, w => w
  | count + 1, w => extend f count (w.push (f w w.size))

/-- The word that follows the first `i`. -/
def sha1Word (w : Array UInt32) (i : Nat) : UInt32 :=
  rotate (wordAt w (i - 3) ^^^ wordAt w (i - 8) ^^^ wordAt w (i - 14) ^^^ wordAt w (i - 16)) 1

/-- Five words that a digest is built from. -/
structure Five where
  a : UInt32
  b : UInt32
  c : UInt32
  d : UInt32
  e : UInt32

/-- One step over the words of a block. -/
def sha1Step (w : Array UInt32) (s : Five) (i : Nat) : Five :=
  let (f, k) : UInt32 × UInt32 :=
    if i < 20 then ((s.b &&& s.c) ||| (~~~s.b &&& s.d), 0x5a827999)
    else if i < 40 then (s.b ^^^ s.c ^^^ s.d, 0x6ed9eba1)
    else if i < 60 then ((s.b &&& s.c) ||| (s.b &&& s.d) ||| (s.c &&& s.d), 0x8f1bbcdc)
    else (s.b ^^^ s.c ^^^ s.d, 0xca62c1d6)
  ⟨rotate s.a 5 + f + s.e + k + wordAt w i, s.a, rotate s.b 30, s.c, s.d⟩

/-- One block. -/
def sha1Block (s : Five) (block : Array UInt32) : Five :=
  let w := extend sha1Word 64 block
  let t := (List.range 80).foldl (sha1Step w) s
  ⟨s.a + t.a, s.b + t.b, s.c + t.c, s.d + t.d, s.e + t.e⟩

/-- The SHA-1 digest of bytes. -/
def sha1 (bs : Bytes) : Text :=
  let s := (blocks id (padded List.reverse bs)).foldl sha1Block
    ⟨0x67452301, 0xefcdab89, 0x98badcfe, 0x10325476, 0xc3d2e1f0⟩
  hex ([s.a, s.b, s.c, s.d, s.e].flatMap fun w => (wordBytes w).reverse)

/-! ### SHA-256 -/

/-- The constants of the sixty-four steps. -/
def sha256Constants : Array UInt32 := #[
  0x428a2f98, 0x71374491, 0xb5c0fbcf, 0xe9b5dba5, 0x3956c25b, 0x59f111f1, 0x923f82a4, 0xab1c5ed5,
  0xd807aa98, 0x12835b01, 0x243185be, 0x550c7dc3, 0x72be5d74, 0x80deb1fe, 0x9bdc06a7, 0xc19bf174,
  0xe49b69c1, 0xefbe4786, 0x0fc19dc6, 0x240ca1cc, 0x2de92c6f, 0x4a7484aa, 0x5cb0a9dc, 0x76f988da,
  0x983e5152, 0xa831c66d, 0xb00327c8, 0xbf597fc7, 0xc6e00bf3, 0xd5a79147, 0x06ca6351, 0x14292967,
  0x27b70a85, 0x2e1b2138, 0x4d2c6dfc, 0x53380d13, 0x650a7354, 0x766a0abb, 0x81c2c92e, 0x92722c85,
  0xa2bfe8a1, 0xa81a664b, 0xc24b8b70, 0xc76c51a3, 0xd192e819, 0xd6990624, 0xf40e3585, 0x106aa070,
  0x19a4c116, 0x1e376c08, 0x2748774c, 0x34b0bcb5, 0x391c0cb3, 0x4ed8aa4a, 0x5b9cca4f, 0x682e6ff3,
  0x748f82ee, 0x78a5636f, 0x84c87814, 0x8cc70208, 0x90befffa, 0xa4506ceb, 0xbef9a3f7, 0xc67178f2]

/-- The words that a digest starts from. -/
def sha256Start : Array UInt32 := #[
  0x6a09e667, 0xbb67ae85, 0x3c6ef372, 0xa54ff53a, 0x510e527f, 0x9b05688c, 0x1f83d9ab, 0x5be0cd19]

/-- A word turned to the right by some bits. -/
def rotateRight (w n : UInt32) : UInt32 := rotate w (32 - n)

/-- The word that follows the first `i`. -/
def sha256Word (w : Array UInt32) (i : Nat) : UInt32 :=
  let x := wordAt w (i - 15)
  let y := wordAt w (i - 2)
  let s := rotateRight x 7 ^^^ rotateRight x 18 ^^^ x >>> 3
  let t := rotateRight y 17 ^^^ rotateRight y 19 ^^^ y >>> 10
  wordAt w (i - 16) + s + wordAt w (i - 7) + t

/-- One step over the words of a block, on eight words. -/
def sha256Step (w s : Array UInt32) (i : Nat) : Array UInt32 :=
  let a := wordAt s 0
  let b := wordAt s 1
  let c := wordAt s 2
  let e := wordAt s 4
  let f := wordAt s 5
  let g := wordAt s 6
  let high := rotateRight e 6 ^^^ rotateRight e 11 ^^^ rotateRight e 25
  let choice := (e &&& f) ^^^ (~~~e &&& g)
  let first := wordAt s 7 + high + choice + wordAt sha256Constants i + wordAt w i
  let low := rotateRight a 2 ^^^ rotateRight a 13 ^^^ rotateRight a 22
  let majority := (a &&& b) ^^^ (a &&& c) ^^^ (b &&& c)
  #[first + low + majority, a, b, c, wordAt s 3 + first, e, f, g]

/-- One block. -/
def sha256Block (s block : Array UInt32) : Array UInt32 :=
  let w := extend sha256Word 48 block
  Array.zipWith (· + ·) s ((List.range 64).foldl (sha256Step w) s)

/-- The SHA-256 digest of bytes. -/
def sha256 (bs : Bytes) : Text :=
  let s := (blocks id (padded List.reverse bs)).foldl sha256Block sha256Start
  hex (s.toList.flatMap fun w => (wordBytes w).reverse)

end PageQuery.Digest
