import LiveLine.Text.Utf8

/-!
# Checksums and digests

Short numbers that stand for long sequences of bytes. The constants of the SHA-2 functions are the
fractional parts of the roots of the first primes, and are computed as such.
-/

namespace LiveLine.Shell

namespace Digest

/-! ## Checksums -/

/-- The remainder after one more bit. -/
def crcStep (crc : BitVec 32) : BitVec 32 :=
  if crc.msb then (crc <<< 1) ^^^ 0x04C11DB7#32 else crc <<< 1

/-- The remainder after one more byte. -/
def crcByte (crc : BitVec 32) (b : UInt8) : BitVec 32 :=
  (List.range 8).foldl (fun r _ => crcStep r) (crc ^^^ (BitVec.ofNat 32 b.toNat <<< 24))

/-- The bytes of a number, the lowest first, without zeros at the end. -/
def lowBytes : Nat → Nat → Bytes
  | 0, _ => []
  | limit + 1, n => if n = 0 then [] else UInt8.ofNat (n % 256) :: lowBytes limit (n / 256)

/-- The cyclic redundancy check of some bytes and their number. -/
def crc (t : Bytes) : Nat :=
  (~~~((t ++ lowBytes 8 t.length).foldl crcByte 0#32)).toNat

/-- A sum of bytes that is rotated before each is added. -/
def rotatedSum (t : Bytes) : Nat :=
  t.foldl (fun n b => (n / 2 + n % 2 * 32768 + b.toNat) % 65536) 0

/-! ## Words and blocks -/

/-- The bytes of a number, the highest first. -/
def bigEndian (size n : Nat) : Bytes :=
  (List.range size).reverse.map fun i => UInt8.ofNat (n / Nat.pow 256 i % 256)

def ofBigEndian (t : Bytes) : Nat := t.foldl (fun n b => n * 256 + b.toNat) 0

/-- A list in pieces of a length; what is left over at the end is dropped. -/
def pieces {α : Type} (size : Nat) (l : List α) : List (List α) :=
  (List.range (l.length / size)).map fun i => (l.drop (i * size)).take size

/-- Bytes brought to whole blocks: a bit that is set, zeros, and the number of bits. -/
def padded (block : Nat) (length : Nat → Bytes) (t : Bytes) : Bytes :=
  let size := length (8 * t.length)
  let used := (t.length + 1 + size.length) % block
  t ++ 128 :: List.replicate ((block - used) % block) 0 ++ size

/-- A number in base sixteen, with leading zeros. -/
def hex (t : Bytes) : Text :=
  t.flatMap fun b => [Nat.digitChar (b.toNat / 16), Nat.digitChar (b.toNat % 16)]

/-! ## MD5 -/

/-- The whole parts of the sines of the first numbers, without sign, times the fourth power of
two hundred and fifty-six. -/
def sines : List (BitVec 32) :=
  [0xd76aa478, 0xe8c7b756, 0x242070db, 0xc1bdceee, 0xf57c0faf, 0x4787c62a, 0xa8304613, 0xfd469501,
    0x698098d8, 0x8b44f7af, 0xffff5bb1, 0x895cd7be, 0x6b901122, 0xfd987193, 0xa679438e, 0x49b40821,
    0xf61e2562, 0xc040b340, 0x265e5a51, 0xe9b6c7aa, 0xd62f105d, 0x02441453, 0xd8a1e681, 0xe7d3fbc8,
    0x21e1cde6, 0xc33707d6, 0xf4d50d87, 0x455a14ed, 0xa9e3e905, 0xfcefa3f8, 0x676f02d9, 0x8d2a4c8a,
    0xfffa3942, 0x8771f681, 0x6d9d6122, 0xfde5380c, 0xa4beea44, 0x4bdecfa9, 0xf6bb4b60, 0xbebfbc70,
    0x289b7ec6, 0xeaa127fa, 0xd4ef3085, 0x04881d05, 0xd9d4d039, 0xe6db99e5, 0x1fa27cf8, 0xc4ac5665,
    0xf4292244, 0x432aff97, 0xab9423a7, 0xfc93a039, 0x655b59c3, 0x8f0ccc92, 0xffeff47d, 0x85845dd1,
    0x6fa87e4f, 0xfe2ce6e0, 0xa3014314, 0x4e0811a1, 0xf7537e82, 0xbd3af235, 0x2ad7d2bb, 0xeb86d391]

/-- How far words are rotated in each sixteen rounds. -/
def turns : List (List Nat) := [[7, 12, 17, 22], [5, 9, 14, 20], [4, 11, 16, 23], [6, 10, 15, 21]]

structure Quad where
  a : BitVec 32
  b : BitVec 32
  c : BitVec 32
  d : BitVec 32

def md5Start : Quad := ⟨0x67452301, 0xefcdab89, 0x98badcfe, 0x10325476⟩

def md5Round (block : List (BitVec 32)) (q : Quad) (i : Nat) : Quad :=
  let (f, g) := match i / 16 with
    | 0 => ((q.b &&& q.c) ||| (~~~q.b &&& q.d), i)
    | 1 => ((q.d &&& q.b) ||| (~~~q.d &&& q.c), 5 * i + 1)
    | 2 => (q.b ^^^ q.c ^^^ q.d, 3 * i + 5)
    | _ => (q.c ^^^ (q.b ||| ~~~q.d), 7 * i)
  let n := q.a + f + sines.getD i 0 + block.getD (g % 16) 0
  ⟨q.d, q.b + n.rotateLeft ((turns.getD (i / 16) []).getD (i % 4) 0), q.b, q.c⟩

def md5Block (q : Quad) (block : Bytes) : Quad :=
  let words := (pieces 4 block).map fun w => BitVec.ofNat 32 (ofBigEndian w.reverse)
  let r := (List.range 64).foldl (md5Round words) q
  ⟨q.a + r.a, q.b + r.b, q.c + r.c, q.d + r.d⟩

def md5 (t : Bytes) : Bytes :=
  let q := (pieces 64 (padded 64 (fun n => (bigEndian 8 n).reverse) t)).foldl md5Block md5Start
  [q.a, q.b, q.c, q.d].flatMap fun w => (bigEndian 4 w.toNat).reverse

/-! ## SHA-1 -/

structure Quint where
  a : BitVec 32
  b : BitVec 32
  c : BitVec 32
  d : BitVec 32
  e : BitVec 32

def sha1Start : Quint := ⟨0x67452301, 0xefcdab89, 0x98badcfe, 0x10325476, 0xc3d2e1f0⟩

/-- Words that a block is continued by; the list and its new words stand backwards. -/
def extended {w : Nat} (next : List (BitVec w) → BitVec w) (rounds : Nat)
    (block : List (BitVec w)) : List (BitVec w) :=
  ((List.range (rounds - 16)).foldl (fun ws _ => next ws :: ws) block.reverse).reverse

def sha1Round (q : Quint) (x : BitVec 32 × Nat) : Quint :=
  let (f, k) : BitVec 32 × BitVec 32 := match x.2 / 20 with
    | 0 => ((q.b &&& q.c) ||| (~~~q.b &&& q.d), 0x5a827999)
    | 1 => (q.b ^^^ q.c ^^^ q.d, 0x6ed9eba1)
    | 2 => ((q.b &&& q.c) ||| (q.b &&& q.d) ||| (q.c &&& q.d), 0x8f1bbcdc)
    | _ => (q.b ^^^ q.c ^^^ q.d, 0xca62c1d6)
  ⟨q.a.rotateLeft 5 + f + q.e + k + x.1, q.a, q.b.rotateLeft 30, q.c, q.d⟩

def sha1Block (q : Quint) (block : Bytes) : Quint :=
  let words := extended (fun ws =>
    (ws.getD 2 0 ^^^ ws.getD 7 0 ^^^ ws.getD 13 0 ^^^ ws.getD 15 0).rotateLeft 1) 80
    ((pieces 4 block).map fun w => BitVec.ofNat 32 (ofBigEndian w))
  let r := (words.zipIdx).foldl sha1Round q
  ⟨q.a + r.a, q.b + r.b, q.c + r.c, q.d + r.d, q.e + r.e⟩

def sha1 (t : Bytes) : Bytes :=
  let q := (pieces 64 (padded 64 (bigEndian 8) t)).foldl sha1Block sha1Start
  [q.a, q.b, q.c, q.d, q.e].flatMap fun w => bigEndian 4 w.toNat

/-! ## SHA-2 -/

def isPrime (n : Nat) : Bool := 2 ≤ n && (List.range n).all fun d => d < 2 || n % d ≠ 0

/-- The primes below four hundred and ten, eighty of them. -/
def primes : List Nat := (List.range 410).filter isPrime

/-- The greatest number whose power is not above another number. -/
def root (power n : Nat) : Nat :=
  (List.range 72).reverse.foldl (fun r i =>
    let c := r + Nat.shiftLeft 1 i
    if Nat.ble (Nat.pow c power) n then c else r) 0

/-- The first sixty-four bits of the fractional part of a root. -/
def fraction (power n : Nat) : Nat :=
  root power (Nat.shiftLeft n (64 * power)) % Nat.shiftLeft 1 64

/-- What tells the SHA-2 functions of one word length apart. -/
structure Family where
  /-- The number of bits of a word. -/
  width : Nat
  rounds : Nat
  /-- Two rotations and a third one for each of the two sums of a round. -/
  large : (Nat × Nat × Nat) × (Nat × Nat × Nat)
  /-- Two rotations and a shift for each of the two sums of new words. -/
  small : (Nat × Nat × Nat) × (Nat × Nat × Nat)

def short : Family :=
  ⟨32, 64, ((2, 13, 22), (6, 11, 25)), ((7, 18, 3), (17, 19, 10))⟩

def long : Family :=
  ⟨64, 80, ((28, 34, 39), (14, 18, 41)), ((1, 8, 7), (19, 61, 6))⟩

namespace Family

def sum (f : Family) (r : Nat × Nat × Nat) (x : BitVec f.width) : BitVec f.width :=
  x.rotateRight r.1 ^^^ x.rotateRight r.2.1 ^^^ x.rotateRight r.2.2

def shifted (f : Family) (r : Nat × Nat × Nat) (x : BitVec f.width) : BitVec f.width :=
  x.rotateRight r.1 ^^^ x.rotateRight r.2.1 ^^^ (x >>> r.2.2)

/-- The constants of the rounds. -/
def constants (f : Family) : List (BitVec f.width) :=
  (primes.take f.rounds).map fun p =>
    BitVec.ofNat f.width (Nat.shiftRight (fraction 3 p) (64 - f.width))

def round (f : Family) (s : List (BitVec f.width)) (x : BitVec f.width × BitVec f.width) :
    List (BitVec f.width) :=
  match s with
  | [a, b, c, d, e, g, h, i] =>
    let n := i + f.sum f.large.2 e + ((e &&& g) ^^^ (~~~e &&& h)) + x.1 + x.2
    [n + f.sum f.large.1 a + ((a &&& b) ^^^ (a &&& c) ^^^ (b &&& c)), a, b, c, d + n, e, g, h]
  | s => s

def block (f : Family) (ks s : List (BitVec f.width)) (t : Bytes) : List (BitVec f.width) :=
  let words := extended (fun ws =>
    f.shifted f.small.2 (ws.getD 1 0) + ws.getD 6 0 + f.shifted f.small.1 (ws.getD 14 0) +
      ws.getD 15 0) f.rounds
    ((pieces (f.width / 8) t).map fun w => BitVec.ofNat f.width (ofBigEndian w))
  List.zipWith (· + ·) s ((ks.zip words).foldl f.round s)

/-- A digest of some bytes, from the words that it starts with. -/
def digest (f : Family) (start : List Nat) (t : Bytes) : Bytes :=
  let size := 2 * f.width
  let blocks := pieces size (padded size (bigEndian (f.width / 4)) t)
  let s := blocks.foldl (f.block f.constants) (start.map (BitVec.ofNat f.width))
  s.flatMap fun w => bigEndian (f.width / 8) w.toNat

end Family

/-- The fractional parts of the square roots of eight primes. -/
def rootsFrom (first : Nat) : List Nat := ((primes.drop first).take 8).map (fraction 2)

def sha256 : Bytes → Bytes := short.digest ((rootsFrom 0).map fun n => Nat.shiftRight n 32)

def sha224 (t : Bytes) : Bytes := (short.digest (rootsFrom 8) t).take 28

def sha512 : Bytes → Bytes := long.digest (rootsFrom 0)

def sha384 (t : Bytes) : Bytes := (long.digest (rootsFrom 8) t).take 48

end Digest

end LiveLine.Shell
