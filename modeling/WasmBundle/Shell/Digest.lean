import WasmBundle.Bytes

/-!
# Digests of messages

Sums over the bytes of a message that show whether it was damaged, two digests of words of 32 bits,
and a family of longer ones that differ in the size of words, in the amounts by which words are
turned, and in the values that they start with. For a digest a message is filled up to whole blocks
with its length at the end, and a block is read as words.
-/

namespace WasmBundle.Shell.Digest

/-- The number that bytes are, the high one first. -/
def highFirst (b : Bytes) : Nat := b.foldl (fun n x => 256 * n + x.toNat) 0

/-- A number in so many bytes, the low one first. -/
def lowBytes : Nat → Nat → Bytes
  | 0, _ => []
  | count + 1, n => UInt8.ofNat n :: lowBytes count (n / 256)

def highBytes (count n : Nat) : Bytes := (lowBytes count n).reverse

/-- What follows a message of some length so that blocks of a size are whole: a bit, zeros, and
`lengthBytes` bytes that tell the number of bits. -/
def padding (blockSize lengthBytes length : Nat) (number : Nat → Nat → Bytes) : Bytes :=
  let used := (length + 1 + lengthBytes) % blockSize
  128 :: List.replicate ((blockSize - used) % blockSize) 0 ++ number lengthBytes (8 * length)

def pieces (size : Nat) : Nat → Bytes → List Bytes
  | 0, _ => []
  | limit + 1, b =>
    if b.isEmpty then [] else b.take size :: pieces size limit (b.drop (max size 1))

def blocks (blockSize lengthBytes : Nat) (number : Nat → Nat → Bytes) (b : Bytes) : List Bytes :=
  let whole := b ++ padding blockSize lengthBytes b.length number
  pieces blockSize whole.length whole

def words (w : Nat) (number : Bytes → Nat) (block : Bytes) : List (BitVec w) :=
  (pieces (w / 8) block.length block).map fun p => BitVec.ofNat w (number p)

def bytesOf {w : Nat} (number : Nat → Nat → Bytes) (l : List (BitVec w)) : Bytes :=
  l.flatMap fun x => number (w / 8) x.toNat

/-- The greatest number whose power is at most `n`, found bit by bit below a bound. -/
def root (power n : Nat) : Nat → Nat → Nat
  | 0, found => found
  | bits + 1, found =>
    let wider := found + Nat.pow 2 bits
    root power n bits (if Nat.pow wider power ≤ n then wider else found)

/-- The first so many bits behind the point of a root of a number. -/
def rootBits (power bits n : Nat) : Nat :=
  root power (n * Nat.pow 2 (power * bits)) (bits + 8) 0 % Nat.pow 2 bits

def primesBelow (bound : Nat) : List Nat :=
  (List.range bound).filter fun n =>
    2 ≤ n && (List.range n).all fun d => d < 2 || n % d != 0

def remainderStep (r : BitVec 32) : BitVec 32 :=
  if r.msb then (r <<< 1) ^^^ 0x04c11db7 else r <<< 1

/-- A remainder with one more byte of a message behind it. -/
def remainderByte (r : BitVec 32) (b : UInt8) : BitVec 32 :=
  (List.range 8).foldl (fun r _ => remainderStep r) (r ^^^ (BitVec.ofNat 32 b.toNat <<< 24))

/-- As many bytes of a number as it needs, the low one first. -/
def neededBytes : Nat → Nat → Bytes
  | 0, _ => []
  | limit + 1, n => if n = 0 then [] else UInt8.ofNat n :: neededBytes limit (n / 256)

/-- The remainder of a message with its length behind it, as a polynomial over bits. -/
def remainder (b : Bytes) : Nat :=
  (~~~((b ++ neededBytes 16 b.length).foldl remainderByte 0)).toNat

/-- The sum of a message that is turned by one bit before each byte. -/
def turningSum (b : Bytes) : Nat :=
  (b.foldl (fun (s : BitVec 16) x => s.rotateRight 1 + BitVec.ofNat 16 x.toNat) 0).toNat

/-- The sum of the bytes of a message, whose two halves are added. -/
def plainSum (b : Bytes) : Nat :=
  let sum := b.foldl (fun (n : Nat) x => n + x.toNat) 0 % Nat.pow 2 32
  let halves := sum % Nat.pow 2 16 + sum / Nat.pow 2 16
  halves % Nat.pow 2 16 + halves / Nat.pow 2 16

/-- The constants of the rounds: the whole part of sines times a power of two. -/
def sines : List Nat :=
  [0xd76aa478, 0xe8c7b756, 0x242070db, 0xc1bdceee, 0xf57c0faf, 0x4787c62a, 0xa8304613, 0xfd469501,
    0x698098d8, 0x8b44f7af, 0xffff5bb1, 0x895cd7be, 0x6b901122, 0xfd987193, 0xa679438e, 0x49b40821,
    0xf61e2562, 0xc040b340, 0x265e5a51, 0xe9b6c7aa, 0xd62f105d, 0x02441453, 0xd8a1e681, 0xe7d3fbc8,
    0x21e1cde6, 0xc33707d6, 0xf4d50d87, 0x455a14ed, 0xa9e3e905, 0xfcefa3f8, 0x676f02d9, 0x8d2a4c8a,
    0xfffa3942, 0x8771f681, 0x6d9d6122, 0xfde5380c, 0xa4beea44, 0x4bdecfa9, 0xf6bb4b60, 0xbebfbc70,
    0x289b7ec6, 0xeaa127fa, 0xd4ef3085, 0x04881d05, 0xd9d4d039, 0xe6db99e5, 0x1fa27cf8, 0xc4ac5665,
    0xf4292244, 0x432aff97, 0xab9423a7, 0xfc93a039, 0x655b59c3, 0x8f0ccc92, 0xffeff47d, 0x85845dd1,
    0x6fa87e4f, 0xfe2ce6e0, 0xa3014314, 0x4e0811a1, 0xf7537e82, 0xbd3af235, 0x2ad7d2bb, 0xeb86d391]

/-- By how much words are turned, in each quarter of the rounds. -/
def quarterTurns : List (List Nat) :=
  [[7, 12, 17, 22], [5, 9, 14, 20], [4, 11, 16, 23], [6, 10, 15, 21]]

structure Four where
  a : BitVec 32
  b : BitVec 32
  c : BitVec 32
  d : BitVec 32

/-- The round with a number, on the words of a block. -/
def fourRound (input : List (BitVec 32)) (s : Four) (round : Nat × Nat) : Four :=
  let (constant, n) := round
  let (mixed, place) :=
    match n / 16 with
    | 0 => ((s.b &&& s.c) ||| (~~~s.b &&& s.d), n)
    | 1 => ((s.d &&& s.b) ||| (~~~s.d &&& s.c), 5 * n + 1)
    | 2 => (s.b ^^^ s.c ^^^ s.d, 3 * n + 5)
    | _ => (s.c ^^^ (s.b ||| ~~~s.d), 7 * n)
  let sum := mixed + s.a + BitVec.ofNat 32 constant + (input[place % 16]?).getD 0
  let turn := (((quarterTurns[n / 16]?).getD [])[n % 4]?).getD 0
  { a := s.d, b := s.b + sum.rotateLeft turn, c := s.b, d := s.c }

def absorbFour (s : Four) (block : Bytes) : Four :=
  let input := words 32 (fun p => highFirst p.reverse) block
  let t := sines.zipIdx.foldl (fourRound input) s
  { a := s.a + t.a, b := s.b + t.b, c := s.c + t.c, d := s.d + t.d }

def four (b : Bytes) : Bytes :=
  let start : Four := { a := 0x67452301, b := 0xefcdab89, c := 0x98badcfe, d := 0x10325476 }
  let s := (blocks 64 8 lowBytes b).foldl absorbFour start
  bytesOf lowBytes [s.a, s.b, s.c, s.d]

structure Five where
  a : BitVec 32
  b : BitVec 32
  c : BitVec 32
  d : BitVec 32
  e : BitVec 32

/-- The words of a block made longer, the last one first. -/
def longer : Nat → List (BitVec 32) → List (BitVec 32)
  | 0, l => l
  | more + 1, l =>
    let back := fun (n : Nat) => (l[n]?).getD 0
    let next := back 2 ^^^ back 7 ^^^ back 13 ^^^ back 15
    longer more (next.rotateLeft 1 :: l)

/-- The round with a number, on a word. -/
def fiveRound (s : Five) (input : BitVec 32 × Nat) : Five :=
  let (word, n) := input
  let (mixed, constant) : BitVec 32 × BitVec 32 :=
    match n / 20 with
    | 0 => ((s.b &&& s.c) ||| (~~~s.b &&& s.d), 0x5a827999)
    | 1 => (s.b ^^^ s.c ^^^ s.d, 0x6ed9eba1)
    | 2 => ((s.b &&& s.c) ||| (s.b &&& s.d) ||| (s.c &&& s.d), 0x8f1bbcdc)
    | _ => (s.b ^^^ s.c ^^^ s.d, 0xca62c1d6)
  { a := s.a.rotateLeft 5 + mixed + s.e + constant + word
    b := s.a, c := s.b.rotateLeft 30, d := s.c, e := s.d }

def absorbFive (s : Five) (block : Bytes) : Five :=
  let input := (longer 64 (words 32 highFirst block).reverse).reverse
  let t := input.zipIdx.foldl fiveRound s
  { a := s.a + t.a, b := s.b + t.b, c := s.c + t.c, d := s.d + t.d, e := s.e + t.e }

def five (b : Bytes) : Bytes :=
  let start : Five :=
    { a := 0x67452301, b := 0xefcdab89, c := 0x98badcfe, d := 0x10325476, e := 0xc3d2e1f0 }
  let s := (blocks 64 8 highBytes b).foldl absorbFive start
  bytesOf highBytes [s.a, s.b, s.c, s.d, s.e]

structure Variant where
  /-- How many bits a word has. -/
  width : Nat
  rounds : Nat
  /-- The amounts by which words are turned in the state, and in the schedule, where the last one is
  a shift. -/
  turnsOfFirst : Nat × Nat × Nat
  turnsOfFifth : Nat × Nat × Nat
  turnsOfOld : Nat × Nat × Nat
  turnsOfNew : Nat × Nat × Nat
  start : List Nat
  /-- How many words of the end of the work the digest has. -/
  size : Nat

namespace Variant

structure State (w : Nat) where
  a : BitVec w
  b : BitVec w
  c : BitVec w
  d : BitVec w
  e : BitVec w
  f : BitVec w
  g : BitVec w
  h : BitVec w

def State.ofList {w : Nat} (l : List (BitVec w)) : State w :=
  let at_ := fun (n : Nat) => (l[n]?).getD 0
  { a := at_ 0, b := at_ 1, c := at_ 2, d := at_ 3, e := at_ 4, f := at_ 5, g := at_ 6, h := at_ 7 }

def State.toList {w : Nat} (s : State w) : List (BitVec w) :=
  [s.a, s.b, s.c, s.d, s.e, s.f, s.g, s.h]

def State.add {w : Nat} (s t : State w) : State w :=
  .ofList (List.zipWith (· + ·) s.toList t.toList)

def turned {w : Nat} (turns : Nat × Nat × Nat) (x : BitVec w) : BitVec w :=
  x.rotateRight turns.1 ^^^ x.rotateRight turns.2.1 ^^^ x.rotateRight turns.2.2

def shifted {w : Nat} (turns : Nat × Nat × Nat) (x : BitVec w) : BitVec w :=
  x.rotateRight turns.1 ^^^ x.rotateRight turns.2.1 ^^^ (x >>> turns.2.2)

/-- The words of a block made longer, the last one first. -/
def schedule (v : Variant) : Nat → List (BitVec v.width) → List (BitVec v.width)
  | 0, l => l
  | more + 1, l =>
    let back := fun (n : Nat) => (l[n]?).getD 0
    let next := shifted v.turnsOfNew (back 1) + back 6 + shifted v.turnsOfOld (back 14) + back 15
    v.schedule more (next :: l)

def round (v : Variant) (s : State v.width) (input : BitVec v.width × BitVec v.width) :
    State v.width :=
  let choice := (s.e &&& s.f) ^^^ (~~~s.e &&& s.g)
  let majority := (s.a &&& s.b) ^^^ (s.a &&& s.c) ^^^ (s.b &&& s.c)
  let first := s.h + turned v.turnsOfFifth s.e + choice + input.2 + input.1
  let second := turned v.turnsOfFirst s.a + majority
  { a := first + second, b := s.a, c := s.b, d := s.c
    e := s.d + first, f := s.e, g := s.f, h := s.g }

def absorb (v : Variant) (constants : List (BitVec v.width)) (s : State v.width) (block : Bytes) :
    State v.width :=
  let input := words v.width highFirst block
  let all := (v.schedule (v.rounds - 16) input.reverse).reverse
  s.add ((all.zip constants).foldl v.round s)

def constants (v : Variant) : List (BitVec v.width) :=
  ((primesBelow 410).take v.rounds).map fun p => BitVec.ofNat v.width (rootBits 3 v.width p)

def digest (v : Variant) (b : Bytes) : Bytes :=
  let constants := v.constants
  let start := State.ofList (v.start.map (BitVec.ofNat v.width))
  let parts := blocks (2 * v.width) (v.width / 4) highBytes b
  let last := parts.foldl (v.absorb constants) start
  (bytesOf highBytes last.toList).take v.size

def squareRoots (bits skipped : Nat) : List Nat :=
  (((primesBelow 60).drop skipped).take 8).map (rootBits 2 bits)

def narrow : Variant where
  width := 32
  rounds := 64
  turnsOfFirst := (2, 13, 22)
  turnsOfFifth := (6, 11, 25)
  turnsOfOld := (7, 18, 3)
  turnsOfNew := (17, 19, 10)
  start := squareRoots 32 0
  size := 32

def wide : Variant where
  width := 64
  rounds := 80
  turnsOfFirst := (28, 34, 39)
  turnsOfFifth := (14, 18, 41)
  turnsOfOld := (1, 8, 7)
  turnsOfNew := (19, 61, 6)
  start := squareRoots 64 0
  size := 64

/-- The member with words of 32 bits that gives away fewer of them. -/
def narrowShort : Variant :=
  { narrow with start := (squareRoots 64 8).map (· % Nat.pow 2 32), size := 28 }

/-- The member with words of 64 bits that gives away fewer of them. -/
def wideShort : Variant := { wide with start := squareRoots 64 8, size := 48 }

end Variant

end WasmBundle.Shell.Digest
