/-!
# Digests

Short numbers that stand for the bytes of a file.  The ones with words of 32 or 64 bits share the
same frame: the bytes are filled up to whole blocks, with their count at the end, and each block
changes a state of words.
-/

namespace SmellRefactor.Shell.Digest

/-! ## Words -/

/-- A word turned to the left, for words of so many bits. -/
def turnLeft (width count n : Nat) : Nat :=
  ((n <<< count) ||| (n >>> (width - count))) % (1 <<< width)

/-- A word turned to the right. -/
def turnRight (width count n : Nat) : Nat := turnLeft width (width - count) n

/-- All bits of a word turned over. -/
def complement (width n : Nat) : Nat := (1 <<< width) - 1 - n

/-- The bits of the second word where the first one has ones, and of the third one elsewhere. -/
def choose (width a b c : Nat) : Nat := (a &&& b) ||| (complement width a &&& c)

/-- The bits that at least two of three words have. -/
def majority (a b c : Nat) : Nat := (a &&& b) ||| (a &&& c) ||| (b &&& c)

/-- The word that bytes make up, the greatest one first. -/
def wordOf (bytes : List Nat) : Nat := bytes.foldl (fun n byte => 256 * n + byte) 0

/-- The bytes of a word, the greatest one first. -/
def bytesOfWord (size n : Nat) : List Nat :=
  ((List.range size).map fun i => (n >>> (8 * i)) % 256).reverse

/-- A list in pieces of the same size. -/
def pieces {α : Type} (size : Nat) (list : List α) : List (List α) :=
  (List.range (list.length / size)).map fun i => (list.drop (i * size)).take size

/-- Bytes filled up to whole blocks of 16 words, with the count of their bits in the last two. -/
def filled (size : Nat) (counted : Nat → List Nat) (bytes : List Nat) : List (List Nat) :=
  let block := 16 * size
  let spare := (block - (bytes.length + 1 + 2 * size) % block) % block
  pieces block (bytes ++ 0x80 :: List.replicate spare 0 ++ counted (8 * bytes.length))

/-- A word at some place of a list. -/
def wordAt (words : Array Nat) (i : Nat) : Nat := words[i]?.getD 0

/-! ## Roots of primes -/

/-- The greatest number whose product with itself, so many times, is not above another one. -/
def rootOf (power bits n : Nat) : Nat :=
  let product (r : Nat) : Nat := (List.replicate power r).foldl (· * ·) 1
  (List.range bits).reverse.foldl
    (fun r i => if product (r + (1 <<< i)) ≤ n then r + (1 <<< i) else r) 0

/-- The first primes. -/
def primes (count : Nat) : List Nat :=
  ((List.range 420).filter fun n =>
    2 ≤ n && (List.range n).all fun d => d < 2 || n % d ≠ 0).take count

/-- The first bits behind the point of a root of a number. -/
def rootFraction (power width n : Nat) : Nat :=
  rootOf power (width + 8) (n <<< (power * width)) % (1 <<< width)

/-! ## The second family of secure digests -/

/-- A member of the second family: the width of its words, how far they are turned, and where its
state starts. -/
structure Secure where
  width : Nat
  rounds : Nat
  /-- How far a word is turned for the first sum of a round, and for the second one. -/
  sums : List Nat × List Nat
  /-- How far a word is turned, and at last moved, for each part of a new word. -/
  parts : (Nat × Nat × Nat) × (Nat × Nat × Nat)
  start : List Nat
  /-- The count of the words that are the result. -/
  kept : Nat

namespace Secure

/-- The words of a block and those that follow from them. -/
def schedule (s : Secure) (block : List Nat) : Array Nat :=
  let part (turns : Nat × Nat × Nat) (n : Nat) : Nat :=
    (turnRight s.width turns.1 n ^^^ turnRight s.width turns.2.1 n) ^^^ (n >>> turns.2.2)
  let first := ((pieces (s.width / 8) block).map wordOf).toArray
  (List.range (s.rounds - 16)).foldl
    (fun words i =>
      words.push ((part s.parts.2 (wordAt words (i + 14)) + wordAt words (i + 9) +
        part s.parts.1 (wordAt words (i + 1)) + wordAt words i) % (1 <<< s.width))) first

/-- The state after a block. -/
def compress (s : Secure) (keys : List Nat) (state block : List Nat) : List Nat :=
  let size := 1 <<< s.width
  let sum (turns : List Nat) (n : Nat) : Nat :=
    turns.foldl (fun total count => total ^^^ turnRight s.width count n) 0
  let round (state : List Nat) (pair : Nat × Nat) : List Nat :=
    match state with
    | [a, b, c, d, e, f, g, h] =>
      let one := h + sum s.sums.2 e + choose s.width e f g + pair.1 + pair.2
      let two := sum s.sums.1 a + majority a b c
      [(one + two) % size, a, b, c, (d + one) % size, e, f, g]
    | other => other
  let after := (keys.zip (s.schedule block).toList).foldl round state
  List.zipWith (fun a b => (a + b) % size) state after

/-- The digest of bytes. -/
def digest (s : Secure) (bytes : List Nat) : List Nat :=
  let size := s.width / 8
  let keys := (primes s.rounds).map (rootFraction 3 s.width)
  let blocks := filled size (bytesOfWord (2 * size)) bytes
  ((blocks.foldl (s.compress keys) s.start).flatMap (bytesOfWord size)).take s.kept

/-- The member with words of 32 bits. -/
def short : Secure :=
  { width := 32, rounds := 64, sums := ([2, 13, 22], [6, 11, 25])
    parts := ((7, 18, 3), (17, 19, 10)), start := (primes 8).map (rootFraction 2 32), kept := 32 }

/-- The member with words of 64 bits. -/
def long : Secure :=
  { width := 64, rounds := 80, sums := ([28, 34, 39], [14, 18, 41])
    parts := ((1, 8, 7), (19, 61, 6)), start := (primes 8).map (rootFraction 2 64), kept := 64 }

/-- The member with words of 64 bits whose result is cut short. -/
def longCut : Secure :=
  { long with start := ((primes 16).drop 8).map (rootFraction 2 64), kept := 48 }

/-- The member with words of 32 bits whose result is cut short. -/
def shortCut : Secure :=
  { short with
    start := ((primes 16).drop 8).map (fun p => rootFraction 2 64 p % (1 <<< 32)), kept := 28 }

end Secure

/-! ## Older digests -/

/-- Where the older digests start. -/
def olderStart : List Nat := [0x67452301, 0xefcdab89, 0x98badcfe, 0x10325476]

/-- The digest of five words. -/
def sha1 (bytes : List Nat) : List Nat :=
  let size := 1 <<< 32
  let schedule (block : List Nat) : Array Nat :=
    (List.range 64).foldl
      (fun words i => words.push (turnLeft 32 1
        (((wordAt words (i + 13) ^^^ wordAt words (i + 8)) ^^^ wordAt words (i + 2)) ^^^ wordAt words i)))
      ((pieces 4 block).map wordOf).toArray
  let mix (i b c d : Nat) : Nat :=
    if i < 20 then choose 32 b c d + 0x5a827999
    else if i < 40 then ((b ^^^ c) ^^^ d) + 0x6ed9eba1
    else if i < 60 then majority b c d + 0x8f1bbcdc
    else ((b ^^^ c) ^^^ d) + 0xca62c1d6
  let round (state : List Nat) (entry : Nat × Nat) : List Nat :=
    match state with
    | [a, b, c, d, e] =>
      [(turnLeft 32 5 a + mix entry.2 b c d + e + entry.1) % size, a, turnLeft 32 30 b, c, d]
    | other => other
  let compress (state block : List Nat) : List Nat :=
    List.zipWith (fun a b => (a + b) % size) state
      ((schedule block).toList.zipIdx.foldl round state)
  ((filled 4 (bytesOfWord 8) bytes).foldl compress (olderStart ++ [0xc3d2e1f0])).flatMap
    (bytesOfWord 4)

/-- The keys of the digest of four words. -/
def md5Keys : List Nat :=
  [0xd76aa478, 0xe8c7b756, 0x242070db, 0xc1bdceee, 0xf57c0faf, 0x4787c62a, 0xa8304613, 0xfd469501,
    0x698098d8, 0x8b44f7af, 0xffff5bb1, 0x895cd7be, 0x6b901122, 0xfd987193, 0xa679438e, 0x49b40821,
    0xf61e2562, 0xc040b340, 0x265e5a51, 0xe9b6c7aa, 0xd62f105d, 0x02441453, 0xd8a1e681, 0xe7d3fbc8,
    0x21e1cde6, 0xc33707d6, 0xf4d50d87, 0x455a14ed, 0xa9e3e905, 0xfcefa3f8, 0x676f02d9, 0x8d2a4c8a,
    0xfffa3942, 0x8771f681, 0x6d9d6122, 0xfde5380c, 0xa4beea44, 0x4bdecfa9, 0xf6bb4b60, 0xbebfbc70,
    0x289b7ec6, 0xeaa127fa, 0xd4ef3085, 0x04881d05, 0xd9d4d039, 0xe6db99e5, 0x1fa27cf8, 0xc4ac5665,
    0xf4292244, 0x432aff97, 0xab9423a7, 0xfc93a039, 0x655b59c3, 0x8f0ccc92, 0xffeff47d, 0x85845dd1,
    0x6fa87e4f, 0xfe2ce6e0, 0xa3014314, 0x4e0811a1, 0xf7537e82, 0xbd3af235, 0x2ad7d2bb, 0xeb86d391]

/-- How far words are turned in the four parts of the digest of four words. -/
def md5Turns : List (List Nat) := [[7, 12, 17, 22], [5, 9, 14, 20], [4, 11, 16, 23], [6, 10, 15, 21]]

/-- The digest of four words, whose bytes have the least one first. -/
def md5 (bytes : List Nat) : List Nat :=
  let size := 1 <<< 32
  let turnAt (i : Nat) : Nat := (((md5Turns[i / 16]?).getD [])[i % 4]?).getD 0
  let mix (i b c d : Nat) : Nat × Nat :=
    if i < 16 then (choose 32 b c d, i)
    else if i < 32 then (choose 32 d b c, (5 * i + 1) % 16)
    else if i < 48 then ((b ^^^ c) ^^^ d, (3 * i + 5) % 16)
    else (c ^^^ (b ||| complement 32 d), 7 * i % 16)
  let round (words : Array Nat) (state : List Nat) (entry : Nat × Nat) : List Nat :=
    match state with
    | [a, b, c, d] =>
      let (mixed, place) := mix entry.2 b c d
      let sum := (a + mixed + entry.1 + wordAt words place) % size
      [d, (b + turnLeft 32 (turnAt entry.2) sum) % size, b, c]
    | other => other
  let compress (state block : List Nat) : List Nat :=
    let words := ((pieces 4 block).map fun bytes => wordOf bytes.reverse).toArray
    List.zipWith (fun a b => (a + b) % size) state
      (md5Keys.zipIdx.foldl (round words) state)
  ((filled 4 (fun n => (bytesOfWord 8 n).reverse) bytes).foldl compress olderStart).flatMap
    fun word => (bytesOfWord 4 word).reverse

/-! ## Checks against faults -/

/-- The remainder of bytes, and then of their count, as a polynomial over two numbers. -/
def remainder (bytes : List Nat) : Nat :=
  let bit (r : Nat) : Nat :=
    if r &&& 0x80000000 = 0 then (r <<< 1) % (1 <<< 32) else ((r <<< 1) % (1 <<< 32)) ^^^ 0x04c11db7
  let feed (r byte : Nat) : Nat := (List.range 8).foldl (fun r _ => bit r) (r ^^^ (byte <<< 24))
  let count := ((bytesOfWord 8 bytes.length).dropWhile (· = 0)).reverse
  complement 32 ((bytes ++ count).foldl feed 0)

/-- The sum of bytes in 16 bits, which are turned by one before each of them. -/
def turningSum (bytes : List Nat) : Nat :=
  bytes.foldl (fun sum byte => (turnRight 16 1 sum + byte) % 65536) 0

/-- The sum of bytes, folded into 16 bits. -/
def foldedSum (bytes : List Nat) : Nat :=
  let fold (n : Nat) : Nat := n % 65536 + n / 65536
  fold (fold (bytes.foldl (· + ·) 0 % (1 <<< 32)))

/-- Bytes as digits of base 16. -/
def text (bytes : List Nat) : String :=
  String.ofList (bytes.flatMap fun byte => [Nat.digitChar (byte / 16), Nat.digitChar (byte % 16)])

end SmellRefactor.Shell.Digest
