import AddonAtlas.Bytes
import AddonAtlas.Number.Instances

/-!
# Checksums

Digests of bytes by the functions of the families MD5, SHA-1 and SHA-2, which all take in blocks of a message
that is filled up with its length; and the smaller sums by which files are told apart. The constants of SHA-2
are the first binary digits of roots of primes, those of MD5 the first ones of sines.
-/

namespace AddonAtlas.Checksum

/-! ## Words -/

/-- A number with some digits of so many moved up, those at the top coming in again at the bottom. -/
def rotateUp (width count n : Nat) : Nat :=
  ((n <<< count) ||| (n >>> (width - count))) % 2 ^ width

/-- A number with some digits of so many moved down, those at the bottom coming in again at the top. -/
def rotateDown (width count n : Nat) : Nat :=
  rotateUp width (width - count) n

/-- The bytes of a number, the highest one first. -/
def bigEndian (size n : Nat) : List UInt8 :=
  (List.range size).reverse.map fun i => (n >>> (8 * i)).toUInt8

/-- The bytes of a number, the lowest one first. -/
def littleEndian (size n : Nat) : List UInt8 :=
  (bigEndian size n).reverse

/-- The number of bytes, the highest one first. -/
def ofBigEndian (bs : List UInt8) : Nat :=
  bs.foldl (fun n b => n * 256 + b.toNat) 0

/-- The parts of a list, all of one length. -/
def blocks {α : Type} (size : Nat) (l : List α) : List (List α) :=
  (List.range (l.length / size)).foldr (fun _ (next : List α → List (List α)) l =>
    l.take size :: next (l.drop size)) (fun _ => []) l

/-- A message in blocks, with a mark behind it, and its length in digits at the end of the last one. -/
def padded (size lengthSize : Nat) (encode : Nat → Nat → List UInt8) (message : List UInt8) : List (List UInt8) :=
  let used := message.length + 1 + lengthSize
  let filling := (size - used % size) % size
  blocks size (message ++ 128 :: List.replicate filling 0 ++ encode lengthSize (8 * message.length))

/-- The sum of two lists of numbers of a width, place by place. -/
def addAll (width : Nat) (a b : List Nat) : List Nat :=
  (a.zip b).map fun (x, y) => (x + y) % 2 ^ width

/-! ## MD5 and SHA-1 -/

/-- The words with which both functions start. -/
def startWords : List Nat :=
  [0x67452301, 0xefcdab89, 0x98badcfe, 0x10325476]

/-- The first digits of the sines of whole numbers. -/
def sines : Array Nat :=
  ((List.range 64).map fun i =>
    ((Float.sin (Float.ofNat (i + 1))).abs * 4294967296.0).floor.toUInt64.toNat).toArray

/-- How far words are rotated, in each of four rounds. -/
def rotations : List (List Nat) :=
  [[7, 12, 17, 22], [5, 9, 14, 20], [4, 11, 16, 23], [6, 10, 15, 21]]

/-- The opposite of a word of 32 digits. -/
def opposite (x : Nat) : Nat :=
  2 ^ 32 - 1 - x

/-- Takes in one block. -/
def absorbBrief (state : List Nat) (block : List UInt8) : List Nat :=
  let words := ((blocks 4 block).map fun bs => ofBigEndian bs.reverse).toArray
  let step (s : Nat × Nat × Nat × Nat) (i : Nat) : Nat × Nat × Nat × Nat :=
    let (a, b, c, d) := s
    let (f, g) :=
      match i / 16 with
      | 0 => ((b &&& c) ||| (opposite b &&& d), i)
      | 1 => ((d &&& b) ||| (opposite d &&& c), (5 * i + 1) % 16)
      | 2 => (b ^^^ c ^^^ d, (3 * i + 5) % 16)
      | _ => (c ^^^ (b ||| opposite d), 7 * i % 16)
    let sum := (a + f + sines.getD i 0 + words.getD g 0) % 2 ^ 32
    let count := ((rotations.getD (i / 16) []).getD (i % 4) 0)
    (d, (b + rotateUp 32 count sum) % 2 ^ 32, b, c)
  let (a, b, c, d) := (List.range 64).foldl step
    (state.getD 0 0, state.getD 1 0, state.getD 2 0, state.getD 3 0)
  addAll 32 state [a, b, c, d]

/-- The digest by MD5. -/
def md5 (message : List UInt8) : List UInt8 :=
  let state := (padded 64 8 littleEndian message).foldl absorbBrief startWords
  state.flatMap (littleEndian 4)

/-- Takes in one block. -/
def absorbFirst (state : List Nat) (block : List UInt8) : List Nat :=
  let start := ((blocks 4 block).map ofBigEndian).toArray
  let words := (List.range 64).foldl (fun (w : Array Nat) i =>
    let at_ (back : Nat) : Nat := w.getD (i + 16 - back) 0
    w.push (rotateUp 32 1 (at_ 3 ^^^ at_ 8 ^^^ at_ 14 ^^^ at_ 16))) start
  let step (s : Nat × Nat × Nat × Nat × Nat) (i : Nat) : Nat × Nat × Nat × Nat × Nat :=
    let (a, b, c, d, e) := s
    let (f, k) :=
      match i / 20 with
      | 0 => ((b &&& c) ||| (opposite b &&& d), 0x5a827999)
      | 1 => (b ^^^ c ^^^ d, 0x6ed9eba1)
      | 2 => ((b &&& c) ||| (b &&& d) ||| (c &&& d), 0x8f1bbcdc)
      | _ => (b ^^^ c ^^^ d, 0xca62c1d6)
    ((rotateUp 32 5 a + f + e + k + words.getD i 0) % 2 ^ 32, a, rotateUp 32 30 b, c, d)
  let (a, b, c, d, e) := (List.range 80).foldl step
    (state.getD 0 0, state.getD 1 0, state.getD 2 0, state.getD 3 0, state.getD 4 0)
  addAll 32 state [a, b, c, d, e]

/-- The digest by SHA-1. -/
def sha1 (message : List UInt8) : List UInt8 :=
  let state := (padded 64 8 bigEndian message).foldl absorbFirst (startWords ++ [0xc3d2e1f0])
  state.flatMap (bigEndian 4)

/-! ## SHA-2 -/

/-- The first prime numbers. -/
def primes : List Nat :=
  (List.range 410).filter fun n => 2 ≤ n && (List.range n).all fun d => d < 2 || n % d ≠ 0

/-- The greatest number whose power is no greater than another number. -/
def root (power n : Nat) : Nat :=
  (List.range 72).reverse.foldl (fun r i => if (r + 2 ^ i) ^ power ≤ n then r + 2 ^ i else r) 0

/-- The first binary digits behind the point of a root. -/
def rootDigits (power width n : Nat) : Nat :=
  root power (n * 2 ^ (power * width)) % 2 ^ width

/-- A function of the family: the width of its words, its rounds, how far words are rotated in four mixtures,
the last number of the first two of which is how far they are shifted, and the size of the digest. -/
structure Sha2 where
  width : Nat
  constants : Array Nat
  start : List Nat
  early : Nat × Nat × Nat
  late : Nat × Nat × Nat
  upper : Nat × Nat × Nat
  lower : Nat × Nat × Nat
  size : Nat

namespace Sha2

/-- The functions with words of 32 digits. -/
def narrow (start : List Nat) (size : Nat) : Sha2 where
  width := 32
  constants := ((primes.take 64).map (rootDigits 3 32)).toArray
  start := start
  early := (7, 18, 3)
  late := (17, 19, 10)
  upper := (2, 13, 22)
  lower := (6, 11, 25)
  size := size

/-- The functions with words of 64 digits. -/
def wide (start : List Nat) (size : Nat) : Sha2 where
  width := 64
  constants := ((primes.take 80).map (rootDigits 3 64)).toArray
  start := start
  early := (1, 8, 7)
  late := (19, 61, 6)
  upper := (28, 34, 39)
  lower := (14, 18, 41)
  size := size

/-- The mixture of rotated words, the last of which is only shifted. -/
def shiftedMix (f : Sha2) (r : Nat × Nat × Nat) (x : Nat) : Nat :=
  rotateDown f.width r.1 x ^^^ rotateDown f.width r.2.1 x ^^^ (x >>> r.2.2)

/-- The mixture of rotated words. -/
def rotatedMix (f : Sha2) (r : Nat × Nat × Nat) (x : Nat) : Nat :=
  rotateDown f.width r.1 x ^^^ rotateDown f.width r.2.1 x ^^^ rotateDown f.width r.2.2 x

/-- Takes in one block. -/
def absorb (f : Sha2) (state : List Nat) (block : List UInt8) : List Nat :=
  let limit := 2 ^ f.width
  let start := ((blocks (f.width / 8) block).map ofBigEndian).toArray
  let words := (List.range (f.constants.size - 16)).foldl (fun (w : Array Nat) i =>
    let at_ (back : Nat) : Nat := w.getD (i + 16 - back) 0
    w.push ((f.shiftedMix f.late (at_ 2) + at_ 7 + f.shiftedMix f.early (at_ 15) + at_ 16) % limit)) start
  let step (s : List Nat) (i : Nat) : List Nat :=
    match s with
    | [a, b, c, d, e, g, h, k] =>
      let chosen := (e &&& g) ^^^ ((limit - 1 - e) &&& h)
      let first := k + f.rotatedMix f.lower e + chosen + f.constants.getD i 0 + words.getD i 0
      let most := (a &&& b) ^^^ (a &&& c) ^^^ (b &&& c)
      let second := f.rotatedMix f.upper a + most
      [(first + second) % limit, a, b, c, (d + first) % limit, e, g, h]
    | _ => s
  addAll f.width state ((List.range f.constants.size).foldl step state)

/-- The digest by a function. -/
def digest (f : Sha2) (message : List UInt8) : List UInt8 :=
  let state := (padded (2 * f.width) (f.width / 4) bigEndian message).foldl f.absorb f.start
  (state.flatMap (bigEndian (f.width / 8))).take f.size

end Sha2

def sha256 : Sha2 :=
  .narrow ((primes.take 8).map (rootDigits 2 32)) 32

/-- The shorter digest starts with the lower halves of the words of another function. -/
def sha224 : Sha2 :=
  .narrow (((primes.drop 8).take 8).map fun p => rootDigits 2 64 p % 2 ^ 32) 28

def sha512 : Sha2 :=
  .wide ((primes.take 8).map (rootDigits 2 64)) 64

def sha384 : Sha2 :=
  .wide (((primes.drop 8).take 8).map (rootDigits 2 64)) 48

/-! ## BLAKE2 -/

/-- In which order the words of a block are taken in, round by round. -/
def orders : Array (Array Nat) :=
  #[#[0, 1, 2, 3, 4, 5, 6, 7, 8, 9, 10, 11, 12, 13, 14, 15], #[14, 10, 4, 8, 9, 15, 13, 6, 1, 12, 0, 2, 11, 7, 5, 3],
    #[11, 8, 12, 0, 5, 2, 15, 13, 10, 14, 3, 6, 7, 1, 9, 4], #[7, 9, 3, 1, 13, 12, 11, 14, 2, 6, 5, 10, 4, 0, 15, 8],
    #[9, 0, 5, 7, 2, 4, 10, 15, 14, 1, 11, 12, 6, 8, 3, 13], #[2, 12, 6, 10, 0, 11, 8, 3, 4, 13, 7, 5, 15, 14, 1, 9],
    #[12, 5, 1, 15, 14, 13, 4, 10, 0, 7, 6, 3, 9, 2, 8, 11], #[13, 11, 7, 14, 12, 1, 3, 9, 5, 0, 15, 4, 8, 6, 2, 10],
    #[6, 15, 14, 9, 11, 3, 0, 8, 12, 2, 13, 7, 1, 4, 10, 5], #[10, 2, 8, 4, 7, 6, 1, 5, 15, 11, 9, 14, 3, 12, 13, 0]]

/-- The words that are mixed with each other in a round. -/
def quarters : List (Nat × Nat × Nat × Nat) :=
  [(0, 4, 8, 12), (1, 5, 9, 13), (2, 6, 10, 14), (3, 7, 11, 15), (0, 5, 10, 15), (1, 6, 11, 12), (2, 7, 8, 13),
    (3, 4, 9, 14)]

/-- Mixes four words with two of the block. -/
def mixed (v : Array Nat) (q : Nat × Nat × Nat × Nat) (x y : Nat) : Array Nat :=
  let (a, b, c, d) := q
  let at_ (v : Array Nat) (i : Nat) : Nat := v.getD i 0
  let half (v : Array Nat) (x first second : Nat) : Array Nat :=
    let v := v.setIfInBounds a ((at_ v a + at_ v b + x) % 2 ^ 64)
    let v := v.setIfInBounds d (rotateDown 64 first (at_ v d ^^^ at_ v a))
    let v := v.setIfInBounds c ((at_ v c + at_ v d) % 2 ^ 64)
    v.setIfInBounds b (rotateDown 64 second (at_ v b ^^^ at_ v c))
  half (half v x 32 24) y 16 63

/-- Takes in one block, up to the end of which there are so many bytes. -/
def absorbMixed (state : List Nat) (block : List UInt8) (count : Nat) (isLast : Bool) : List Nat :=
  let words := ((blocks 8 block).map fun bs => ofBigEndian bs.reverse).toArray
  let end_ := [count, 0, if isLast then 2 ^ 64 - 1 else 0, 0]
  let lower := (sha512.start.zip ([0, 0, 0, 0] ++ end_)).map fun (x, y) => x ^^^ y
  let round (v : Array Nat) (r : Nat) : Array Nat :=
    let order := orders.getD (r % 10) #[]
    quarters.zipIdx.foldl (fun v (q, i) =>
      mixed v q (words.getD (order.getD (2 * i) 0) 0) (words.getD (order.getD (2 * i + 1) 0) 0)) v
  let v := ((List.range 12).foldl round (state ++ lower).toArray).toList
  (state.zip (v.zip (v.drop 8))).map fun (s, x, y) => s ^^^ x ^^^ y

/-- The digest of so many bytes by BLAKE2b. -/
def blake2b (size : Nat) (message : List UInt8) : List UInt8 :=
  let count := max 1 ((message.length + 127) / 128)
  let filled := message ++ List.replicate (count * 128 - message.length) 0
  let start := (sha512.start.zip ((0x01010000 + size) :: List.replicate 7 0)).map fun (x, y) => x ^^^ y
  let state := (blocks 128 filled).zipIdx.foldl (fun s (b, i) =>
    absorbMixed s b (min message.length ((i + 1) * 128)) (i + 1 == count)) start
  (state.flatMap (littleEndian 8)).take size

/-! ## Sums -/

/-- The remainder of a message, its length behind it, by the polynomial of the cyclic code. -/
def cyclic (message : List UInt8) : Nat :=
  let rec lengthBytes : (fuel : Nat) → Nat → List UInt8
    | 0, _ => []
    | fuel + 1, n => if n = 0 then [] else n.toUInt8 :: lengthBytes fuel (n / 256)
  let shift (r : UInt32) : UInt32 := if r &&& 0x80000000 ≠ 0 then (r <<< 1) ^^^ 0x04c11db7 else r <<< 1
  let add (r : UInt32) (b : UInt8) : UInt32 :=
    (List.range 8).foldl (fun r _ => shift r) (r ^^^ (b.toUInt32 <<< 24))
  ((message ++ lengthBytes 9 message.length).foldl add 0 ^^^ 0xffffffff).toNat

/-- The sum of bytes that is rotated before each. -/
def rotatedSum (message : List UInt8) : Nat :=
  message.foldl (fun sum b => (rotateDown 16 1 sum + b.toNat) % 65536) 0

/-- The sum of bytes, with what goes beyond 16 digits added to it. -/
def foldedSum (message : List UInt8) : Nat :=
  let sum := (message.foldl (fun n b => n + b.toNat) 0) % 2 ^ 32
  let sum := sum % 65536 + sum / 65536
  sum % 65536 + sum / 65536

end AddonAtlas.Checksum
