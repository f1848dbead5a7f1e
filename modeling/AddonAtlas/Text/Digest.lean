import AddonAtlas.Number.Instances

/-!
# Digests of bytes

A digest of 64 bits for bytes, by the keyed function SipHash with one round for each word and three at
the end, under the key zero; and a digest for digests that follow each other.
-/

namespace AddonAtlas.Text.Digest

/-- The four words that are mixed. -/
structure Mixer where
  a : UInt64
  b : UInt64
  c : UInt64
  d : UInt64

namespace Mixer

/-- The mixer under the key zero. -/
def start : Mixer :=
  ⟨0x736f6d6570736575, 0x646f72616e646f6d, 0x6c7967656e657261, 0x7465646279746573⟩

/-- A word with its digits moved up, those at the top coming in again at the bottom. -/
def rotate (x : UInt64) (count : UInt64) : UInt64 :=
  (x <<< count) ||| (x >>> (64 - count))

def round (m : Mixer) : Mixer :=
  let a := m.a + m.b
  let b := rotate m.b 13 ^^^ a
  let a := rotate a 32
  let c := m.c + m.d
  let d := rotate m.d 16 ^^^ c
  let a := a + d
  let d := rotate d 21 ^^^ a
  let c := c + b
  let b := rotate b 17 ^^^ c
  ⟨a, b, rotate c 32, d⟩

/-- Takes in a word. -/
def absorb (m : Mixer) (word : UInt64) : Mixer :=
  let m := round { m with d := m.d ^^^ word }
  { m with a := m.a ^^^ word }

/-- The digest of all words that were taken in. -/
def finish (m : Mixer) : UInt64 :=
  let m := round (round (round { m with c := m.c ^^^ 255 }))
  m.a ^^^ m.b ^^^ m.c ^^^ m.d

end Mixer

/-- The word whose lowest byte comes first. -/
def word (bs : List UInt8) : UInt64 :=
  bs.foldr (fun b n => n * 256 + b.toUInt64) 0

/-- Takes in the words of bytes; the last one is filled up with the bytes' number. -/
def absorbAll (size : Nat) (m : Mixer) : List UInt8 → Mixer
  | b₀ :: b₁ :: b₂ :: b₃ :: b₄ :: b₅ :: b₆ :: b₇ :: rest =>
    absorbAll size (m.absorb (word [b₀, b₁, b₂, b₃, b₄, b₅, b₆, b₇])) rest
  | rest => m.absorb (word rest ||| size.toUInt64 <<< 56)

/-- The digest of bytes; that of none is zero. -/
def ofBytes (bs : List UInt8) : UInt64 :=
  if bs.isEmpty then 0 else (absorbAll bs.length .start bs).finish

/-- The bytes of a number, the lowest one first. -/
def littleEndian (width n : Nat) : List UInt8 :=
  (List.range width).map fun i => (n / 256 ^ i).toUInt8

/-- How many bytes each character of a text takes in memory: as many as the widest of them needs. -/
def width (cs : List Char) : Nat :=
  if cs.all (·.toNat < 256) then 1 else if cs.all (·.toNat < 65536) then 2 else 4

/-- The digest of a text in memory. -/
def ofText (s : String) : UInt64 :=
  let cs := s.toList
  ofBytes (cs.flatMap fun c => littleEndian (width cs) c.toNat)

/-- The digest of digests that follow each other, by the function xxHash with lanes of 64 bits. -/
def ofList (lanes : List UInt64) : UInt64 :=
  let step (acc lane : UInt64) : UInt64 :=
    Mixer.rotate (acc + lane * 14029467366897019727) 31 * 11400714785074694791
  let acc := lanes.foldl step 2870177450012600261
  let acc := acc + (lanes.length.toUInt64 ^^^ (2870177450012600261 ^^^ 3527539))
  if acc = 0xffffffffffffffff then 1546275796 else acc

end AddonAtlas.Text.Digest
