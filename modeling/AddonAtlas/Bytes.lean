/-!
# Spans of bytes

A span is a contiguous part of a byte array. Cutting a span moves its two ends and copies nothing,
so an output of many megabytes can be taken apart line by line. `Bytes.toList` is the view through
which the operations are described.
-/

namespace AddonAtlas

/-- The bytes of `array` from index `start` up to, not including, index `stop`. -/
structure Bytes where
  /-- The array that holds the bytes. -/
  array : ByteArray
  /-- Index of the first byte. -/
  start : Nat
  /-- Index after the last byte. -/
  stop : Nat
  start_le_stop : start ≤ stop := by omega
  stop_le_size : stop ≤ array.size := by omega

namespace Bytes

/-- The byte that ends a line. -/
def newline : UInt8 := 10

/-- A copy of the span in an array of its own. -/
def toByteArray (b : Bytes) : ByteArray :=
  b.array.extract b.start b.stop

/-- The bytes of a span as a list. -/
def toList (b : Bytes) : List UInt8 :=
  b.toByteArray.data.toList

theorem toList_eq (b : Bytes) :
    b.toList = (b.array.data.toList.drop b.start).take (b.stop - b.start) := by
  simp [toList, toByteArray, List.extract_eq_take_drop]

/-- All of an array. -/
def ofByteArray (a : ByteArray) : Bytes where
  array := a
  start := 0
  stop := a.size
  start_le_stop := Nat.zero_le _
  stop_le_size := Nat.le_refl _

def ofList (l : List UInt8) : Bytes :=
  ofByteArray ⟨l.toArray⟩

/-- The UTF-8 encoding of a text. -/
def ofString (s : String) : Bytes :=
  ofByteArray s.toUTF8

def empty : Bytes :=
  ofByteArray ByteArray.empty

instance : Inhabited Bytes := ⟨empty⟩

instance : EmptyCollection Bytes := ⟨empty⟩

def size (b : Bytes) : Nat :=
  b.stop - b.start

def isEmpty (b : Bytes) : Bool :=
  b.start == b.stop

/-- The byte at an index of the span, `none` past its end. -/
def get? (b : Bytes) (i : Nat) : Option UInt8 :=
  if h : b.start + i < b.stop then
    some (b.array.get (b.start + i) (Nat.lt_of_lt_of_le h b.stop_le_size))
  else none

/-- The first `n` bytes, all of them if there are fewer. -/
def take (b : Bytes) (n : Nat) : Bytes where
  array := b.array
  start := b.start
  stop := min (b.start + n) b.stop
  start_le_stop := by have := b.start_le_stop; omega
  stop_le_size := by have := b.stop_le_size; omega

/-- What is left after the first `n` bytes. -/
def drop (b : Bytes) (n : Nat) : Bytes where
  array := b.array
  start := min (b.start + n) b.stop
  stop := b.stop
  start_le_stop := by omega
  stop_le_size := b.stop_le_size

/-- One span after the other. Nothing is copied when one of them is empty. -/
def append (a b : Bytes) : Bytes :=
  if a.isEmpty then b
  else if b.isEmpty then a
  else ofByteArray (a.toByteArray ++ b.toByteArray)

instance : Append Bytes := ⟨append⟩

/-- The spans of a list one after the other. -/
def concat (parts : List Bytes) : Bytes :=
  match parts with
  | [] => empty
  | [b] => b
  | _ => ofByteArray (parts.foldl (fun acc b => acc ++ b.toByteArray) ByteArray.empty)

/-- The index, at or after `i`, of the first byte that satisfies `p`. -/
def findIdxFrom? (b : Bytes) (p : UInt8 → Bool) (i : Nat) : Option Nat :=
  if h : b.start + i < b.stop then
    if p (b.array.get (b.start + i) (Nat.lt_of_lt_of_le h b.stop_le_size)) then some i
    else findIdxFrom? b p (i + 1)
  else none
termination_by b.stop - (b.start + i)

/-- The index of the first newline. -/
def newlineIdx? (b : Bytes) : Option Nat :=
  b.findIdxFrom? (· == newline) 0

def contains (b : Bytes) (c : UInt8) : Bool :=
  (b.findIdxFrom? (· == c) 0).isSome

theorem size_drop_lt (b : Bytes) (n : Nat) (hn : 0 < n) (hb : 0 < b.size) :
    (b.drop n).size < b.size := by
  simp only [size, drop] at *
  omega

/-- The lines of a span without their newlines. A last line without newline counts when it is not
empty. -/
def linesOnto (acc : List Bytes) (b : Bytes) : List Bytes :=
  if _h : 0 < b.size then
    match b.newlineIdx? with
    | some i => linesOnto (b.take i :: acc) (b.drop (i + 1))
    | none => (b :: acc).reverse
  else acc.reverse
termination_by b.size
decreasing_by exact size_drop_lt b _ (Nat.succ_pos _) (by assumption)

/-- The lines of a span without their newlines, in order. -/
def lines (b : Bytes) : List Bytes :=
  linesOnto [] b

/-- Equality of the bytes, wherever they are held. -/
instance : BEq Bytes := ⟨fun a b => a.toList == b.toList⟩

end Bytes

end AddonAtlas
