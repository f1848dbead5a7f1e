import AddonAtlas.Bytes

/-!
# Reading by buffers

A long file is searched buffer by buffer. What is not done with yet, such as a line that does not end in the
buffer, is carried over and stands in front of what is read next. Reads begin where a page of memory does
and are of whole pages; a buffer that would not have room for a page more becomes larger by half.
-/

namespace AddonAtlas

/-- A buffer, by the number of its bytes. -/
structure ReadBuffer where
  capacity : Nat
deriving DecidableEq, Repr

namespace ReadBuffer

def page : Nat := 4096

/-- The bytes at the end of a buffer that are never read into. -/
def guard : Nat := 8

/-- Where the first page of memory begins in a buffer. -/
def firstPage : Nat := page - 16

def initial : ReadBuffer := ⟨25 * page + guard⟩

/-- The buffer for the next read. `kept` bytes are carried over, and the file has `unread` more. -/
def enlarged (b : ReadBuffer) (kept unread : Nat) : ReadBuffer :=
  let missing := kept + page + (page + guard) - b.capacity
  if missing = 0 then b
  else
    let enough := b.capacity + missing
    let most := max (unread + kept + page + guard) enough
    ⟨max (min (b.capacity + b.capacity / 2) most) enough⟩

/-- How many bytes are read behind those that are carried over. -/
def room (b : ReadBuffer) (kept : Nat) : Nat :=
  let place := firstPage + (kept + 1 - firstPage + (page - 1)) / page * page
  (b.capacity - guard - place) / page * page

end ReadBuffer

namespace Bytes

/-- The end of the last line that ends in front of an index. -/
def lineEndBefore (b : Bytes) (ending : UInt8) : (i : Nat) → Nat
  | 0 => 0
  | i + 1 => if b.get? i == some ending then i + 1 else lineEndBefore b ending i

/-- The bytes from an index up to another. -/
def slice (b : Bytes) (i j : Nat) : Bytes :=
  (b.take j).drop i

/-- The lines that are searched in a file before the buffer that holds the first NUL. `done` bytes were read,
and the lines up to `searched` were searched. -/
def beforeNulFrom (b : Bytes) : (fuel : Nat) → ReadBuffer → (done searched : Nat) → Bytes
  | 0, _, _, _ => b
  | fuel + 1, buffer, done, searched =>
    let kept := done - searched
    let buffer := buffer.enlarged kept (b.size - done)
    let next := min (done + buffer.room kept) b.size
    if next ≤ done then b
    else if (b.slice done next).contains 0 then b.take searched
    else beforeNulFrom b fuel buffer next (b.lineEndBefore newline next)

/-- The part of a file that is searched: all of it, or the lines in front of the buffer with a NUL. -/
def beforeNul (b : Bytes) : Bytes :=
  if b.contains 0 then b.beforeNulFrom (b.size / ReadBuffer.page + 2) .initial 0 0 else b

end Bytes

end AddonAtlas
