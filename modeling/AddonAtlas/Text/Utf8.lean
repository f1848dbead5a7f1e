import AddonAtlas.Bytes

/-!
# UTF-8

Bytes are read unit by unit. A unit is one well-formed character, or the longest run of bytes that
begins a well-formed character and does not finish it (at least one byte). `Utf8.decode` puts one
replacement character for each malformed unit; `Utf8.decode?` refuses the first of them and says
where it is and what is wrong with it.
-/

namespace AddonAtlas.Utf8

/-- What keeps a unit from being a character. -/
inductive Fault
  /-- No character starts with this byte. -/
  | startByte
  /-- A byte that had to continue the character does not. -/
  | continuationByte
  /-- The bytes end inside the character. -/
  | endOfData
deriving DecidableEq, Repr

/-- One unit: a character, or a malformed run of bytes, with the number of bytes it takes. -/
inductive Unit
  | char (c : Char) (length : Nat)
  | malformed (fault : Fault) (length : Nat)
deriving DecidableEq, Repr

namespace Unit

def length : Unit → Nat
  | char _ n => n
  | malformed _ n => n

/-- The character a reader shows for a unit. -/
def shown : Unit → Char
  | char c _ => c
  | malformed _ _ => '\uFFFD'

end Unit

/-- What a first byte above 127 announces. -/
structure Lead where
  /-- The bits of the code point that the first byte holds. -/
  bits : Nat
  /-- The number of bytes to follow. -/
  needed : Nat
  /-- The least second byte. -/
  low : UInt8
  /-- The greatest second byte. -/
  high : UInt8

/-- The first bytes of characters of two to four bytes. The narrowed second bytes shut out longer
spellings than needed, surrogates, and code points above the last one. -/
def lead? (b : UInt8) : Option Lead :=
  if b < 0xC2 then none
  else if b < 0xE0 then some ⟨b.toNat - 0xC0, 1, 0x80, 0xBF⟩
  else if b == 0xE0 then some ⟨0, 2, 0xA0, 0xBF⟩
  else if b == 0xED then some ⟨0xD, 2, 0x80, 0x9F⟩
  else if b < 0xF0 then some ⟨b.toNat - 0xE0, 2, 0x80, 0xBF⟩
  else if b == 0xF0 then some ⟨0, 3, 0x90, 0xBF⟩
  else if b < 0xF4 then some ⟨b.toNat - 0xF0, 3, 0x80, 0xBF⟩
  else if b == 0xF4 then some ⟨4, 3, 0x80, 0x8F⟩
  else none

/-- Reads `needed` more bytes onto the bits read so far; `used` bytes were read before them, and
only the next byte is held to the bounds `low` and `high`. -/
def continueUnit (bits : Nat) : (needed : Nat) → (low high : UInt8) → (used : Nat) →
    List UInt8 → Unit
  | 0, _, _, used, _ => .char (Char.ofNat bits) used
  | _ + 1, _, _, used, [] => .malformed .endOfData used
  | needed + 1, low, high, used, b :: rest =>
    if low ≤ b ∧ b ≤ high then
      continueUnit (bits * 64 + (b.toNat - 0x80)) needed 0x80 0xBF (used + 1) rest
    else .malformed .continuationByte used

/-- The unit that starts with the byte `b`, followed by `rest`. -/
def readUnit (b : UInt8) (rest : List UInt8) : Unit :=
  if b < 0x80 then .char (Char.ofNat b.toNat) 1
  else
    match lead? b with
    | none => .malformed .startByte 1
    | some l => continueUnit l.bits l.needed l.low l.high 1 rest

/-- The units of a byte sequence, before those already read (in reverse). -/
def unitsOnto (acc : List Unit) : List UInt8 → List Unit
  | [] => acc.reverse
  | b :: rest =>
    unitsOnto (readUnit b rest :: acc) (rest.drop ((readUnit b rest).length - 1))
termination_by bytes => bytes.length
decreasing_by simp only [List.length_drop, List.length_cons]; omega

/-- The units of a byte sequence. -/
def units (bytes : List UInt8) : List Unit :=
  unitsOnto [] bytes

/-- The text of a byte sequence, with one replacement character for each malformed unit. -/
def decode (bytes : List UInt8) : List Char :=
  (units bytes).map Unit.shown

/-- Where and why a byte sequence is not UTF-8. -/
structure DecodeError where
  /-- Index of the first byte of the malformed unit. -/
  position : Nat
  /-- The bytes of the unit. -/
  bytes : List UInt8
  fault : Fault
deriving DecidableEq, Repr

/-- The text of a byte sequence if all its units are characters. -/
def decode? (bytes : List UInt8) : Except DecodeError (List Char) :=
  go 0 [] (units bytes)
where
  /-- Collects the characters in reverse; `position` is the index of the next unit. -/
  go (position : Nat) (acc : List Char) : List Unit → Except DecodeError (List Char)
    | [] => .ok acc.reverse
    | .char c n :: rest => go (position + n) (c :: acc) rest
    | .malformed fault n :: _ => .error ⟨position, (bytes.drop position).take n, fault⟩

namespace Fault

def message : Fault → String
  | startByte => "invalid start byte"
  | continuationByte => "invalid continuation byte"
  | endOfData => "unexpected end of data"

end Fault

/-- Two hexadecimal digits. -/
def hexByte (b : UInt8) : String :=
  let digit (n : Nat) : Char := if n < 10 then Char.ofNat (48 + n) else Char.ofNat (87 + n)
  String.ofList [digit (b.toNat / 16), digit (b.toNat % 16)]

/-- One byte is named by its value, several by their range of positions. -/
def DecodeError.message (e : DecodeError) : String :=
  match e.bytes with
  | [b] =>
    "'utf-8' codec can't decode byte 0x" ++ hexByte b ++ " in position " ++ toString e.position ++
      ": " ++ e.fault.message
  | bs =>
    "'utf-8' codec can't decode bytes in position " ++ toString e.position ++ "-" ++
      toString (e.position + bs.length - 1) ++ ": " ++ e.fault.message

end AddonAtlas.Utf8

namespace AddonAtlas.Bytes

/-- The text of a span, with one replacement character for each malformed unit. -/
def decode (b : Bytes) : String :=
  String.ofList (Utf8.decode b.toList)

end AddonAtlas.Bytes
