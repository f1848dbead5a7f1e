import AddonAtlas.Text.Digest
import AddonAtlas.Value

/-!
# The order of a set's members

A set keeps its members in a table of places, and shows them in the order of their places. A member's
place follows from its residue, which is the same for members that are equal, and from the places that
are taken when it comes. The residue of a number is that for the prime `2 ^ 61 - 1`, and the residue of a
text, of bytes or of a moment is a digest. Null and what is not a number have no residue; sets with such
members keep the order in which they came.
-/

namespace AddonAtlas.Value

open AddonAtlas.Number
open AddonAtlas.Text (Digest.ofBytes Digest.ofText Digest.ofList Digest.littleEndian)

def residuePrime : Nat := 2 ^ 61 - 1

/-- The residue with a sign. No number has the residue -1. -/
def signedResidue (negative : Bool) (n : Nat) : Int :=
  let r := Binary64.signed negative (n % residuePrime)
  if r = -1 then -2 else r

/-- A digest as a residue. -/
def digestResidue (d : UInt64) : Int :=
  let r := d.toInt64.toInt
  if r = -1 then -2 else r

/-- The bytes of a date: the higher part of its year first. -/
def dateBytes (d : Calendar.Date) : List UInt8 :=
  (Digest.littleEndian 2 d.year).reverse ++ [d.month.toUInt8, d.day.toUInt8]

/-- The digest of a moment. One with an offset has that of the days, seconds and millionths until it, by
universal time. -/
def momentDigest (t : Calendar.Moment) : UInt64 :=
  match t.offset with
  | none =>
    Digest.ofBytes (dateBytes t.date ++ [t.hour.toUInt8, t.minute.toUInt8, t.second.toUInt8] ++
      (Digest.littleEndian 3 t.micro).reverse)
  | some minutes =>
    let micros := ((t.micros : Int) - 60000000 * minutes).toNat
    let seconds := micros / 1000000
    Digest.ofList [(seconds / 86400).toUInt64, (seconds % 86400).toUInt64, (micros % 1000000).toUInt64]

/-- The residue of a member. A power of two has that of its exponent reduced by 61. -/
def residue? : Value → Option Int
  | bool b => some (if b then 1 else 0)
  | int n => some (signedResidue (n < 0) n.natAbs)
  | real (.infinite negative) => some (Binary64.signed negative 314159)
  | real (.finite negative m e) => some (signedResidue negative (m * 2 ^ (e % 61).toNat))
  | text s => some (digestResidue (Digest.ofText s))
  | bytes bs => some (digestResidue (Digest.ofBytes bs))
  | date d => some (digestResidue (Digest.ofBytes (dateBytes d)))
  | moment t => some (digestResidue (momentDigest t))
  | _ => none

/-- The number of places for some members: a power of two, more than twice their number if there are
more than four. -/
def placeCount (members : Nat) : Nat :=
  if members < 5 then 8 else 2 ^ ((2 * members).log2 + 1)

/-- The places that are looked at from one on, before the next jump. -/
def neighbours (places i : Nat) : List Nat :=
  if i + 9 < places then (List.range 10).map (i + ·) else [i]

/-- The first free place for a residue: after each place's neighbours, a jump is made that depends on
ever fewer of the residue's digits. -/
def freePlace (table : Array (Option Value)) : (fuel : Nat) → (digits i : Nat) → Nat
  | 0, _, i => i
  | fuel + 1, digits, i =>
    match (neighbours table.size i).find? fun j => (table.getD j none).isNone with
    | some j => j
    | none => freePlace table fuel (digits / 32) ((5 * i + 1 + digits / 32) % table.size)

def place (table : Array (Option Value)) (v : Value) (residue : Int) : Array (Option Value) :=
  let digits := (residue % 2 ^ 64).toNat
  table.setIfInBounds (freePlace table (table.size + 16) digits (digits % table.size)) (some v)

/-- The members of a set in their order. -/
def setOrder (members : List Value) : List Value :=
  match members.mapM fun v => v.residue?.map (v, ·) with
  | none => members
  | some numbers =>
    let table := Array.replicate (placeCount members.length) none
    (numbers.foldl (fun table (v, r) => place table v r) table).toList.filterMap id

end AddonAtlas.Value
