/-!
# Base 64

Bytes written as characters of six bits each, four for three bytes. Characters without a meaning are
passed over; the text ends with padding, or where a group of four does.
-/

namespace AddonAtlas.Text

/-- The six bits of a character. -/
def sixBits? (c : Char) : Option Nat :=
  if 'A' ≤ c ∧ c ≤ 'Z' then some (c.toNat - 65)
  else if 'a' ≤ c ∧ c ≤ 'z' then some (c.toNat - 71)
  else if '0' ≤ c ∧ c ≤ '9' then some (c.toNat + 4)
  else if c = '+' then some 62
  else if c = '/' then some 63
  else none

/-- Reads characters onto the bytes before, the last one first. `place` characters of the current
group were read, `left` holds their bits that are in no byte yet, and `pads` signs of padding
followed. -/
def base64Onto (bytes : List UInt8) (place left pads : Nat) : List Char → Option (List UInt8)
  | [] => if place = 0 then some bytes.reverse else none
  | c :: rest =>
    if c = '=' then
      if place < 2 then base64Onto bytes place left pads rest
      else if 4 ≤ place + (pads + 1) then some bytes.reverse
      else base64Onto bytes place left (pads + 1) rest
    else
      match sixBits? c with
      | none => base64Onto bytes place left pads rest
      | some n =>
        match place with
        | 0 => base64Onto bytes 1 n 0 rest
        | 1 => base64Onto ((left * 4 + n / 16).toUInt8 :: bytes) 2 (n % 16) 0 rest
        | 2 => base64Onto ((left * 16 + n / 4).toUInt8 :: bytes) 3 (n % 4) 0 rest
        | _ => base64Onto ((left * 64 + n).toUInt8 :: bytes) 0 0 0 rest

/-- The bytes a text stands for. -/
def base64? (text : String) : Option (List UInt8) :=
  base64Onto [] 0 0 0 text.toList

/-! ## Writing -/

/-- The character of six bits. -/
def ofSixBits (n : Nat) : Char :=
  if n < 26 then Char.ofNat (65 + n)
  else if n < 52 then Char.ofNat (71 + n)
  else if n < 62 then Char.ofNat (n - 4)
  else if n = 62 then '+'
  else '/'

/-- The characters for bytes, padded to groups of four. -/
def base64 : List UInt8 → List Char
  | [] => []
  | [a] => [ofSixBits (a.toNat / 4), ofSixBits (a.toNat % 4 * 16), '=', '=']
  | [a, b] =>
    [ofSixBits (a.toNat / 4), ofSixBits (a.toNat % 4 * 16 + b.toNat / 16), ofSixBits (b.toNat % 16 * 4), '=']
  | a :: b :: c :: rest =>
    ofSixBits (a.toNat / 4) :: ofSixBits (a.toNat % 4 * 16 + b.toNat / 16) ::
      ofSixBits (b.toNat % 16 * 4 + c.toNat / 64) :: ofSixBits (c.toNat % 64) :: base64 rest

/-! ## Strict reading -/

/-- The bytes of a text in which nothing but groups of four stands, up to the first one that is none; and
whether that is all of it. -/
def decodedBase64 : List Char → List UInt8 × Bool
  | [] => ([], true)
  | a :: b :: c :: d :: rest =>
    match sixBits? a, sixBits? b, sixBits? c, sixBits? d with
    | some w, some x, some y, some z =>
      let (more, isWhole) := decodedBase64 rest
      ((w * 4 + x / 16).toUInt8 :: (x % 16 * 16 + y / 4).toUInt8 :: (y % 4 * 64 + z).toUInt8 :: more, isWhole)
    | some w, some x, some y, none =>
      let first := [(w * 4 + x / 16).toUInt8, (x % 16 * 16 + y / 4).toUInt8]
      if d = '=' then
        let (more, isWhole) := decodedBase64 rest
        (first ++ more, isWhole)
      else (first, false)
    | some w, some x, none, none =>
      let first := [(w * 4 + x / 16).toUInt8]
      if c = '=' && d = '=' then
        let (more, isWhole) := decodedBase64 rest
        (first ++ more, isWhole)
      else (first, false)
    | some w, some x, none, some _ => ([(w * 4 + x / 16).toUInt8], false)
    | _, _, _, _ => ([], false)
  | [a, b, c] =>
    match sixBits? a, sixBits? b, sixBits? c with
    | some w, some x, some y => ([(w * 4 + x / 16).toUInt8, (x % 16 * 16 + y / 4).toUInt8], false)
    | some w, some x, none => ([(w * 4 + x / 16).toUInt8], false)
    | _, _, _ => ([], false)
  | [a, b] =>
    match sixBits? a, sixBits? b with
    | some w, some x => ([(w * 4 + x / 16).toUInt8], false)
    | _, _ => ([], false)
  | [_] => ([], false)

end AddonAtlas.Text
