/-!
# Kinds of characters

Two classes of white space are in use. Texts are trimmed of `isSpace`, the class of Unicode with the
four separators of information below the space. Around a number, and only there, those four do not
count: `isNumeralSpace`.

Every script's decimal digits stand in a run of ten, from zero to nine (Unicode 14.0, category
`Nd`). A digit's value is its distance from the zero of its run.

A code point between U+D800 and U+DFFF is half of a character, and no text should have it alone. Where a
text has one all the same, the private character as far above U+100000 stands for it.
-/

namespace AddonAtlas.Text

/-! ## White space -/

/-- White space around a number. -/
def isNumeralSpace (c : Char) : Bool :=
  let n := c.toNat
  (9 ≤ n && n ≤ 13) || n == 0x20 || n == 0x85 || n == 0xA0 || n == 0x1680 ||
    (0x2000 ≤ n && n ≤ 0x200A) || n == 0x2028 || n == 0x2029 || n == 0x202F || n == 0x205F ||
    n == 0x3000

/-- White space at the ends of a text. -/
def isSpace (c : Char) : Bool :=
  isNumeralSpace c || (0x1C ≤ c.toNat && c.toNat ≤ 0x1F)

/-- The list without the members satisfying `p` at its end. -/
def dropEndWhile {α : Type} (p : α → Bool) (l : List α) : List α :=
  (l.reverse.dropWhile p).reverse

/-- The list without the members satisfying `p` at both ends. -/
def trim {α : Type} (p : α → Bool) (l : List α) : List α :=
  dropEndWhile p (l.dropWhile p)

/-- A text without the white space at its ends. -/
def strip (s : String) : String :=
  String.ofList (trim isSpace s.toList)

theorem isSpace_of_isWhitespace {c : Char} (h : c.isWhitespace = true) : isSpace c = true := by
  simp only [Char.isWhitespace, Bool.or_eq_true, decide_eq_true_eq] at h
  rcases h with ((rfl | rfl) | rfl) | rfl <;> decide

/-! ## Decimal digits -/

/-- The code points of the digits zero, in order. -/
def digitZeros : List Nat := [
  0x30, 0x660, 0x6F0, 0x7C0, 0x966, 0x9E6, 0xA66, 0xAE6, 0xB66, 0xBE6, 0xC66, 0xCE6, 0xD66, 0xDE6,
  0xE50, 0xED0, 0xF20, 0x1040, 0x1090, 0x17E0, 0x1810, 0x1946, 0x19D0, 0x1A80, 0x1A90, 0x1B50,
  0x1BB0, 0x1C40, 0x1C50, 0xA620, 0xA8D0, 0xA900, 0xA9D0, 0xA9F0, 0xAA50, 0xABF0, 0xFF10, 0x104A0,
  0x10D30, 0x11066, 0x110F0, 0x11136, 0x111D0, 0x112F0, 0x11450, 0x114D0, 0x11650, 0x116C0,
  0x11730, 0x118E0, 0x11950, 0x11C50, 0x11D50, 0x11DA0, 0x16A60, 0x16AC0, 0x16B50, 0x1D7CE,
  0x1D7D8, 0x1D7E2, 0x1D7EC, 0x1D7F6, 0x1E140, 0x1E2F0, 0x1E950, 0x1FBF0]

/-- The value of a decimal digit of any script. -/
def digitValue? (c : Char) : Option Nat :=
  (digitZeros.find? fun z => z ≤ c.toNat && c.toNat < z + 10).map (c.toNat - ·)

/-- The ASCII digit of a value below ten. -/
def digitChar (n : Nat) : Char :=
  Char.ofNat (48 + n)

/-- A text in which digits of every script are ASCII digits. -/
def plainDigits (cs : List Char) : List Char :=
  cs.map fun c => (digitValue? c).elim c digitChar

/-- The decimal digits of a number, most significant first. -/
def decimalDigits (n : Nat) : List Char :=
  (toString n).toList

/-! ## Surrogates -/

/-- The distance between a surrogate and the character that stands for it. -/
def surrogateShift : Nat := 0x100000

def isSurrogate (n : Nat) : Bool :=
  0xD800 ≤ n && n ≤ 0xDFFF

/-- The character of a code point, be it a surrogate. -/
def ofCodePoint (n : Nat) : Char :=
  if isSurrogate n then Char.ofNat (surrogateShift + n) else Char.ofNat n

/-- The surrogate that a character stands for. -/
def surrogate? (c : Char) : Option Nat :=
  if 0x10D800 ≤ c.toNat ∧ c.toNat ≤ 0x10DFFF then some (c.toNat - surrogateShift) else none

/-- The code point that a character stands for. -/
def codePoint (c : Char) : Nat :=
  (surrogate? c).getD c.toNat

/-- The surrogates of a text, those that follow each other together, with the place of the first one. -/
def surrogateRuns (s : String) : List (Nat × List Nat) :=
  go [] s.toList.zipIdx
where
  /-- Goes on with the runs found so far, and with what they hold, the last one first. -/
  go (found : List (Nat × List Nat)) : List (Char × Nat) → List (Nat × List Nat)
    | [] => (found.map fun (place, l) => (place, l.reverse)).reverse
    | (c, i) :: rest =>
      match surrogate? c, found with
      | none, _ => go found rest
      | some n, (place, l) :: others =>
        if place + l.length = i then go ((place, n :: l) :: others) rest else go ((i, [n]) :: found) rest
      | some n, [] => go [(i, [n])] rest

end AddonAtlas.Text
