import AddonAtlas.Number.Binary64
import AddonAtlas.Number.Integer

/-!
# Reading real numbers

A real number is written with an optional sign, decimal digits of any script with an optional point,
and an optional exponent; or as one of the words for infinity and for what is not a number. White
space may stand around it and single underscores between digits.
-/

namespace AddonAtlas.Number

open AddonAtlas.Text

def isAsciiDigit (c : Char) : Bool :=
  '0' ≤ c && c ≤ '9'

/-- Removes the underscores of a text, each of which has to stand between two digits. -/
def dropUnderscores (previous : Option Char) : List Char → Option (List Char)
  | [] => if previous = some '_' then none else some []
  | c :: rest =>
    if c = '_' then
      if previous.any isAsciiDigit then dropUnderscores (some c) rest else none
    else if previous = some '_' ∧ ¬ isAsciiDigit c then none
    else (dropUnderscores (some c) rest).map (c :: ·)

/-- The values of leading ASCII digits, and what follows them. -/
def leadingDigits (cs : List Char) : List Nat × List Char :=
  ((cs.takeWhile isAsciiDigit).map (fun c => c.toNat - 48), cs.dropWhile isAsciiDigit)

/-- An exponent that takes up the whole text; nothing is the exponent zero. -/
def readExponent : List Char → Option Int
  | [] => some 0
  | c :: rest =>
    if c = 'e' ∨ c = 'E' then
      let (negative, body) := splitSign rest
      match leadingDigits body with
      | (d :: ds, []) =>
        let n : Int := ofDigits (d :: ds)
        some (if negative then -n else n)
      | _ => none
    else none

/-- How many digits of a number count one by one. -/
def maxSignificant : Nat := 800

/-- The first digits of a number from the first that is not zero on, and how many are left out. No number of
53 binary digits, and none halfway between two, has more than 767 digits, so of the others it matters only
whether one is not zero; if so, a one stands for them. -/
def significant (ds : List Nat) : List Nat × Nat :=
  let ds := ds.dropWhile (· == 0)
  let rest := ds.drop maxSignificant
  if rest.all (· == 0) then (ds.take maxSignificant, rest.length)
  else (ds.take maxSignificant ++ [1], rest.length - 1)

/-- Digits with an optional point, and an optional exponent. -/
def readDecimal (negative : Bool) (cs : List Char) : Option Binary64 :=
  let (whole, rest) := leadingDigits cs
  let (fraction, rest) :=
    match rest with
    | '.' :: after => leadingDigits after
    | _ => ([], rest)
  if whole.isEmpty && fraction.isEmpty then none
  else
    (readExponent rest).map fun e =>
      let (digits, dropped) := significant (whole ++ fraction)
      Binary64.ofDecimal negative (ofDigits digits) (e - fraction.length + dropped)

/-- A number without sign and white space. -/
def readUnsigned (negative : Bool) (cs : List Char) : Option Binary64 :=
  let word := String.ofList (cs.map Char.toLower)
  if word = "inf" ∨ word = "infinity" then some (.infinite negative)
  else if word = "nan" then some .nan
  else readDecimal negative cs

/-- The number a text stands for. -/
def readReal? (text : String) : Option Binary64 :=
  (dropUnderscores none (plainDigits (trim isNumeralSpace text.toList))).bind fun cs =>
    let (negative, body) := splitSign cs
    readUnsigned negative body

end AddonAtlas.Number
