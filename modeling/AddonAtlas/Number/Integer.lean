import AddonAtlas.Text.Character
import AddonAtlas.Text.Quoted

/-!
# Reading integers

An integer is written with an optional sign and decimal digits of any script, white space around it,
and single underscores between digits. At most `maxDigits` digits are read. In base two, eight and
sixteen there may be a mark of the base, and no underscores.
-/

namespace AddonAtlas.Number

open AddonAtlas.Text

/-- The most digits an integer may be written with. -/
def maxDigits : Nat := 4300

/-- Why a text is not read as an integer. -/
inductive IntegerFault
  | malformed (base : Nat) (text : String)
  | tooManyDigits (count : Nat)
deriving DecidableEq, Repr

namespace IntegerFault

/-- The text in question is shown quoted, and cut after two hundred characters. -/
def message : IntegerFault → String
  | malformed base text =>
    "invalid literal for int() with base " ++ toString base ++ ": " ++
      String.ofList ((quoted text).toList.take 200)
  | tooManyDigits count =>
    "Exceeds the limit (" ++ toString maxDigits ++ " digits) for integer string conversion: " ++
      "value has " ++ toString count ++
      " digits; use sys.set_int_max_str_digits() to increase the limit"

end IntegerFault

/-- The value of a sequence of decimal digits. -/
def ofDigits (ds : List Nat) : Nat :=
  ds.foldl (fun n d => 10 * n + d) 0

/-- Reads digits with single underscores between them, and returns the digits and what follows
them. `fresh` says that a digit has to come next: at the start and after an underscore. -/
def digitRun (fresh : Bool) (acc : List Nat) : List Char → Option (List Nat × List Char)
  | [] => if fresh then none else some (acc.reverse, [])
  | c :: rest =>
    match digitValue? c with
    | some d => digitRun false (d :: acc) rest
    | none =>
      if fresh then none
      else if c = '_' then digitRun true acc rest
      else some (acc.reverse, c :: rest)

/-- A sign, if there is one, and what follows it; `true` for minus. -/
def splitSign : List Char → Bool × List Char
  | '-' :: rest => (true, rest)
  | '+' :: rest => (false, rest)
  | cs => (false, cs)

/-- The integer a text stands for. -/
def readInteger (text : String) : Except IntegerFault Int :=
  let (negative, body) := splitSign (text.toList.dropWhile isNumeralSpace)
  match digitRun true [] body with
  | none => .error (.malformed 10 text)
  | some (ds, rest) =>
    if maxDigits < ds.length then .error (.tooManyDigits ds.length)
    else if rest.all isNumeralSpace then
      .ok (if negative then -(ofDigits ds : Int) else ofDigits ds)
    else .error (.malformed 10 text)

/-! ## Other bases -/

/-- The value of a character as a digit of any base. -/
def radixDigit? (c : Char) : Option Nat :=
  if '0' ≤ c ∧ c ≤ '9' then some (c.toNat - 48)
  else if 'a' ≤ c ∧ c ≤ 'z' then some (c.toNat - 87)
  else if 'A' ≤ c ∧ c ≤ 'Z' then some (c.toNat - 55)
  else none

/-- The letter behind a zero that marks a base. -/
def radixMark (base : Nat) : Char :=
  if base = 2 then 'b' else if base = 8 then 'o' else 'x'

/-- What stands behind the mark of a base, if the mark is there. -/
def dropRadixMark (base : Nat) : List Char → List Char
  | '0' :: m :: rest => if m = radixMark base ∨ m = (radixMark base).toUpper then rest else '0' :: m :: rest
  | cs => cs

/-- The integer a text stands for in a base. -/
def readInBase (base : Nat) (text : String) : Except IntegerFault Int :=
  let (negative, body) := splitSign (plainDigits (trim isNumeralSpace text.toList))
  let digits := (dropRadixMark base body).map radixDigit?
  if digits.isEmpty || !(digits.all fun d => d.any (· < base)) then .error (.malformed base text)
  else
    let n := digits.foldl (fun n d => base * n + d.getD 0) 0
    .ok (if negative then -(n : Int) else n)

end AddonAtlas.Number
