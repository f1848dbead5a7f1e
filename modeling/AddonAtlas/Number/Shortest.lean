import AddonAtlas.Number.Binary64
import AddonAtlas.Text.Character

/-!
# The shortest decimal text of a number

A finite number is written with the fewest digits that read back as it, and among those with the
digits nearest to it. The text is positional where the decimal point falls not far from the digits,
and has an exponent otherwise.
-/

namespace AddonAtlas.Number

open AddonAtlas.Text

/-- The value `digits * 10 ^ exponent`. -/
structure Decimal where
  digits : Nat
  exponent : Int
deriving DecidableEq, Repr

namespace Binary64

/-- The exponent `p` with `10 ^ (p - 1) ≤ num / den < 10 ^ p`, for the values numbers have. -/
def decimalOrder (num den : Nat) : Int :=
  (toString (num * 10 ^ 400 / den)).length - 400

/-- Of the two multiples of `10 ^ exponent` around `num / den`, the one that reads back as `target`;
if both do, the nearer, and of equally near ones the even. -/
def gridPoint? (target : Binary64) (num den : Nat) (exponent : Int) : Option Decimal :=
  let (a, b) := scaled den 10 exponent
  let below := num * b / a
  let rest := num * b % a
  let reads (d : Nat) : Bool := ofDecimal false d exponent == target
  match reads below, reads (below + 1) with
  | true, true =>
    let lower := 2 * rest < a || (2 * rest == a && below % 2 == 0)
    some ⟨if lower then below else below + 1, exponent⟩
  | true, false => some ⟨below, exponent⟩
  | false, true => some ⟨below + 1, exponent⟩
  | false, false => none

/-- The first hit on the grids of `count`, `count + 1`, … digits. -/
def shortestFrom (target : Binary64) (num den : Nat) (order : Int) (count : Nat) :
    (tries : Nat) → Decimal
  | 0 => ⟨roundDiv num den, 0⟩
  | tries + 1 =>
    match gridPoint? target num den (order - count) with
    | some d => d
    | none => shortestFrom target num den order (count + 1) tries

/-- The shortest decimal that reads back as the positive number `m * 2 ^ e`. -/
def shortest (m : Nat) (e : Int) : Decimal :=
  let (num, den) := scaled m 2 e
  shortestFrom (finite false m e) num den (decimalOrder num den) 1 17

/-- How a decimal is laid out. -/
structure Layout where
  /-- Positional from this place of the decimal point on, counted from the first digit. -/
  firstPlace : Int
  /-- Positional up to this place of the decimal point. -/
  lastPlace : Int
  /-- The least number of digits of an exponent. -/
  exponentWidth : Nat

/-- Positional from `0.0001` to below `10 ^ 16`; an exponent has at least two digits. -/
def layout : Layout :=
  ⟨-3, 16, 2⟩

/-- The text of a decimal. A whole number ends in `.0`. -/
def Layout.render (l : Layout) (d : Decimal) : String :=
  let all := decimalDigits d.digits
  let place : Int := all.length + d.exponent
  let digits := (all.reverse.dropWhile (· == '0')).reverse
  let chars :=
    if l.firstPlace ≤ place ∧ place ≤ l.lastPlace then
      if place ≤ 0 then '0' :: '.' :: (List.replicate (-place).toNat '0' ++ digits)
      else
        let n := place.toNat
        if digits.length ≤ n then digits ++ List.replicate (n - digits.length) '0' ++ ['.', '0']
        else digits.take n ++ '.' :: digits.drop n
    else
      let e := place - 1
      let eDigits := decimalDigits e.natAbs
      digits.take 1 ++ (if digits.length ≤ 1 then [] else '.' :: digits.drop 1) ++
        'e' :: (if e < 0 then '-' else '+') ::
        (List.replicate (l.exponentWidth - eDigits.length) '0' ++ eDigits)
  String.ofList chars

/-- The text of a number. -/
def text : Binary64 → String
  | nan => "nan"
  | infinite s => if s then "-inf" else "inf"
  | finite s m e =>
    let body := if m = 0 then "0.0" else layout.render (shortest m e)
    if s then "-" ++ body else body

end Binary64

end AddonAtlas.Number
