import AddonAtlas.Number.Instances

/-!
# Binary floating-point numbers

Numbers of 53 binary digits, exact in integer arithmetic: a sign, a mantissa `m` and an exponent `e`
for the value `m * 2 ^ e`, the two infinities, and one value that is not a number. A finite number is
kept with `m < 2 ^ 53` and `-1074 ≤ e`, and with `2 ^ 52 ≤ m` unless `e = -1074`, so equal values are
equal terms. `ofDecimal` gives the number nearest to a decimal one.
-/

namespace AddonAtlas.Number

inductive Binary64
  | nan
  | infinite (negative : Bool)
  | finite (negative : Bool) (mantissa : Nat) (exponent : Int)
deriving DecidableEq, Repr

/-- The integer nearest to `num / den`; of two equally near the even one. -/
def roundDiv (num den : Nat) : Nat :=
  let q := num / den
  let r := num % den
  if 2 * r < den then q
  else if den < 2 * r then q + 1
  else if q % 2 = 0 then q
  else q + 1

/-- `x * base ^ e` as a numerator and a denominator. -/
def scaled (x base : Nat) (e : Int) : Nat × Nat :=
  match e with
  | .ofNat n => (x * base ^ n, 1)
  | .negSucc n => (x, base ^ (n + 1))

namespace Binary64

/-- The least exponent of a finite number. -/
def minExponent : Int := -1074

/-- The greatest exponent of a finite number. -/
def maxExponent : Int := 971

/-- Zero, with its sign. -/
def zero (negative : Bool) : Binary64 :=
  finite negative 0 minExponent

/-- The exponent `k` with `2 ^ k ≤ num / den < 2 ^ (k + 1)`, for positive `num` and `den`. -/
def binaryOrder (num den : Nat) : Int :=
  let k : Int := (num.log2 : Int) - (den.log2 : Int)
  let (a, b) := scaled den 2 k
  if a ≤ num * b then k else k - 1

/-- The number nearest to `num / den`, with ties to the even mantissa. -/
def ofRatio (negative : Bool) (num den : Nat) : Binary64 :=
  if num = 0 then zero negative
  else
    let e := max minExponent (binaryOrder num den - 52)
    let (a, b) := scaled den 2 e
    let m := roundDiv (num * b) a
    let (m, e) := if m = 2 ^ 53 then (2 ^ 52, e + 1) else (m, e)
    if maxExponent < e then infinite negative else finite negative m e

/-- About how many decimal digits a number has: a binary digit counts 0.30103, the logarithm of two. -/
def magnitude (n : Nat) : Nat :=
  n.log2 * 30103 / 100000

/-- The number nearest to `digits * 10 ^ exponent`. Far beyond the orders that any number reaches, the
result is zero or infinite without computing the power. -/
def ofDecimal (negative : Bool) (digits : Nat) (exponent : Int) : Binary64 :=
  if digits = 0 then zero negative
  else
    let order : Int := magnitude digits + exponent
    if 400 < order then infinite negative
    else if order < -400 then zero negative
    else
      let (num, den) := scaled digits 10 exponent
      ofRatio negative num den

/-- The number nearest to an integer. -/
def ofInt (n : Int) : Binary64 :=
  ofDecimal (n < 0) n.natAbs 0

/-- The number nearest to the sum of `a * 2 ^ d` and `b * 2 ^ e`. -/
def ofSum (a : Int) (d : Int) (b : Int) (e : Int) : Binary64 :=
  let low := min d e
  let n := a * 2 ^ (d - low).toNat + b * 2 ^ (e - low).toNat
  let (num, den) := scaled n.natAbs 2 low
  ofRatio (n < 0) num den

def signed (negative : Bool) (m : Nat) : Int :=
  if negative then -(m : Int) else m

def add : Binary64 → Binary64 → Binary64
  | nan, _ => nan
  | _, nan => nan
  | infinite s, infinite t => if s = t then infinite s else nan
  | infinite s, _ => infinite s
  | _, infinite t => infinite t
  | finite s m d, finite t n e => ofSum (signed s m) d (signed t n) e

/-- The product with a positive number. -/
def scale : Binary64 → Binary64 → Binary64
  | finite s m d, finite _ n e =>
    let (num, den) := scaled (m * n) 2 (d + e)
    ofRatio s num den
  | nan, _ => nan
  | infinite s, _ => infinite s
  | _, x => x

def neg : Binary64 → Binary64
  | nan => nan
  | infinite s => infinite (!s)
  | finite s m e => finite (!s) m e

/-- Whether a number is less than zero. The number that is none is not. -/
def isNegative : Binary64 → Bool
  | nan => false
  | infinite s => s
  | finite s m _ => s && m != 0

/-- Whether a number is less than another one: their difference keeps its sign when it is rounded. -/
def lt (x y : Binary64) : Bool :=
  (x.add y.neg).isNegative

def isZero : Binary64 → Bool
  | finite _ m _ => m == 0
  | _ => false

/-- The integer a number equals, if it is one. -/
def toInt? : Binary64 → Option Int
  | finite s m e =>
    let (num, den) := scaled m 2 e
    if num % den = 0 then some (if s then -((num / den : Nat) : Int) else (num / den : Nat)) else none
  | _ => none

end Binary64

end AddonAtlas.Number
