import AddonAtlas.Shell.Format

/-!
# Values of programs that work on records

A value is a number, a text, or a text from input, which counts as a number if it looks like one. Numbers are
written as integers if they are, and else by a format.
-/

namespace AddonAtlas.Shell.Records

open AddonAtlas.Number

/-! ## Numbers -/

/-- The sign, mantissa and exponent of a number. -/
def binary (x : Float) : Binary64 :=
  let bits : Nat := x.toBits.toNat
  let isNegative := bits / 2 ^ 63 = 1
  let order : Nat := bits / 2 ^ 52 % 2048
  let fraction : Nat := bits % 2 ^ 52
  if order = 2047 then (if fraction = 0 then .infinite isNegative else .nan)
  else if order = 0 then .finite isNegative fraction (-1074)
  else .finite isNegative (fraction + 2 ^ 52) ((order : Int) - 1075)

/-- The number of a sign, mantissa and exponent. -/
def ofBinary : Binary64 → Float
  | .nan => 0.0 / 0.0
  | .infinite s => if s then -1.0 / 0.0 else 1.0 / 0.0
  | .finite s m e =>
    let x := (Float.ofNat m).scaleB e
    if s then -x else x

/-- The whole number of a number, towards zero; the nearest bound if it is beyond one. -/
def whole (x : Float) : Int :=
  match binary x with
  | .nan => Arithmetic.least
  | .infinite s => if s then Arithmetic.least else Arithmetic.greatest
  | .finite s m e =>
    let (num, den) := scaled m 2 e
    let n : Int := if s then -((num / den : Nat) : Int) else ((num / den : Nat) : Int)
    max Arithmetic.least (min Arithmetic.greatest n)

/-- The integer that a number is, if it is one that is not too great. -/
def integer? (x : Float) : Option Int :=
  match (binary x).toInt? with
  | some n => if Arithmetic.least ≤ n && n < 2 ^ 64 then some n else none
  | none => none

/-- The number at the start of a text. -/
def leading (s : String) : Float :=
  ofBinary (Format.leadingReal s.toList).1

/-- A number written by a format with a single directive. -/
def written (format : String) (x : Float) : String :=
  let cs := format.toList
  let before := cs.takeWhile (· != '%')
  let rest := cs.drop (before.length + 1)
  let flags := rest.takeWhile fun c => ['#', '-', '+', ' ', '0'].contains c
  let rest := rest.drop flags.length
  let width := rest.takeWhile isDigit
  let rest := rest.drop width.length
  let (precision, rest) :=
    match rest with
    | '.' :: rest =>
      let ds := rest.takeWhile isDigit
      (some (Arithmetic.digitsOf 10 ds).1, rest.drop ds.length)
    | _ => (none, rest)
  let d : Format.Directive := ⟨flags, (Arithmetic.digitsOf 10 width).1, precision⟩
  match rest with
  | c :: after =>
    let shown :=
      if c = 'd' || c = 'i' then d.signed (whole x)
      else if ['e', 'E', 'f', 'F', 'g', 'G'].contains c then d.real c (binary x)
      else []
    String.ofList (before ++ shown ++ after)
  | [] => format

/-- The text of a number. -/
def textOf (format : String) (x : Float) : String :=
  match integer? x with
  | some n => toString n
  | none =>
    match binary x with
    | .nan => "-nan"
    | _ => written format x

/-! ## Values -/

inductive Value
  /-- What was never given. -/
  | nothing
  | number (x : Float)
  | text (s : String)
  | input (s : String)

/-- Whether a text from input counts as a number. -/
def looksNumeric (s : String) : Bool :=
  let cs := s.toList.dropWhile Arithmetic.isSpace
  let cs := (cs.reverse.dropWhile Arithmetic.isSpace).reverse
  let starts := cs.head?.any fun c => isDigit c || c == '+' || c == '-' || c == '.'
  let ends := cs.getLast?.any fun c => isDigit c || c == '.'
  starts && ends && (let (_, rest) := Format.leadingReal cs
    rest.isEmpty)

namespace Value

/-- A value with it decided what a text from input counts as. -/
def decided : Value → Value
  | input s => if looksNumeric s then number (leading s) else text s
  | v => v

def toNumber : Value → Float
  | nothing => 0.0
  | number x => x
  | text s | input s => leading s

/-- The text of a value; numbers that are no integers are written by a format. -/
def toText (format : String) : Value → String
  | nothing => ""
  | number x => textOf format x
  | text s | input s => s

def isTrue (v : Value) : Bool :=
  match v.decided with
  | nothing => false
  | number x => x != 0.0
  | text s | input s => !s.isEmpty

/-- How two values compare: as numbers if both are numbers or nothing, and else as texts. -/
def compare (format : String) (v w : Value) : Ordering :=
  let numbers (x y : Float) : Ordering := if x < y then .lt else if y < x then .gt else .eq
  let texts (v w : Value) : Ordering :=
    let s := v.toText format
    let t := w.toText format
    if s < t then .lt else if t < s then .gt else .eq
  match v.decided, w.decided with
  | nothing, nothing => .eq
  | number x, number y => numbers x y
  | nothing, number y => numbers 0.0 y
  | number x, nothing => numbers x 0.0
  | _, _ =>
    -- A number from input is compared as it was written.
    texts v w

def ofBool (b : Bool) : Value :=
  number (if b then 1.0 else 0.0)

def ofNat (n : Nat) : Value :=
  number (Float.ofNat n)

end Value

end AddonAtlas.Shell.Records
