import AddonAtlas.Shell.Expression.Reading
import AddonAtlas.Shell.Utility.Basic

/-!
# Programs that reckon

Expressions of arguments, sequences of numbers, numbers with units, and prime factors. Numbers are kept exact:
integers of any size, and decimals as an integer over a power of ten.
-/

namespace AddonAtlas.Shell

namespace Utility

open Shell.Action AddonAtlas.Number

/-! ## Expressions -/

namespace Reckoning

/-- What is left of the arguments, and the last one that was taken. -/
structure Place where
  rest : List String
  last : String

/-- Why there is no value. Values of other types than asked for are an error of syntax too. -/
abbrev Reader := StateT Place (Except String)

/-- Whether a text is an integer. -/
def integer? (s : String) : Option Int :=
  match s.toList with
  | '-' :: ds => (natural? ds).map fun n => -(n : Int)
  | ds => (natural? ds).map fun n => (n : Int)

/-- Whether a value is empty or zero. -/
def isNull (s : String) : Bool :=
  let cs := s.toList
  let ds := if cs.head? = some '-' then cs.drop 1 else cs
  cs.isEmpty || (!ds.isEmpty && ds.all (· == '0'))

/-- Takes the next argument. -/
def next : Reader String := do
  let p ← get
  match p.rest with
  | [] => throw ("syntax error: missing argument after " ++ Quotation.quoted p.last)
  | a :: rest =>
    set (⟨rest, a⟩ : Place)
    return a

/-- Takes the next argument if it is one of some. -/
def next? (known : List String) : Reader (Option String) := do
  let p ← get
  match p.rest with
  | a :: rest =>
    if known.contains a then
      set (⟨rest, a⟩ : Place)
      return some a
    else return none
  | [] => return none

/-- What of a text an expression matches at its start: how many characters, or those of a group. -/
def matched (text pattern : String) : Except String String :=
  match Expression.parse (Expression.searching false) pattern.toList with
  | .error f => .error f.message
  | .ok e =>
    let hasGroup := (pattern.splitOn "\\(").length > 1
    match e.matchAt? (Expression.subject text.toList) 0 with
    | none => .ok (if hasGroup then "" else "0")
    | some (n, groups) =>
      match Expression.find? groups 1 with
      | some (i, j) => .ok (String.ofList ((text.toList.drop i).take (j - i)))
      | none => .ok (if hasGroup then "" else toString n)

/-- The value of an operator between two values. -/
def apply (o a b : String) : Except String String :=
  let truth (p : Bool) : Except String String := .ok (if p then "1" else "0")
  let order : Ordering :=
    match integer? a, integer? b with
    | some x, some y => Ord.compare x y
    | _, _ => if a < b then .lt else if a = b then .eq else .gt
  let numbers (f : Int → Int → Except String Int) : Except String String :=
    match integer? a, integer? b with
    | some x, some y => (f x y).map toString
    | _, _ => .error "non-integer argument"
  let divided (f : Int → Int → Int) : Except String String :=
    numbers fun x y => if y = 0 then .error "division by zero" else .ok (f x y)
  match o with
  | ":" => matched a b
  | "<" => truth (order == .lt)
  | "<=" => truth (order != .gt)
  | "=" | "==" => truth (order == .eq)
  | "!=" => truth (order != .eq)
  | ">=" => truth (order != .lt)
  | ">" => truth (order == .gt)
  | "+" => numbers fun x y => .ok (x + y)
  | "-" => numbers fun x y => .ok (x - y)
  | "*" => numbers fun x y => .ok (x * y)
  | "/" => divided Int.tdiv
  | _ => divided Int.tmod

/-- The operators of each level, from the weakest on. -/
def levels : List (List String) :=
  [["|"], ["&"], ["<", "<=", "=", "==", "!=", ">=", ">"], ["+", "-"], ["*", "/", "%"], [":"]]

/-- The position of the first of some characters in a text, counted from one. -/
def indexOf (text set : String) : Nat :=
  ((text.toList.findIdx? fun c => set.toList.contains c).map (· + 1)).getD 0

/-- The part of a text from a position on. -/
def partOf (text start length : String) : String :=
  match integer? start, integer? length with
  | some i, some n => if i < 1 ∨ n < 1 then "" else String.ofList ((text.toList.drop (i.toNat - 1)).take n.toNat)
  | _, _ => ""

/-- The value of an expression at a level. What need not be evaluated cannot fail. -/
def value : (fuel : Nat) → (level : Nat) → (isNeeded : Bool) → Reader String
  | 0, _, _ => throw "syntax error"
  | fuel + 1, level, isNeeded => do
    match levels[level]? with
    | some operators =>
      let a ← value fuel (level + 1) isNeeded
      more fuel operators level isNeeded a
    | none =>
      if level = 6 then
        match ← next? ["+", "length", "match", "index", "substr"] with
        | some "+" => next
        | some "length" =>
          let s ← value fuel 6 isNeeded
          return toString s.length
        | some "match" =>
          let s ← value fuel 6 isNeeded
          let p ← value fuel 6 isNeeded
          if isNeeded then (matched s p : Except String String) else return ""
        | some "index" =>
          let s ← value fuel 6 isNeeded
          let set ← value fuel 6 isNeeded
          return toString (indexOf s set)
        | some _ =>
          let s ← value fuel 6 isNeeded
          let start ← value fuel 6 isNeeded
          let length ← value fuel 6 isNeeded
          return partOf s start length
        | none => value fuel 7 isNeeded
      else
        match ← next with
        | "(" =>
          let v ← value fuel 0 isNeeded
          let p ← get
          match p.rest with
          | [] => throw ("syntax error: expecting ')' after " ++ Quotation.quoted p.last)
          | a :: rest =>
            if a = ")" then
              set (⟨rest, a⟩ : Place)
              return v
            else throw ("syntax error: expecting ')' instead of " ++ Quotation.quoted a)
        | ")" => throw "syntax error: unexpected ')'"
        | a => return a
where
  /-- Goes on with the operators of a level. -/
  more : (fuel : Nat) → List String → (level : Nat) → (isNeeded : Bool) → String → Reader String
    | 0, _, _, _, a => return a
    | fuel + 1, operators, level, isNeeded, a => do
      match ← next? operators with
      | none => return a
      | some o =>
        let isOther := (o = "|" && !isNull a) || (o = "&" && isNull a)
        let b ← value fuel (level + 1) (isNeeded && !isOther)
        let v ←
          match o with
          | "|" => pure (if !isNull a then a else if isNull b then "0" else b)
          | "&" => pure (if isNull a || isNull b then "0" else a)
          | _ => if isNeeded then (apply o a b : Except String String) else pure ""
        more fuel operators level isNeeded v

end Reckoning

def evaluateExpression (name : String) (arguments : List String) : Action Nat := do
  let arguments := if arguments.head? = some "--" then arguments.drop 1 else arguments
  if arguments.isEmpty then misuse name "missing operand" 2
  else
    match (Reckoning.value (16 * arguments.length + 16) 0 true).run ⟨arguments, ""⟩ with
    | .ok (v, ⟨[], _⟩) => finish name 3 (v ++ "\n").toList (if Reckoning.isNull v then 1 else 0)
    | .ok (_, ⟨a :: _, _⟩) => giveUp name ("syntax error: unexpected argument " ++ Quotation.quoted a) 2
    | .error s => giveUp name s 2

/-! ## Decimals -/

/-- A decimal number: an integer over a power of ten. -/
structure Decimal where
  digits : Int
  places : Nat

namespace Decimal

/-- Two decimals as integers of the same power. -/
def aligned (a b : Decimal) : Int × Int :=
  let p := max a.places b.places
  (a.digits * 10 ^ (p - a.places), b.digits * 10 ^ (p - b.places))

def lt (a b : Decimal) : Bool :=
  let (x, y) := aligned a b
  x < y

/-- The number that is reached from another one by steps. -/
def stepped (a step : Decimal) (n : Nat) : Decimal :=
  let (x, y) := aligned a step
  ⟨x + n * y, max a.places step.places⟩

/-- With so many places behind the point, a half going to the even neighbour. -/
def rounded (a : Decimal) (places : Nat) : Int :=
  if a.places ≤ places then a.digits * 10 ^ (places - a.places)
  else
    let n : Int := roundDiv a.digits.natAbs (10 ^ (a.places - places))
    if a.digits < 0 then -n else n

/-- Written with so many places behind the point. -/
def text (a : Decimal) (places : Nat) : List Char :=
  let n := a.rounded places
  (if a.digits < 0 then ['-'] else []) ++ Format.Directive.withPoint n.natAbs places false

def binary (a : Decimal) : Binary64 :=
  .ofRatio (a.digits < 0) a.digits.natAbs (10 ^ a.places)

end Decimal

/-! ## Sequences -/

/-- An argument of a sequence: its number, the places behind its point, and how wide it is written. -/
structure SequenceNumber where
  number : Decimal
  precision : Nat
  width : Int

/-- Why an argument is no number for a sequence, or that it has no bound. -/
inductive SequenceArgument
  | number (n : SequenceNumber)
  | endless (isNegative : Bool)
  | notNumber
  | invalid

def sequenceArgument (s : String) : SequenceArgument :=
  let cs := s.toList.dropWhile fun c => Arithmetic.isSpace c || c == '+'
  let (negative, body) :=
    match cs with
    | '-' :: rest => (true, rest)
    | rest => (false, rest)
  let lower := String.ofList (body.map Char.toLower)
  if lower = "inf" ∨ lower = "infinity" then .endless negative
  else if lower = "nan" then .notNumber
  else
    let whole := body.takeWhile isDigit
    let rest := body.drop whole.length
    let (hasPoint, fraction, rest) :=
      match rest with
      | '.' :: after => (true, after.takeWhile isDigit, after.dropWhile isDigit)
      | _ => (false, [], rest)
    let exponent? : Option (Bool × Int) :=
      match rest with
      | [] => some (false, 0)
      | c :: after =>
        if c = 'e' ∨ c = 'E' then
          let (down, ds) :=
            match after with
            | '-' :: ds => (true, ds)
            | '+' :: ds => (false, ds)
            | ds => (false, ds)
          (natural? ds).map fun n => (true, if down then -(n : Int) else n)
        else none
    match exponent? with
    | none => .invalid
    | some (hasExponent, exponent) =>
      if whole.isEmpty && fraction.isEmpty then .invalid
      else
        let digits : Int := (Arithmetic.digitsOf 10 (whole ++ fraction)).1
        let digits := if negative then -digits else digits
        let number : Decimal :=
          if exponent ≥ 0 then
            if fraction.length ≤ exponent then ⟨digits * 10 ^ (exponent.toNat - fraction.length), 0⟩
            else ⟨digits, fraction.length - exponent.toNat⟩
          else ⟨digits, fraction.length + exponent.natAbs⟩
        let precision : Int := fraction.length
        let precision := if exponent < 0 then precision - exponent else precision - min precision exponent
        let pointWidth : Int :=
          if !hasPoint then 0 else if fraction.isEmpty then -1 else if whole.isEmpty then 1 else 0
        let width : Int := cs.length + pointWidth
        let width :=
          if !hasExponent then width
          else
            let width := width - rest.length
            let width :=
              if exponent < 0 then (if hasPoint then (if fraction.isEmpty then width + 1 else width) else width + 1)
              else width
            width + exponent.natAbs
        .number ⟨number, precision.toNat, width⟩

/-- The directive of a format with the texts around it, or what is wrong with it. -/
def sequenceFormat (s : String) : Except String (List Char × Format.Directive × Char × List Char) :=
  go [] (s.length + 1) s.toList
where
  /-- The text up to the directive is kept, the last character first. -/
  go (front : List Char) : (fuel : Nat) → List Char → Except String (List Char × Format.Directive × Char × List Char)
    | 0, _ | _, [] => .error ("format " ++ Quotation.quoted s ++ " has no % directive")
    | fuel + 1, '%' :: '%' :: rest => go ('%' :: front) fuel rest
    | _ + 1, '%' :: rest =>
      let flags := rest.takeWhile fun c => "-+#0 '".toList.contains c
      let rest := rest.drop flags.length
      let width := rest.takeWhile isDigit
      let rest := rest.drop width.length
      let (precision, rest) :=
        match rest with
        | '.' :: ds => (some (Arithmetic.digitsOf 10 (ds.takeWhile isDigit)).1, ds.dropWhile isDigit)
        | _ => (none, rest)
      let rest := if rest.head? = some 'L' then rest.drop 1 else rest
      match rest with
      | [] => .error ("format " ++ Quotation.quoted s ++ " ends in %")
      | c :: rest =>
        if "efgaEFGA".toList.contains c then
          match tail (rest.length + 1) rest with
          | some behind => .ok (front.reverse, ⟨flags, (Arithmetic.digitsOf 10 width).1, precision⟩, c, behind)
          | none => .error ("format " ++ Quotation.quoted s ++ " has too many % directives")
        else .error ("format " ++ Quotation.quoted s ++ " has unknown %" ++ String.ofList [c] ++ " directive")
    | fuel + 1, c :: rest => go (c :: front) fuel rest
  /-- The text behind the directive, in which none may follow. -/
  tail : (fuel : Nat) → List Char → Option (List Char)
    | 0, _ | _, [] => some []
    | fuel + 1, '%' :: '%' :: rest => (tail fuel rest).map ('%' :: ·)
    | _ + 1, '%' :: _ => none
    | fuel + 1, c :: rest => (tail fuel rest).map (c :: ·)

/-- How many numbers of a sequence are written at most. -/
def maxSequence : Nat := 400000

/-- How many numbers there are from one to another by steps; nothing if there is no end. -/
def sequenceCount (first step : Decimal) (last : Option Decimal) (downwards : Bool) : Option Nat :=
  match last with
  | none => if (step.digits < 0) = downwards then none else some 0
  | some last =>
    let p := max first.places (max step.places last.places)
    let scaled (d : Decimal) : Int := d.digits * 10 ^ (p - d.places)
    let (a, s, b) := (scaled first, scaled step, scaled last)
    if s = 0 then (if b < a then some 0 else none)
    else
      let n := if 0 < s then (b - a) / s + 1 else (a - b) / (-s) + 1
      some n.toNat

def sequenceOptions : Options.Table :=
  .of "f:s:w" [("equal-width", "w"), ("format=", "f"), ("separator=", "s"), ("help", "help"), ("version", "version")]

def sequence (name : String) (arguments : List String) : Action Nat := do
  let isNegative (a : String) : Bool :=
    match a.toList with
    | '-' :: c :: _ => isDigit c || c == '.'
    | _ => false
  let takesValue (a : String) : Bool := ["-f", "-s", "--format", "--separator"].contains a
  let rec front : (fuel : Nat) → List String → Nat
    | 0, _ | _, [] => 0
    | fuel + 1, a :: rest =>
      if isNegative a then 0 else if takesValue a then 2 + front fuel (rest.drop 1) else if a = "--" then 0 else
        if a.startsWith "-" then 1 + front fuel rest else 0
  let n := front (arguments.length + 1) arguments
  let arguments := if (arguments.drop n).head?.any isNegative then arguments.take n ++ "--" :: arguments.drop n else arguments
  withOptions name sequenceOptions false 1 arguments fun given operands => do
    match operands with
    | [] => misuse name "missing operand" 1
    | _ :: _ :: _ :: extra :: _ => misuse name ("extra operand " ++ Quotation.quoted extra) 1
    | _ =>
      match (value? given "f").map sequenceFormat with
      | some (.error e) => giveUp name e 1
      | format? =>
        let format? := format?.bind (·.toOption)
        if format?.isSome && has given "w" then
          misuse name "format string may not be specified when printing equal width strings" 1
        else
          let read := operands.map fun a => (a, sequenceArgument a)
          match read.find? fun a => a.2 matches .invalid | .notNumber with
          | some (a, .notNumber) => misuse name ("invalid 'not-a-number' argument: " ++ Quotation.quoted a) 1
          | some (a, _) => misuse name ("invalid floating point argument: " ++ Quotation.quoted a) 1
          | none =>
            let one : SequenceNumber := ⟨⟨1, 0⟩, 0, 1⟩
            let number (a : SequenceArgument) : SequenceNumber :=
              match a with
              | .number n => n
              | _ => one
            let values := read.map (·.2)
            let first := if values.length = 1 then one else number (values.headD .invalid)
            let step := if values.length = 3 then number (values.getD 1 .invalid) else one
            let last := values.getLastD .invalid
            if values.length = 3 && step.number.digits = 0 then
              misuse name ("invalid Zero increment value: " ++ Quotation.quoted (operands.getD 1 "")) 1
            else
              let places := max first.precision step.precision
              let count :=
                match last with
                | .number l => sequenceCount first.number step.number (some l.number) false
                | .endless negative => sequenceCount first.number step.number none negative
                | _ => some 0
              let width : Int :=
                match last with
                | .number l =>
                  let firstWidth := first.width + ((places - first.precision : Nat) : Int) +
                    (if first.precision = 0 ∧ places ≠ 0 then 1 else 0)
                  let lastWidth := l.width + ((places : Int) - l.precision) -
                    (if l.precision ≠ 0 ∧ places = 0 then 1 else 0) + (if l.precision = 0 ∧ places ≠ 0 then 1 else 0)
                  max firstWidth lastWidth
                | _ => 0
              let render (d : Decimal) : List Char :=
                match format? with
                | some (front, directive, letter, behind) => front ++ directive.real letter d.binary ++ behind
                | none =>
                  let text := d.text places
                  if has given "w" then
                    let (sign, ds) := if text.head? = some '-' then (['-'], text.drop 1) else ([], text)
                    sign ++ List.replicate (width.toNat - text.length) '0' ++ ds
                  else text
              let separator := ((value? given "s").getD "\n").toList
              let shown := (List.range (min (count.getD maxSequence) maxSequence)).map fun i =>
                render (first.number.stepped step.number i)
              if shown.isEmpty then return 0
              else
                let status ← finish name 1 ((shown.intersperse separator).flatten ++ ['\n']) 0
                if count.all (maxSequence < ·) then throw .ended
                return status

/-! ## Numbers with units -/

/-- What letters behind numbers mean. -/
inductive UnitScale
  | none
  | auto
  | si
  | iec
  | iecLong
deriving DecidableEq

def UnitScale.of? (s : String) : Option UnitScale :=
  match s with
  | "none" => some .none
  | "auto" => some .auto
  | "si" => some .si
  | "iec" => some .iec
  | "iec-i" => some .iecLong
  | _ => Option.none

def UnitScale.base : UnitScale → Nat
  | .iec | .iecLong => 1024
  | _ => 1000

def unitLetters : List Char :=
  "KMGTPEZY".toList

/-- How numbers are converted. -/
structure Conversion where
  from_ : UnitScale
  to_ : UnitScale
  fromUnit : Nat
  toUnit : Nat
  rounding : String
  suffix : String
  padding : Int
  delimiter : Option Char
  /-- What stands around a number, and how wide and exact it is. -/
  format : Option (List Char × Format.Directive × List Char)

namespace Conversion

/-- An exact number: a numerator over a denominator. -/
abbrev Ratio := Int × Nat

/-- A number as it is written, with the places behind its point; or what is wrong with it. -/
def read (c : Conversion) (s : List Char) : Except String (Ratio × Nat) := do
  let shown := Quotation.quoted (String.ofList s)
  let text := s.dropWhile fun c => c == ' ' || c == '\t'
  let (negative, body) :=
    match text with
    | '-' :: rest => (true, rest)
    | rest => (false, rest)
  let whole := body.takeWhile isDigit
  let rest := body.drop whole.length
  let (fraction, rest) :=
    match rest with
    | '.' :: after => (after.takeWhile isDigit, after.dropWhile isDigit)
    | _ => ([], rest)
  if whole.isEmpty || (fraction.isEmpty && (body.drop whole.length).head? = some '.') then
    throw ("invalid number: " ++ shown)
  let digits : Int := (Arithmetic.digitsOf 10 (whole ++ fraction)).1
  let digits := if negative then -digits else digits
  let ratio : Ratio := (digits, 10 ^ fraction.length)
  let after := rest.dropWhile fun c => c == ' ' || c == '\t'
  match after with
  | [] => return (ratio, fraction.length)
  | u :: rest =>
    match unitLetters.idxOf? u with
    | Option.none => throw ("invalid suffix in input: " ++ shown)
    | some i =>
      if c.from_ = .none then
        throw ("rejecting suffix in input: " ++ shown ++ " (consider using --from)")
      let (base, rest) ←
        match c.from_, rest with
        | .auto, 'i' :: rest => pure (1024, rest)
        | .iecLong, 'i' :: rest => pure (1024, rest)
        | .iecLong, _ => throw ("missing 'i' suffix in input: " ++ shown ++ " (e.g Ki/Mi/Gi)")
        | s, rest => pure (s.base, rest)
      if !rest.isEmpty then
        throw ("invalid suffix in input " ++ shown ++ ": " ++ Quotation.quoted (String.ofList rest))
      return ((ratio.1 * (base ^ (i + 1) : Nat), ratio.2), 0)

/-- An integer near a ratio, by the way of rounding. -/
def round (way : String) (r : Ratio) : Int :=
  let n := r.1.natAbs / r.2
  let isExact := r.1.natAbs % r.2 = 0
  let isNegative : Bool := decide (r.1 < 0)
  let grown : Nat :=
    if isExact then n
    else
      match way with
      | "up" => if isNegative then n else n + 1
      | "down" => if isNegative then n + 1 else n
      | "towards-zero" => n
      | "nearest" => if r.2 ≤ 2 * (r.1.natAbs % r.2) then n + 1 else n
      | _ => n + 1
  if isNegative then -(grown : Int) else grown

/-- A number with places behind its point. -/
def decimalText (n : Int) (places : Nat) : List Char :=
  (if n < 0 then ['-'] else []) ++ Format.Directive.withPoint n.natAbs places false

/-- A number as it is to be written. -/
def show_ (c : Conversion) (r : Ratio) (places : Nat) : List Char :=
  let r : Ratio := (r.1 * c.fromUnit, r.2 * c.toUnit)
  let precision? := c.format.bind fun f => f.2.1.precision
  match c.to_ with
  | .none | .auto =>
    let places := precision?.getD places
    decimalText (round c.rounding (r.1 * 10 ^ places, r.2)) places
  | to_ =>
    let base := to_.base
    let rec down : (fuel : Nat) → Ratio → Nat → Ratio × Nat
      | 0, r, power => (r, power)
      | fuel + 1, r, power =>
        if base * r.2 ≤ r.1.natAbs ∧ power < 8 then down fuel (r.1, r.2 * base) (power + 1) else (r, power)
    let (r, power) := down 9 r 0
    let isSmall := r.1.natAbs < 10 * r.2
    let shift := match precision? with
      | some p => min (3 * power) p
      | Option.none => if isSmall then 1 else 0
    let n := round c.rounding (r.1 * 10 ^ shift, r.2)
    let isFull := base * 10 ^ shift ≤ n.natAbs
    let (r, power) : Ratio × Nat := if isFull then ((n, 10 ^ shift * base), power + 1) else ((n, 10 ^ shift), power)
    let showsPoint := r.1 ≠ 0 && r.1.natAbs < 10 * r.2 && 0 < power
    let places := precision?.getD (if showsPoint then 1 else 0)
    let scaled := r.1.natAbs * 10 ^ places
    let digits : Int := roundDiv scaled r.2
    let letter := if power = 0 then [] else [unitLetters.getD (power - 1) 'K'] ++ (if to_ = .iecLong then ['i'] else [])
    decimalText (if r.1 < 0 then -digits else digits) places ++ letter

/-- A field converted, or what is wrong with it. -/
def convert (c : Conversion) (isLater : Bool) (field : List Char) : Except String (List Char) := do
  let isBlank (c : Char) : Bool := c == ' ' || c == '\t'
  let blanks := field.takeWhile isBlank
  let suffix := c.suffix.toList
  let bareField := field.drop blanks.length
  let bareField :=
    if !suffix.isEmpty && suffix.length < bareField.length && suffix.isSuffixOf bareField then
      bareField.take (bareField.length - suffix.length)
    else bareField
  let (r, places) ← c.read bareField
  let text := c.show_ r places ++ suffix
  let padding : Int :=
    match c.format with
    | some (_, d, _) => if d.width = 0 then c.padding else if d.has '-' then -(d.width : Int) else d.width
    | Option.none => c.padding
  let width : Int :=
    if padding ≠ 0 then padding
    else if c.delimiter.isNone && (!blanks.isEmpty || isLater) then field.length
    else 0
  let fill := List.replicate (width.natAbs - text.length) ' '
  let text := if width < 0 then text ++ fill else fill ++ text
  match c.format with
  | some (front, _, behind) => return front ++ text ++ behind
  | Option.none => return text

/-- The fields of a line. Without a delimiter they are words with the blanks in front of them. -/
def fields (c : Conversion) (l : List Char) : List (List Char) :=
  match c.delimiter with
  | some d => l.splitOn d
  | Option.none => go (l.length + 1) l
where
  /-- Takes words; the blank behind each one is left out. -/
  go : (fuel : Nat) → List Char → List (List Char)
    | 0, l => [l]
    | fuel + 1, l =>
      let isBlank (c : Char) : Bool := c == ' ' || c == '\t'
      let blanks := l.takeWhile isBlank
      let word := (l.drop blanks.length).takeWhile (!isBlank ·)
      match l.drop (blanks.length + word.length) with
      | [] => [blanks ++ word]
      | _ :: rest => (blanks ++ word) :: go fuel rest

end Conversion

def numberOptions : Options.Table :=
  .of "d:z" [("from=", "from"), ("from-unit=", "from-unit"), ("to=", "to"), ("to-unit=", "to-unit"), ("round=", "round"),
    ("padding=", "padding"), ("suffix=", "suffix"), ("grouping", "grouping"), ("delimiter=", "d"),
    ("field=", "field"), ("debug", "debug"), ("header?", "header"), ("format=", "format"),
    ("invalid=", "invalid"), ("zero-terminated", "z"), ("help", "help"), ("version", "version")]

/-- The fields that a list such as `2-3,5` or `-` means. -/
def chosenFields (s : String) (i : Nat) : Bool :=
  (s.toList.splitOn ',').any fun part =>
    let low := part.takeWhile isDigit
    match part.drop low.length with
    | [] => natural? low = some i
    | '-' :: high => (natural? low).getD 1 ≤ i && (high.isEmpty || i ≤ (natural? high).getD 0)
    | _ => false

def convertNumbers (name : String) (arguments : List String) : Action Nat :=
  withOptions name numberOptions true 1 arguments fun given operands => do
    let scale (option : String) : Except String UnitScale :=
      match value? given option with
      | none => .ok .none
      | some s =>
        match UnitScale.of? s with
        | some u => .ok u
        | none => .error ("invalid argument " ++ Quotation.quoted s ++ " for '--" ++ option ++ "'")
    let unit (option : String) : Nat := (((value? given option).bind fun s => amount? s.toList)).getD 1
    let format? := (value? given "format").map fun s =>
      let front := s.toList.takeWhile (· != '%')
      let rest := s.toList.drop (front.length + 1)
      let flags := rest.takeWhile fun c => "0-' ".toList.contains c
      let rest := rest.drop flags.length
      let width := rest.takeWhile isDigit
      let rest := rest.drop width.length
      let (precision, rest) :=
        match rest with
        | '.' :: ds => (some (Arithmetic.digitsOf 10 (ds.takeWhile isDigit)).1, ds.dropWhile isDigit)
        | _ => (none, rest)
      (front, (⟨flags, (Arithmetic.digitsOf 10 width).1, precision⟩ : Format.Directive), rest.drop 1)
    match scale "from", scale "to" with
    | .error e, _ | _, .error e => misuse name e 1
    | .ok from_, .ok to_ =>
      let padding : Int := ((value? given "padding").bind Reckoning.integer?).getD 0
      let c : Conversion :=
        ⟨from_, to_, unit "from-unit", unit "to-unit", (value? given "round").getD "from-zero",
          (value? given "suffix").getD "", padding, (value? given "d").bind fun s => s.toList.head?, format?⟩
      let invalid := (value? given "invalid").getD "abort"
      let chosen := (value? given "field").getD "1"
      let ending := lineEnd given
      let mut status := 0
      let mut isGoing := true
      let lines ←
        if operands.isEmpty then do
          match ← readInput with
          | .ok b => pure (linesOf ending (charactersOf b))
          | .error _ => pure []
        else pure (operands.map fun o => o.toList ++ [ending])
      let heads := if has given "header" then ((value? given "header").bind fun s => natural? s.toList).getD 1 else 0
      for (l, i) in lines.zipIdx do
        if isGoing then
          if operands.isEmpty && i < heads then
            let _ ← put (toBytes l)
          else
            let found := if operands.isEmpty then c.fields (bare ending l) else [bare ending l]
            let mut shown : List (List Char) := []
            for (f, n) in found.zipIdx 1 do
              if isGoing then
                if operands.isEmpty && !chosenFields chosen n then shown := shown ++ [f]
                else
                  match c.convert (1 < n) f with
                  | .ok text => shown := shown ++ [text]
                  | .error e =>
                    if invalid ≠ "ignore" then complain name e
                    if invalid = "abort" then
                      isGoing := false
                      status := 2
                    else
                      if invalid = "fail" then status := 2
                      shown := shown ++ [f]
            if isGoing then
              let text := (shown.intersperse [c.delimiter.getD ' ']).flatten
              let _ ← put (toBytes (text ++ (if l.getLast? = some ending then [ending] else [ending])))
      return status

/-! ## Factors -/

/-- The prime factors of a number, from the least one on. -/
def factorsOf : (fuel : Nat) → (divisor n : Nat) → List Nat
  | 0, _, n => if 1 < n then [n] else []
  | fuel + 1, d, n =>
    if n ≤ 1 then []
    else if n < d * d then [n]
    else if n % d = 0 then d :: factorsOf fuel d (n / d)
    else factorsOf fuel (if d = 2 then 3 else d + 2) n

def factor (name : String) (arguments : List String) : Action Nat :=
  withOptions name (.of "h" [("exponents", "h"), ("help", "help"), ("version", "version")]) true 1 arguments
    fun _ operands => do
      let texts ←
        if operands.isEmpty then do
          match ← readInput with
          | .ok b =>
            pure (((charactersOf b).splitBy fun a b => Arithmetic.isSpace a == Arithmetic.isSpace b).filter fun w =>
              !w.all Arithmetic.isSpace)
          | .error _ => pure []
        else pure (operands.map String.toList)
      let mut status := 0
      for t in texts do
        match natural? (t.dropWhile fun c => c == ' ' || c == '+') with
        | some n =>
          let shown := (factorsOf 2000000 2 n).map toString
          let text := toString n ++ ":" ++ String.join (shown.map (" " ++ ·)) ++ "\n"
          let _ ← put (toBytes text.toList)
        | none =>
          complain name (Quotation.quoted (String.ofList t) ++ " is not a valid positive integer")
          status := 1
      return status

end Utility

end AddonAtlas.Shell
