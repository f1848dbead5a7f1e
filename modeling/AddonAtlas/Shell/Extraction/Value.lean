import AddonAtlas.Shell.Records.Value

/-!
# Values of extraction programs

A value is a whole number, another number, a text, or stands for something: a place for a value, a list, a table
or a procedure. Numbers and texts stand for each other, as the operation needs them.
-/

namespace AddonAtlas.Shell.Extraction

inductive Value
  /-- What was never given. -/
  | nothing
  | integer (n : Int)
  | real (x : Float)
  | text (s : String)
  | place (number : Nat)
  | list (number : Nat)
  | table (number : Nat)
  | procedure (number : Nat)
  /-- An open file, by its name. -/
  | handle (name : String)
  /-- Why something could not be done, by its number and in words. -/
  | fault (number : Nat) (description : String)

instance : Inhabited Value := ⟨.nothing⟩

/-! ## Numbers -/

/-- The range of whole numbers that are kept as such. -/
def isKept (n : Int) : Bool :=
  -(2 ^ 63) ≤ n && n < 2 ^ 64

/-- The number that is nearest to a whole number. -/
def realOf (n : Int) : Float :=
  if n < 0 then -(Float.ofNat n.natAbs) else Float.ofNat n.natAbs

/-- A whole number as a value. -/
def ofInt (n : Int) : Value :=
  if isKept n then .integer n else .real (realOf n)

def ofNat (n : Nat) : Value :=
  ofInt n

/-- The truth as a value. -/
def ofBool (b : Bool) : Value :=
  if b then .integer 1 else .text ""

/-- A number as a value. -/
def ofReal (x : Float) : Value :=
  match (Records.binary x).toInt? with
  | some n => if n.natAbs < 2 ^ 53 && !(n = 0 && 1.0 / x < 0.0) then .integer n else .real x
  | none => .real x

/-- The text of a number. -/
def textOfReal (x : Float) : String :=
  match Records.binary x with
  | .nan => "NaN"
  | .infinite isNegative => if isNegative then "-Inf" else "Inf"
  | b =>
    match b.toInt? with
    | some n => if n.natAbs < 10 ^ 15 then toString n else Records.written "%.15g" x
    | none => Records.written "%.15g" x

/-- The number at the start of a text, and whether nothing but blanks is behind it. -/
def numberOf (s : String) : Value × Bool :=
  let cs := s.toList.dropWhile Arithmetic.isSpace
  let isBlank (rest : List Char) : Bool := rest.all Arithmetic.isSpace
  let sign := cs.head?.any fun c => c == '-' || c == '+'
  let body := if sign then cs.drop 1 else cs
  let isNegative := cs.head? = some '-'
  let ds := body.takeWhile isDigit
  let behind := body.drop ds.length
  let lower := (body.take 8).map Char.toLower
  if "inf".toList.isPrefixOf lower then
    let rest := body.drop (if "infinity".toList.isPrefixOf lower then 8 else 3)
    (.real (if isNegative then -1.0 / 0.0 else 1.0 / 0.0), isBlank rest)
  else if "nan".toList.isPrefixOf lower then (.real (0.0 / 0.0), isBlank (body.drop 3))
  else
    let isWhole := !ds.isEmpty && !(behind.head?.any fun c => c == '.' || c == 'e' || c == 'E')
    if isWhole then
      let n : Int := (Arithmetic.digitsOf 10 ds).1
      (ofInt (if isNegative then -n else n), isBlank behind)
    else
      let fraction :=
        match behind with
        | '.' :: rest => rest.takeWhile isDigit
        | _ => []
      if ds.isEmpty && fraction.isEmpty then (.integer 0, false)
      else
        let mantissa := ds ++ (if behind.head? = some '.' then '.' :: fraction else [])
        let rest := body.drop mantissa.length
        let power :=
          match rest with
          | c :: more =>
            if c = 'e' || c = 'E' then
              let signed := more.head?.any fun c => c == '-' || c == '+'
              let es := (if signed then more.drop 1 else more).takeWhile isDigit
              if es.isEmpty then [] else c :: more.take (es.length + if signed then 1 else 0)
            else []
          | [] => []
        let written := (if isNegative then ['-'] else []) ++ (if ds.isEmpty then ['0'] else []) ++ mantissa ++ power
        (ofReal (Records.leading (String.ofList written)), isBlank (rest.drop power.length))

namespace Value

/-- The text of a value that stands for something, by the word for what it stands for. -/
def reference (word : String) (number : Nat) : String :=
  word ++ "(0x" ++ String.ofList (Nat.toDigits 16 (94036510000000 + 24 * number)) ++ ")"

def toText : Value → String
  | nothing => ""
  | integer n => toString n
  | real x => textOfReal x
  | text s => s
  | place n => reference "SCALAR" n
  | list n => reference "ARRAY" n
  | table n => reference "HASH" n
  | procedure n => reference "CODE" n
  | handle name => "*main::" ++ name
  | fault _ description => description

/-- A value as a number. -/
def number : Value → Value
  | nothing => integer 0
  | text s => (numberOf s).1
  | place n | list n | table n | procedure n => integer (94036510000000 + 24 * (n : Int))
  | handle _ => integer 0
  | fault n _ => integer n
  | v => v

def toReal (v : Value) : Float :=
  match v.number with
  | integer n => realOf n
  | real x => x
  | _ => 0.0

/-- A value as a whole number, what is behind the point left out. -/
def toInt (v : Value) : Int :=
  match v.number with
  | integer n => n
  | real x => Records.whole x
  | _ => 0

def isTrue : Value → Bool
  | nothing => false
  | integer n => n ≠ 0
  | real x => x != 0.0
  | text s => !(s = "" || s = "0")
  | fault n _ => n ≠ 0
  | _ => true

def isGiven : Value → Bool
  | nothing => false
  | _ => true

/-- Whether a value is a number or a text that is one. -/
def isNumeric : Value → Bool
  | integer _ | real _ | fault _ _ => true
  | text s => (numberOf s).2
  | _ => false

end Value

/-! ## Operations -/

/-- Combines two numbers: whole ones if both are, and others else. -/
def combine (whole : Int → Int → Int) (others : Float → Float → Float) (a b : Value) : Value :=
  match a.number, b.number with
  | .integer m, .integer n =>
    let r := whole m n
    if isKept r then .integer r else .real (others (realOf m) (realOf n))
  | x, y => ofReal (others x.toReal y.toReal)

/-- One number divided by another one that is not zero. -/
def divide (a b : Value) : Value :=
  match a.number, b.number with
  | .integer m, .integer n => if n ≠ 0 && m % n = 0 then ofInt (m / n) else ofReal (realOf m / realOf n)
  | x, y => ofReal (x.toReal / y.toReal)

/-- A power of a number; a whole one is exact if its digits in base 2 cannot become more than 64. -/
def power (a b : Value) : Value :=
  match a.number, b.number with
  | .integer m, .integer n =>
    let size := if m = 0 then 0 else m.natAbs.log2 + 1
    let isPower := m.natAbs = 2 ^ (size - 1) || m = 0
    if 0 ≤ n && !isPower && size * n.toNat ≤ 64 then ofInt (m ^ n.toNat)
    else ofReal ((realOf m).pow (realOf n))
  | x, y => ofReal (x.toReal.pow y.toReal)

/-- How two numbers compare; nothing if one of them is none. -/
def compareNumbers (a b : Value) : Option Ordering :=
  match a.number, b.number with
  | .integer m, .integer n => some (compare m n)
  | x, y =>
    let x := x.toReal
    let y := y.toReal
    if x < y then some .lt else if y < x then some .gt else if x == y then some .eq else none

/-- How two texts compare. -/
def compareTexts (a b : Value) : Ordering :=
  compare a.toText b.toText

/-- The text that comes next, as the last one of so many letters and digits. -/
def successor (s : String) : Option String :=
  let cs := s.toList
  let letters := cs.takeWhile Char.isAlpha
  let digits := cs.drop letters.length
  if cs.isEmpty || !digits.all isDigit then none
  else
    let step (r : List Char × Bool) (c : Char) : List Char × Bool :=
      if !r.2 then (c :: r.1, false)
      else if c = 'z' then ('a' :: r.1, true)
      else if c = 'Z' then ('A' :: r.1, true)
      else if c = '9' then ('0' :: r.1, true)
      else (Char.ofNat (c.toNat + 1) :: r.1, false)
    let (next, carries) := cs.reverse.foldl step ([], true)
    let first := cs.headD 'a'
    let front := if isDigit first then '1' else if first.isUpper then 'A' else 'a'
    some (String.ofList (if carries then front :: next else next))

/-- A value and one more. -/
def increment (v : Value) : Value :=
  match v with
  | .text s =>
    if (numberOf s).2 then combine (· + ·) (· + ·) v (.integer 1)
    else
      match successor s with
      | some next => .text next
      | none => combine (· + ·) (· + ·) v (.integer 1)
  | v => combine (· + ·) (· + ·) v (.integer 1)

/-- A number with the opposite sign; a text gets one in front. -/
def negate (v : Value) : Value :=
  match v with
  | .text s =>
    match s.toList with
    | [] => .integer 0
    | c :: rest =>
      if (numberOf s).2 then combine (fun _ n => -n) (fun _ x => -x) (.integer 0) v
      else if c.isAlpha || c = '_' then .text ("-" ++ s)
      else if c = '-' then .text (String.ofList ('+' :: rest))
      else if c = '+' then .text (String.ofList ('-' :: rest))
      else combine (fun _ n => -n) (fun _ x => -x) (.integer 0) v
  | v => combine (fun _ n => -n) (fun _ x => -x) (.integer 0) v

/-! ## Formats -/

/-- The number of a value that a format asks for, and what is behind it. -/
def asked (cs : List Char) : Option Nat × List Char :=
  let ds := cs.takeWhile isDigit
  match cs.drop ds.length with
  | '$' :: rest => if ds.isEmpty then (none, cs) else (some (Arithmetic.digitsOf 10 ds).1, rest)
  | _ => (none, cs)

/-- A text by a format, with one of all values after the other. -/
def formattedWith (all : List Value) : (fuel : Nat) → List Char → List Value → List Char
  | 0, _, _ => []
  | _ + 1, [], _ => []
  | fuel + 1, c :: rest, values =>
    if c ≠ '%' then c :: formattedWith all fuel rest values
    else
      match rest with
      | '%' :: rest => '%' :: formattedWith all fuel rest values
      | _ =>
        let (number?, rest) := asked rest
        let flags := rest.takeWhile fun c => "-+ 0#".toList.contains c
        let behind := rest.drop flags.length
        let (width, behind, values) : Int × List Char × List Value :=
          match behind with
          | '*' :: behind => ((values.headD .nothing).toInt, behind, values.drop 1)
          | _ =>
            let ds := behind.takeWhile isDigit
            ((Arithmetic.digitsOf 10 ds).1, behind.drop ds.length, values)
        let (precision, behind, values) : Option Nat × List Char × List Value :=
          match behind with
          | '.' :: '*' :: behind =>
            let n := (values.headD .nothing).toInt
            (if n < 0 then none else some n.toNat, behind, values.drop 1)
          | '.' :: behind =>
            let ds := behind.takeWhile isDigit
            (some (Arithmetic.digitsOf 10 ds).1, behind.drop ds.length, values)
          | _ => (none, behind, values)
        let behind := behind.dropWhile fun c => "hlqLV".toList.contains c
        let flags := if width < 0 then '-' :: flags else flags
        let d : Format.Directive := ⟨flags, width.natAbs, precision⟩
        match behind with
        | [] => '%' :: rest
        | letter :: after =>
          let v := (number?.elim values fun n => all.drop (n - 1)).headD .nothing
          let natural : Nat := (if v.toInt < 0 then v.toInt + 2 ^ 64 else v.toInt).toNat
          let zeroFilled (cs : List Char) : List Char :=
            if flags.contains '0' && !flags.contains '-' then List.replicate (d.width - cs.length) '0' ++ cs else d.fill cs
          let shown : Option (List Char) :=
            if letter = 's' then
              let cs := v.toText.toList
              some (zeroFilled (match precision with
                | some n => cs.take n
                | none => cs))
            else if letter = 'c' then some (d.fill [Char.ofNat v.toInt.toNat])
            else if letter = 'd' || letter = 'i' then
              match v.number with
              | .real x =>
                match Records.binary x with
                | .finite _ _ _ => some (d.signed v.toInt)
                | .infinite isNegative => some (d.fill (if isNegative then "-1".toList else "-1".toList))
                | .nan => some (d.fill "-1".toList)
              | _ => some (d.signed v.toInt)
            else if ['u', 'o', 'x', 'X'].contains letter then some (d.plain letter natural)
            else if letter = 'b' || letter = 'B' then
              let digits := d.padded natural (Nat.toDigits 2 natural)
              let mark := if flags.contains '#' && natural ≠ 0 then ['0', letter] else []
              some (d.fillNumber precision.isNone mark digits)
            else if ['e', 'E', 'f', 'F', 'g', 'G'].contains letter then
              let x := v.toReal
              match Records.binary x with
              | .nan => some (d.fill "NaN".toList)
              | .infinite isNegative => some (d.fill ((if isNegative then "-" else "") ++ "Inf").toList)
              | b => some (d.real letter b)
            else none
          match shown with
          | some cs => cs ++ formattedWith all fuel after (if number?.isSome then values else values.drop 1)
          | none => '%' :: rest.take (rest.length - after.length) ++ formattedWith all fuel after values

/-- A text by a format. -/
def formatted (fuel : Nat) (cs : List Char) (values : List Value) : List Char :=
  formattedWith values fuel cs values

end AddonAtlas.Shell.Extraction
