import AddonAtlas.Number.Shortest
import AddonAtlas.Shell.Arithmetic

/-!
# Formatted texts

The texts that `echo` and `printf` write. A format is used again as long as arguments are left; where
they run out, the rest of it takes empty texts and zeros.
-/

namespace AddonAtlas.Shell

namespace Format

open AddonAtlas.Number

/-! ## Escapes -/

def isOctal (c : Char) : Bool :=
  '0' ≤ c && c ≤ '7'

/-- The byte that a number is, up to multiples of their range. -/
def byte (n : Nat) : Char :=
  Char.ofNat (n % 256)

/-- The character for which the text behind a backslash stands, and what follows it. What stands for
nothing leaves the backslash. -/
def escape (cs : List Char) : Char × List Char :=
  match cs with
  | [] => ('\\', [])
  | c :: rest =>
    if isOctal c then
      let ds := (cs.take 3).takeWhile isOctal
      (byte (ds.foldl (fun n d => 8 * n + (d.toNat - 48)) 0), cs.drop ds.length)
    else
      match [('\\', 92), ('a', 7), ('b', 8), ('f', 12), ('n', 10), ('r', 13), ('t', 9), ('v', 11)].find?
          fun e => e.1 = c with
      | some (_, n) => (Char.ofNat n, rest)
      | none => ('\\', cs)

/-- A text with its escapes replaced, and whether one of them asks for nothing more to be written. A zero
may stand in front of octal digits. -/
def unescape : (fuel : Nat) → List Char → List Char × Bool
  | 0, _ => ([], false)
  | _ + 1, [] => ([], false)
  | fuel + 1, '\\' :: cs =>
    if cs.head? = some 'c' then ([], true)
    else
      let (c, rest) :=
        match cs with
        | '0' :: d :: rest => if isOctal d then escape (d :: rest) else escape cs
        | cs => escape cs
      let (text, stops) := unescape fuel rest
      (c :: text, stops)
  | fuel + 1, c :: cs =>
    let (text, stops) := unescape fuel cs
    (c :: text, stops)

def unescaped (s : String) : List Char × Bool :=
  unescape (s.length + 1) s.toList

/-- What `echo` writes. -/
def echo (arguments : List String) : List Char :=
  match arguments with
  | "-n" :: rest => go [] rest
  | rest => go ['\n'] rest
where
  /-- The texts with blanks between them and something at the end. -/
  go (ending : List Char) : List String → List Char
    | [] => ending
    | [s] =>
      let (text, stops) := unescaped s
      if stops then text else text ++ ending
    | s :: rest =>
      let (text, stops) := unescaped s
      if stops then text else text ++ ' ' :: go ending rest

/-! ## Directives -/

/-- A directive of a format without its letter. -/
structure Directive where
  flags : List Char
  width : Nat
  precision : Option Nat

namespace Directive

def has (d : Directive) (flag : Char) : Bool :=
  d.flags.contains flag

/-- Fills a text up to the width, at the side that the flags tell. -/
def fill (d : Directive) (text : List Char) : List Char :=
  let blanks := List.replicate (d.width - text.length) ' '
  if d.has '-' then text ++ blanks else blanks ++ text

/-- A number of a sign, or a mark, and digits, filled up to the width. -/
def fillNumber (d : Directive) (zeros : Bool) (sign digits : List Char) : List Char :=
  if zeros && d.has '0' && !d.has '-' then
    sign ++ List.replicate (d.width - sign.length - digits.length) '0' ++ digits
  else d.fill (sign ++ digits)

/-- At most as many characters as the precision allows. -/
def text (d : Directive) (s : List Char) : List Char :=
  d.fill (match d.precision with
    | some n => s.take n
    | none => s)

def sign (d : Directive) (negative : Bool) : List Char :=
  if negative then ['-'] else if d.has '+' then ['+'] else if d.has ' ' then [' '] else []

/-- Digits with zeros in front up to the precision; zero has none if the precision is zero. -/
def padded (d : Directive) (n : Nat) (digits : List Char) : List Char :=
  match d.precision with
  | some p =>
    let digits := if n = 0 ∧ p = 0 then [] else digits
    List.replicate (p - digits.length) '0' ++ digits
  | none => digits

def signed (d : Directive) (n : Int) : List Char :=
  d.fillNumber d.precision.isNone (d.sign (n < 0)) (d.padded n.natAbs (toString n.natAbs).toList)

/-- A number without sign in the base for which the letter stands. -/
def plain (d : Directive) (letter : Char) (n : Nat) : List Char :=
  let upper (cs : List Char) := if letter = 'X' then cs.map Char.toUpper else cs
  let base := if letter = 'o' then 8 else if letter = 'u' then 10 else 16
  let digits := d.padded n (upper (Nat.toDigits base n))
  let digits :=
    if letter = 'o' && d.has '#' && digits.head? != some '0' then '0' :: digits else digits
  let mark := if base = 16 && d.has '#' && n != 0 then upper ['0', 'x'] else []
  d.fillNumber d.precision.isNone mark digits

/-- `digits / 10 ^ places` with a point. -/
def withPoint (digits : Nat) (places : Nat) (always : Bool) : List Char :=
  let cs := (toString digits).toList
  let cs := List.replicate (places + 1 - cs.length) '0' ++ cs
  let fraction := cs.drop (cs.length - places)
  cs.take (cs.length - places) ++ (if fraction.isEmpty && !always then [] else '.' :: fraction)

/-- The decimal order of a number, and its digits: one in front of the point and as many behind it as
asked for. -/
def scientific (m : Nat) (e : Int) (places : Nat) : Int × Nat :=
  if m = 0 then (0, 0)
  else
    let (num, den) := scaled m 2 e
    let order := Binary64.decimalOrder num den - 1
    let (a, b) := scaled den 10 (order - places)
    let digits := roundDiv (num * b) a
    if digits = 10 ^ (places + 1) then (order + 1, 10 ^ places) else (order, digits)

def withExponent (order : Int) (mantissa : List Char) : List Char :=
  let n := (toString order.natAbs).toList
  mantissa ++ 'e' :: (if order < 0 then '-' else '+') :: (if n.length < 2 then '0' :: n else n)

/-- Digits behind a point without the zeros at their end. -/
def trimmed (cs : List Char) : List Char :=
  if cs.contains '.' then
    let kept := (cs.reverse.dropWhile (· == '0')).reverse
    if kept.getLast? = some '.' then kept.dropLast else kept
  else cs

/-- A finite number without its sign, as the letter asks for. -/
def finite (d : Directive) (letter : Char) (m : Nat) (e : Int) : List Char :=
  let places := d.precision.getD 6
  let positional (places : Nat) (always : Bool) : List Char :=
    let (num, den) := scaled m 2 e
    withPoint (roundDiv (num * 10 ^ places) den) places always
  let exponential (places : Nat) (always trims : Bool) : List Char :=
    let (order, digits) := scientific m e places
    let mantissa := withPoint digits places always
    withExponent order (if trims then trimmed mantissa else mantissa)
  if letter = 'f' then positional places (d.has '#')
  else if letter = 'e' then exponential places (d.has '#') false
  else
    let digits := max places 1
    let (order, _) := scientific m e (digits - 1)
    let trims := !d.has '#'
    if -4 ≤ order ∧ order < digits then
      let cs := positional (digits - 1 - order).toNat (d.has '#')
      if trims then trimmed cs else cs
    else exponential (digits - 1) (d.has '#') trims

/-- A real number. -/
def real (d : Directive) (letter : Char) (x : Binary64) : List Char :=
  let upper (cs : List Char) := if letter.isUpper then cs.map Char.toUpper else cs
  match x with
  | .nan => d.fill (upper (d.sign false ++ ['n', 'a', 'n']))
  | .infinite s => d.fill (upper (d.sign s ++ ['i', 'n', 'f']))
  | .finite s m e => d.fillNumber true (d.sign s) (upper (finite d letter.toLower m e))

end Directive

/-- A real number at the start of a text, and what follows it. -/
def leadingReal (cs : List Char) : Binary64 × List Char :=
  let body := cs.dropWhile Arithmetic.isSpace
  let (negative, body) :=
    match body with
    | '-' :: rest => (true, rest)
    | '+' :: rest => (false, rest)
    | rest => (false, rest)
  let word (s : String) : Bool := s.toList.isPrefixOf (body.map Char.toLower)
  if word "infinity" then (.infinite negative, body.drop 8)
  else if word "inf" then (.infinite negative, body.drop 3)
  else if word "nan" then (.nan, body.drop 3)
  else if word "0x" && (body.drop 2).head?.any fun c => Arithmetic.digitValue c < 16 then
    let (n, rest) := Arithmetic.digitsOf 16 (body.drop 2)
    (.ofRatio negative n 1, rest)
  else
    let whole := body.takeWhile isDigit
    let rest := body.drop whole.length
    let (fraction, rest) :=
      match rest with
      | '.' :: after => (after.takeWhile isDigit, after.dropWhile isDigit)
      | _ => ([], rest)
    if whole.isEmpty && fraction.isEmpty then (.zero false, cs)
    else
      let (exponent, rest) :=
        match rest with
        | c :: after =>
          if c = 'e' ∨ c = 'E' then
            let (down, ds) :=
              match after with
              | '-' :: ds => (true, ds)
              | '+' :: ds => (false, ds)
              | ds => (false, ds)
            if ds.head?.any isDigit then
              let (n, rest) := Arithmetic.digitsOf 10 ds
              (if down then -(n : Int) else n, rest)
            else (0, rest)
          else (0, rest)
        | [] => (0, [])
      (.ofDecimal negative (Arithmetic.digitsOf 10 (whole ++ fraction)).1 (exponent - fraction.length), rest)

/-! ## Formats -/

/-- What has been written, and what is left of the arguments. -/
structure Printing where
  /-- The characters written, the last one first. -/
  written : List Char
  /-- What is wrong with arguments, the last one first. -/
  complaints : List String
  arguments : List String
  /-- Whether nothing more is to be written. -/
  isOver : Bool

/-- The outcome of a format: what it writes, what is said of its arguments, and why it is no format. -/
structure Printed where
  output : List Char
  complaints : List String
  failure : Option String

abbrev Printer := StateT Printing (Except (Printing × String))

namespace Printer

def write (cs : List Char) : Printer Unit :=
  modify fun p => { p with written := cs.reverse ++ p.written }

/-- The next argument. -/
def next : Printer (Option String) := do
  let p ← get
  match p.arguments with
  | [] => return none
  | a :: rest =>
    set { p with arguments := rest }
    return some a

/-- Says what is wrong with an argument of which only `rest` was not read. -/
def complain (argument : String) (rest : List Char) (inRange : Bool) : Printer Unit := do
  let complaint? :=
    if !rest.isEmpty then
      some (argument ++
        (if rest.length = argument.length then ": expected numeric value" else ": not completely converted"))
    else if !inRange then some (argument ++ ": Numerical result out of range")
    else none
  match complaint? with
  | some s => modify fun p => { p with complaints := s :: p.complaints }
  | none => return

/-- The next argument as an integer. A quote makes it the code of a character. -/
def nextInteger (isSigned : Bool) : Printer Int := do
  match ← next with
  | none => return 0
  | some a =>
    match a.toList with
    | '\'' :: rest | '"' :: rest => return (rest.headD '\x00').toNat
    | cs =>
      let (n, rest) := Arithmetic.leadingNumber none cs
      let low := if isSigned then Arithmetic.least else 1 - 2 ^ 64
      let high := if isSigned then Arithmetic.greatest else 2 ^ 64 - 1
      complain a rest (low ≤ n && n ≤ high)
      return if n < low then (if isSigned then low else high) else min n high

/-- The next argument as a real number. -/
def nextReal : Printer Binary64 := do
  match ← next with
  | none => return .zero false
  | some a =>
    match a.toList with
    | '\'' :: rest | '"' :: rest => return .ofInt (rest.headD '\x00').toNat
    | cs =>
      let (x, rest) := leadingReal cs
      complain a rest true
      return x

/-- The width or the precision at the start of the rest of a directive: an argument, or digits. -/
def size (cs : List Char) : Printer (Option Int × List Char) := do
  match cs with
  | '*' :: rest => return (some (← nextInteger true), rest)
  | _ =>
    let ds := cs.takeWhile fun c => isDigit c || c == '*'
    return (if ds.isEmpty then none else some (Arithmetic.digitsOf 10 ds).1, cs.drop ds.length)

/-- The directive behind a percent sign, and what follows it. -/
def directive (cs : List Char) : Printer (List Char) := do
  let flags := cs.takeWhile fun c => ['#', '-', '+', ' ', '0'].contains c
  let (width, rest) ← size (cs.drop flags.length)
  let (precision, rest) ←
    match rest with
    | '.' :: rest => do
      let (p, rest) ← size rest
      pure (some (p.getD 0), rest)
    | _ => pure (none, rest)
  let width := width.getD 0
  let d : Directive :=
    { flags := if width < 0 then '-' :: flags else flags
      width := width.natAbs
      precision := precision.bind fun p => if p < 0 then none else some p.toNat }
  match rest with
  | [] => throw (← get, "missing format character")
  | c :: after =>
    if c = 'b' then
      let (text, stops) := unescaped ((← next).getD "")
      write (d.text text)
      if stops then modify fun p => { p with isOver := true }
    else if c = 'c' then write (d.fill [((← next).getD "").toList.headD '\x00'])
    else if c = 's' then write (d.text ((← next).getD "").toList)
    else if c = 'd' || c = 'i' then write (d.signed (← nextInteger true))
    else if ['o', 'u', 'x', 'X'].contains c then
      write (d.plain c (Arithmetic.bits (← nextInteger false)))
    else if ['e', 'E', 'f', 'F', 'g', 'G'].contains c then write (d.real c (← nextReal))
    else
      throw (← get, String.ofList ('%' :: cs.take (cs.length - after.length)) ++ ": invalid directive")
    return after

/-- Goes through a format once. -/
def once : (fuel : Nat) → List Char → Printer Unit
  | 0, _ => return
  | _ + 1, [] => return
  | fuel + 1, '\\' :: cs => do
    let (c, rest) := escape cs
    write [c]
    once fuel rest
  | fuel + 1, '%' :: '%' :: cs => do
    write ['%']
    once fuel cs
  | fuel + 1, '%' :: cs => do
    let rest ← directive cs
    if !(← get).isOver then once fuel rest
  | fuel + 1, c :: cs => do
    write [c]
    once fuel cs

/-- Goes through a format as long as it takes arguments and some are left. -/
def again (format : List Char) : (fuel : Nat) → Printer Unit
  | 0 => return
  | fuel + 1 => do
    let before := (← get).arguments.length
    once (format.length + 1) format
    let p ← get
    if !p.isOver && !p.arguments.isEmpty && p.arguments.length < before then again format fuel

end Printer

/-- What `printf` writes. -/
def printf (format : String) (arguments : List String) : Printed :=
  let start : Printing := ⟨[], [], arguments, false⟩
  let (p, failure) :=
    match (Printer.again format.toList (arguments.length + 1)).run start with
    | .ok ((), p) => (p, none)
    | .error (p, message) => (p, some message)
  ⟨p.written.reverse, p.complaints.reverse, failure⟩

end Format

end AddonAtlas.Shell
