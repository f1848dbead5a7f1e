import AddonAtlas.Shell.Escaped
import AddonAtlas.Shell.Format
import AddonAtlas.Shell.Moment
import AddonAtlas.Shell.Wide.Quoting

/-!
# Formats of the wide dialect

The texts that `printf` writes in the wide dialect: with more escapes and directives than in the plain one, and
with real numbers of 64 binary digits.
-/

namespace AddonAtlas.Shell.Wide

open AddonAtlas.Number

/-- What a format has written and what it has left. -/
structure Printing where
  /-- The characters written, the last one first. -/
  written : List Char
  /-- What is said of the format and its arguments, the last one first. -/
  complaints : List String
  arguments : List String
  /-- Whether an argument could not be read. -/
  hasFailed : Bool
  /-- Whether nothing more is to be written. -/
  isOver : Bool
  /-- Variables to be given how much was written. -/
  counted : List (String × Nat)

abbrev Printer := StateM Printing

namespace Printer

def write (cs : List Char) : Printer Unit :=
  modify fun p => { p with written := cs.reverse ++ p.written }

/-- Says something, which may be a failure. -/
def complain (message : String) (isFailure : Bool) : Printer Unit :=
  modify fun p => { p with complaints := message :: p.complaints, hasFailed := p.hasFailed || isFailure }

/-- Says why the format is none, and ends. -/
def stop (message : String) : Printer Unit := do
  complain message true
  modify fun p => { p with isOver := true }

/-- The next argument. -/
def next : Printer (Option String) := do
  let p ← get
  match p.arguments with
  | [] => return none
  | a :: rest =>
    set { p with arguments := rest }
    return some a

/-- Says what is wrong with an argument that is a number no further than to its `rest`. -/
def check (a : String) (rest : List Char) (inRange : Bool) : Printer Unit := do
  let digits := a.toList.dropWhile fun c => Arithmetic.isSpace c || c == '+' || c == '-'
  let kind :=
    match digits with
    | '0' :: 'x' :: _ | '0' :: 'X' :: _ => "hex "
    | '0' :: c :: _ => if isDigit c then "octal " else ""
    | _ => ""
  if !rest.isEmpty then complain (a ++ ": invalid " ++ kind ++ "number") true
  else if !inRange then complain ("warning: " ++ a ++ ": Numerical result out of range") false

/-- The next argument as an integer. -/
def nextInteger (isSigned : Bool) : Printer Int := do
  match ← next with
  | none => return 0
  | some a =>
    match a.toList with
    | [] => return 0
    | '\'' :: rest | '"' :: rest => return (rest.headD '\x00').toNat
    | cs =>
      let (n, rest) := Arithmetic.leadingNumber none cs
      let low := if isSigned then Arithmetic.least else 1 - 2 ^ 64
      let high := if isSigned then Arithmetic.greatest else 2 ^ 64 - 1
      check a rest (low ≤ n && n ≤ high)
      return if n < low then (if isSigned then low else high) else min n high

/-- A real number of 64 binary digits, as an integer and the exponent of two that it is multiplied with. -/
def inBinary (num den : Nat) : Nat × Int :=
  if num = 0 then (0, 0)
  else
    let order : Int := (num.log2 : Int) - (den.log2 : Int)
    let fit (e : Int) : Nat :=
      let (a, b) := scaled den 2 e
      roundDiv (num * b) a
    let e := order - 63
    let m := fit e
    if m < 2 ^ 63 then (fit (e - 1), e - 1) else if 2 ^ 64 ≤ m then (fit (e + 1), e + 1) else (m, e)

/-- The decimal number at the start of a text as a sign, an integer and the exponent of ten. -/
def decimal? (cs : List Char) : Option (Bool × Nat × Int) :=
  let body := cs.dropWhile Arithmetic.isSpace
  let (negative, body) :=
    match body with
    | '-' :: rest => (true, rest)
    | '+' :: rest => (false, rest)
    | rest => (false, rest)
  let whole := body.takeWhile isDigit
  let rest := body.drop whole.length
  let (fraction, rest) :=
    match rest with
    | '.' :: after => (after.takeWhile isDigit, after.dropWhile isDigit)
    | _ => ([], rest)
  if whole.isEmpty && fraction.isEmpty then none
  else
    let exponent : Int :=
      match rest with
      | c :: after =>
        if c = 'e' ∨ c = 'E' then
          let (down, ds) :=
            match after with
            | '-' :: ds => (true, ds)
            | '+' :: ds => (false, ds)
            | ds => (false, ds)
          let n : Int := (Arithmetic.digitsOf 10 ds).1
          if down then -n else n
        else 0
      | [] => 0
    some (negative, (Arithmetic.digitsOf 10 (whole ++ fraction)).1, exponent - fraction.length)

/-- The next argument as a real number in a directive. -/
def nextReal (d : Format.Directive) (letter : Char) : Printer (List Char) := do
  match ← next with
  | none => return d.real letter (.zero false)
  | some a =>
    match a.toList with
    | [] => return d.real letter (.zero false)
    | '\'' :: rest | '"' :: rest => return d.real letter (.ofInt (rest.headD '\x00').toNat)
    | cs =>
      let (x, rest) := Format.leadingReal cs
      if !rest.isEmpty then complain (a ++ ": invalid number") true
      match x, decimal? cs with
      | .finite .., some (negative, n, e) =>
        let isHexadecimal := "0x".toList.isPrefixOf (cs.dropWhile fun c => !isDigit c)
        if isHexadecimal || e < -5000 || 5000 < e then return d.real letter x
        else
          let (num, den) := scaled n 10 e
          let (m, e) := inBinary num den
          let upper (cs : List Char) := if letter.isUpper then cs.map Char.toUpper else cs
          return d.fillNumber true (d.sign negative) (upper (d.finite letter.toLower m e))
      | x, _ => return d.real letter x

/-- The width or the precision at the start of the rest of a directive: an argument, or digits. -/
def size (cs : List Char) : Printer (Option Int × List Char) := do
  match cs with
  | '*' :: rest => return (some (← nextInteger true), rest)
  | _ =>
    let ds := cs.takeWhile isDigit
    return (if ds.isEmpty then none else some (Arithmetic.digitsOf 10 ds).1, cs.drop ds.length)

/-- The directive behind a percent sign, and what follows it. -/
def directive (cs : List Char) : Printer (List Char) := do
  let flags := cs.takeWhile fun c => ['#', '-', '+', ' ', '0', '\''].contains c
  let (width, rest) ← size (cs.drop flags.length)
  let (precision, rest) ←
    match rest with
    | '.' :: rest => do
      let (p, rest) ← size rest
      pure (some (p.getD 0), rest)
    | _ => pure (none, rest)
  let width := width.getD 0
  let d : Format.Directive :=
    { flags := if width < 0 then '-' :: flags else flags
      width := width.natAbs
      precision := precision.bind fun p => if p < 0 then none else some p.toNat }
  match rest with
  | '(' :: inner =>
    let format := inner.takeWhile (· != ')')
    match inner.drop format.length with
    | ')' :: 'T' :: after =>
      let seconds ← match (← get).arguments with
        | [] => pure (-1)
        | _ => nextInteger true
      let format := if format.isEmpty then "%X".toList else format
      write (d.text ((Moment.ofSeconds seconds).formatted format))
      return after
    | ')' :: _ :: after =>
      complain ("warning: " ++ String.ofList [Char.ofNat 96] ++ "(': invalid time format specification") false
      return after
    | _ =>
      stop (ScriptReader.named "(" ++ ": missing " ++ ScriptReader.named ")")
      return []
  | _ =>
    match rest.dropWhile fun c => "hjlLtz".toList.contains c with
    | [] =>
      stop (ScriptReader.named (String.ofList ('%' :: cs)) ++ ": missing format character")
      return []
    | c :: after =>
      match c with
      | 'b' =>
        let (text, stops) := Escaped.taking ((← next).getD "")
        write (d.text text)
        if stops then modify fun p => { p with isOver := true }
      | 'c' => write (d.fill [((← next).getD "").toList.headD '\x00'])
      | 's' => write (d.text ((← next).getD "").toList)
      | 'q' => write (d.text (backslashed ((← next).getD "")).toList)
      | 'Q' =>
        let s := ((← next).getD "").toList
        write (d.fill (backslashed (String.ofList (d.precision.elim s s.take))).toList)
      | 'n' =>
        let p ← get
        if let some name ← next then
          modify fun q => { q with counted := (name, p.written.length) :: q.counted }
      | _ =>
        if c = 'd' || c = 'i' then write (d.signed (← nextInteger true))
        else if ['o', 'u', 'x', 'X'].contains c then write (d.plain c (Arithmetic.bits (← nextInteger false)))
        else if ['e', 'E', 'f', 'F', 'g', 'G', 'a', 'A'].contains c then write (← nextReal d c)
        else stop (ScriptReader.named (String.ofList [c]) ++ ": invalid format character")
      return after

/-- Goes through a format once. -/
def once : (fuel : Nat) → List Char → Printer Unit
  | 0, _ => return
  | _ + 1, [] => return
  | fuel + 1, '\\' :: cs => do
    if cs.head? = some 'x' && !((cs.drop 1).head?.any fun c => Arithmetic.digitValue c < 16) then
      complain "missing hex digit for \\x" false
    if cs.head? = some 'c' then
      write ['\\']
      once fuel cs
    else
      let (text, rest) := Escaped.one Escaped.inFormats cs
      write text
      once fuel rest
  | fuel + 1, '%' :: '%' :: cs => do
    write ['%']
    once fuel cs
  | fuel + 1, '%' :: cs => do
    let rest ← directive cs
    if !(← get).isOver then once fuel rest
  | fuel + 1, c :: cs => do
    write [c]
    once fuel cs

/-- Goes through a format as long as it takes arguments and some are left. -/
def again (format : List Char) : (fuel : Nat) → Printer Unit
  | 0 => return
  | fuel + 1 => do
    let before := (← get).arguments.length
    once (format.length + 1) format
    let p ← get
    if !p.isOver && !p.arguments.isEmpty && p.arguments.length < before then again format fuel

end Printer

/-- What `printf` writes, and what it says. -/
def printed (format : String) (arguments : List String) : Printing :=
  ((Printer.again format.toList (arguments.length + 1)).run ⟨[], [], arguments, false, false, []⟩).2

end AddonAtlas.Shell.Wide
