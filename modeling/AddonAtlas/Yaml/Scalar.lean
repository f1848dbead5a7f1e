import AddonAtlas.Calendar
import AddonAtlas.Number.Integer
import AddonAtlas.Number.Real
import AddonAtlas.Yaml.Cursor

/-!
# Tags and the texts of scalars

A tag says what a node is. A plain scalar has no tag of its own; its text decides: words for truth
values and for nothing, integers and real numbers in several notations, dates and moments. All other
texts are texts.
-/

namespace AddonAtlas.Yaml

open AddonAtlas.Number

inductive Tag
  | null
  | bool
  | int
  | real
  | binary
  | timestamp
  | orderedMap
  | pairs
  | set
  | text
  | sequence
  | mapping
  /-- The entries of another mapping belong here. -/
  | merge
  /-- The value of a mapping that stands for one. -/
  | default
  | other
deriving DecidableEq, Repr

namespace Tag

/-- The names of tags that are known. -/
def names : List (String × Tag) :=
  [("null", null), ("bool", bool), ("int", int), ("float", real), ("binary", binary),
    ("timestamp", timestamp), ("omap", orderedMap), ("pairs", pairs), ("set", set), ("str", text),
    ("seq", sequence), ("map", mapping), ("merge", merge), ("value", default)]

def ofName (name : String) : Tag :=
  ((names.find? fun n => "tag:yaml.org,2002:" ++ n.1 = name).map (·.2)).getD other

end Tag

/-! ## Shapes of plain texts -/

def nullWords : List String := ["", "~", "null", "Null", "NULL"]

def trueWords : List String := ["yes", "Yes", "YES", "true", "True", "TRUE", "on", "On", "ON"]

def falseWords : List String := ["no", "No", "NO", "false", "False", "FALSE", "off", "Off", "OFF"]

def infinityWords : List String := [".inf", ".Inf", ".INF"]

def nanWords : List String := [".nan", ".NaN", ".NAN"]

/-- A text without one newline at its end. -/
def dropNewline (cs : List Char) : List Char :=
  if cs.getLast? = some '\n' then cs.dropLast else cs

/-- A text without its sign. -/
def unsigned (cs : List Char) : List Char :=
  (splitSign cs).2

def isDigitOrLine (c : Char) : Bool :=
  isDigit c || c == '_'

/-- A digit, then digits and underscores. -/
def isDigits (cs : List Char) : Bool :=
  cs.head?.any isDigit && cs.all isDigitOrLine

/-- A part behind a colon of a number in base sixty. -/
def isSixtieth (cs : List Char) : Bool :=
  cs.all isDigit && (cs.length == 1 || (cs.length == 2 && cs.head?.any (· ≤ '5')))

/-- At least two parts between colons, the first of them satisfying `first`. -/
def isSexagesimal (first : List Char → Bool) (cs : List Char) : Bool :=
  match cs.splitOn ':' with
  | a :: b :: rest => first a && (b :: rest).all isSixtieth
  | _ => false

/-- Digits of a base behind its mark. -/
def isMarked (mark : List Char) (digit : Char → Bool) (cs : List Char) : Bool :=
  mark.isPrefixOf cs && mark.length < cs.length &&
    (cs.drop mark.length).all fun c => digit c || c == '_'

def isIntText (cs : List Char) : Bool :=
  let cs := unsigned cs
  let positive (ds : List Char) : Bool := ds.head? != some '0' && isDigits ds
  isMarked ['0', 'b'] (fun c => c == '0' || c == '1') cs ||
    isMarked ['0', 'x'] (fun c => (hexValue? c).isSome) cs ||
    isMarked ['0'] (fun c => '0' ≤ c && c ≤ '7') cs || cs == ['0'] || positive cs ||
    isSexagesimal positive cs

/-- A sign and digits behind an `e`, or nothing. -/
def isExponent : List Char → Bool
  | [] => true
  | e :: sign :: ds =>
    (e == 'e' || e == 'E') && (sign == '-' || sign == '+') && !ds.isEmpty && ds.all isDigit
  | _ => false

def isRealText (cs : List Char) : Bool :=
  let body := unsigned cs
  let whole := body.takeWhile (· != '.')
  let fraction := (body.dropWhile (· != '.')).drop 1
  let hasPoint := body.contains '.'
  infinityWords.contains (String.ofList body) || nanWords.contains (String.ofList cs) ||
    (hasPoint && isDigits whole && isExponent (fraction.dropWhile isDigitOrLine)) ||
    (hasPoint && cs.head? == some '.' && fraction.head?.any isDigit &&
      isExponent (fraction.dropWhile isDigitOrLine)) ||
    (hasPoint && isSexagesimal isDigits whole && fraction.all isDigitOrLine)

/-! ## Timestamps -/

/-- The numbers of a timestamp as written. -/
structure Timestamp where
  year : List Char
  month : List Char
  day : List Char
  /-- Hour, minute, second and the digits of the fraction. -/
  time : Option (List Char × List Char × List Char × List Char)
  /-- The offset in minutes. -/
  offset : Option Int

/-- Digits at the start of a text, as many as there are, and what follows them. -/
def digitsOf (least most : Nat) (cs : List Char) : Option (List Char × List Char) :=
  let ds := (cs.take most).takeWhile isDigit
  if ds.length < least then none else some (ds, cs.drop ds.length)

def after? (c : Char) : List Char → Option (List Char)
  | [] => none
  | x :: rest => if x = c then some rest else none

def ofAsciiDigits (ds : List Char) : Nat :=
  ofDigits (ds.map fun c => c.toNat - 48)

/-- An offset from universal time at the end of a text. -/
def offset? (cs : List Char) : Option (Option Int) :=
  match cs.dropWhile isBlank with
  | [] => if cs.isEmpty then some none else none
  | ['Z'] => some (some 0)
  | sign :: rest => do
    if sign ≠ '+' ∧ sign ≠ '-' then none
    let (hours, rest) ← digitsOf 1 2 rest
    let minutes ←
      match rest with
      | [] => some []
      | _ => do
        let (minutes, rest) ← digitsOf 2 2 (← after? ':' rest)
        if rest.isEmpty then some minutes else none
    let n : Int := 60 * ofAsciiDigits hours + ofAsciiDigits minutes
    return some (if sign = '-' then -n else n)

/-- The time of day behind a date, with the offset. -/
def timeOfDay? (cs : List Char) :
    Option ((List Char × List Char × List Char × List Char) × Option Int) := do
  let rest ←
    match cs with
    | 'T' :: rest | 't' :: rest => some rest
    | _ => if cs.head?.any isBlank then some (cs.dropWhile isBlank) else none
  let (hour, rest) ← digitsOf 1 2 rest
  let (minute, rest) ← digitsOf 2 2 (← after? ':' rest)
  let (second, rest) ← digitsOf 2 2 (← after? ':' rest)
  let (fraction, rest) :=
    match rest with
    | '.' :: rest => (rest.takeWhile isDigit, rest.dropWhile isDigit)
    | _ => ([], rest)
  let offset ← offset? rest
  return ((hour, minute, second, fraction), offset)

/-- The parts of a timestamp: a date, perhaps with a time of day. -/
def Timestamp.of? (cs : List Char) : Option Timestamp := do
  let (year, rest) ← digitsOf 4 4 cs
  let (month, rest) ← digitsOf 1 2 (← after? '-' rest)
  let (day, rest) ← digitsOf 1 2 (← after? '-' rest)
  if rest.isEmpty then return ⟨year, month, day, none, none⟩
  let (time, offset) ← timeOfDay? rest
  return ⟨year, month, day, some time, offset⟩

/-- A date alone has two digits for the month and for the day. -/
def isTimestampText (cs : List Char) : Bool :=
  match Timestamp.of? cs with
  | none => false
  | some t => t.time.isSome || (t.month.length == 2 && t.day.length == 2)

/-- The tag of a plain scalar. -/
def plainTag (text : String) : Tag :=
  let cs := dropNewline text.toList
  let word := String.ofList cs
  if text = "" then .null
  else if cs.isEmpty then .text
  else if trueWords.contains word || falseWords.contains word then .bool
  else if isRealText cs then .real
  else if isIntText cs then .int
  else if word = "<<" then .merge
  else if nullWords.contains word then .null
  else if isTimestampText cs then .timestamp
  else if word = "=" then .default
  else if ["!", "&", "*"].contains word then .other
  else .text

end AddonAtlas.Yaml
