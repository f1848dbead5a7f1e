import AddonAtlas.Shell.Machine
import AddonAtlas.Shell.Quotation

/-!
# Quoting in the wide dialect

Texts written so that the wide dialect reads them back: with backslashes, between apostrophes, between double
quotes, or with escapes between quotes that keep them. From these are made the lines that show variables.
-/

namespace AddonAtlas.Shell.Wide

/-- Whether a text can only be written with escapes. -/
def needsEscapes (s : String) : Bool :=
  s.toList.any fun c => !Quotation.isPrintable c

/-- A text between quotes that keep escapes. -/
def escaped (s : String) : String :=
  String.ofList ('$' :: '\'' :: s.toList.flatMap shown ++ ['\''])
where
  /-- A character between the quotes. -/
  shown (c : Char) : List Char :=
    if c = '\x1b' then ['\\', 'E']
    else
      match Quotation.escape? c with
      | some e => '\\' :: e
      | none => if c = '\'' || c = '\\' then ['\\', c] else [c]

/-- A text between apostrophes. -/
def apostrophed (s : String) : String :=
  if s = "'" then "\\'"
  else String.ofList ('\'' :: s.toList.flatMap (fun c => if c = '\'' then ['\'', '\\', '\'', '\''] else [c]) ++ ['\''])

/-- A text between double quotes, or with escapes if it needs them. -/
def doubled (s : String) : String :=
  if needsEscapes s then escaped s
  else
    let shown (c : Char) : List Char :=
      if c = '"' || c = '$' || c = '\\' || c = Char.ofNat 96 then ['\\', c] else [c]
    String.ofList ('"' :: s.toList.flatMap shown ++ ['"'])

/-- A text that can be used again, always in quotes. -/
def reusable (s : String) : String :=
  if s.isEmpty then "''" else if needsEscapes s then escaped s else apostrophed s

/-- Characters in front of which a backslash stands. -/
def meaningful : List Char :=
  Char.ofNat 96 :: " \t\n!\"$&'()*,;<>?[\\]^\x7b|\x7d".toList

/-- A text with backslashes in front of what means something. -/
def backslashed (s : String) : String :=
  if s.isEmpty then "''"
  else if needsEscapes s then escaped s
  else
    let cs := s.toList
    String.ofList ((cs.zip ('\x00' :: cs)).zipIdx.flatMap fun ((c, before), i) =>
      let isStart := i = 0 && (c = '#' || c = '~')
      let isHome := c = '~' && (before = '=' || before = ':')
      if meaningful.contains c || isStart || isHome then ['\\', c] else [c])

/-- Whether anything in a text would mean something to the shell. -/
def isMeaningful (s : String) : Bool :=
  let cs := s.toList
  (cs.zip ('\x00' :: cs)).zipIdx.any fun ((c, before), i) =>
    (meaningful.contains c && c != ',') ||
      (c = '~' && (i = 0 || before = '=' || before = ':')) ||
      (c = '#' && (i = 0 || before = ' '))

/-- A word in a trace. -/
def tracedWord (s : String) : String :=
  if s.isEmpty then "''" else if isMeaningful s then apostrophed s else s

/-- A value in a list of all variables. -/
def listedValue (s : String) : String :=
  if needsEscapes s then escaped s else if isMeaningful s then apostrophed s else s

/-- A place in a list as it is written. -/
def placeText (p : String) : String :=
  if needsEscapes p then escaped p
  else if isMeaningful p || p = "@" || p = "*" then doubled p
  else p

/-- The values of a list with their places, as a list is written. -/
def listText (e : Elements) : String :=
  let items := e.listed.map fun (p, v) => "[" ++ placeText p ++ "]=" ++ doubled v
  "(" ++ " ".intercalate items ++ (if e.isNamed && !items.isEmpty then " )" else ")")

/-- The letters of a variable's attributes. -/
def attributes (v : Variable) : String :=
  let list := match v.elements with
    | some e => if e.isNamed then "A" else "a"
    | none => ""
  let has (c : Char) : String := if v.traits.contains c then String.ofList [c] else ""
  list ++ has 'i' ++ has 'n' ++ (if v.isFixed then "r" else "") ++ (if v.isExported then "x" else "") ++
    has 'c' ++ has 'l' ++ has 'u'

/-- The command that makes a variable what it is. -/
def declaration (name : String) (v : Variable) : String :=
  let letters := attributes v
  "declare -" ++ (if letters.isEmpty then "-" else letters) ++ " " ++ name ++
    (match v.elements, v.value with
    | some e, _ => if e.items.isEmpty && !e.isAssigned then "" else "=" ++ listText e
    | none, some s => "=" ++ doubled s
    | none, none => "")

/-- The text that gives a variable what it holds. -/
def assignmentText (name : String) (v : Variable) : String :=
  let letters := attributes v
  match v.elements, v.value with
  | some _, _ => declaration name v
  | none, some s =>
    (if letters.isEmpty then "" else "declare -" ++ letters ++ " ") ++ name ++ "=" ++ reusable s
  | none, none => declaration name v

end AddonAtlas.Shell.Wide
