import AddonAtlas.Regex.Matcher
import AddonAtlas.Text.Character

/-!
# The declaration grammar

A model is declared on one line: blanks, `_name` or `_inherit`, an equals sign between blanks, a
value between two equal quotes, and white space to the end. A pattern is this grammar with a
condition on the value. It is rendered twice: as an extended regular expression for the search
program (`grepExpression`), and as an expression over characters (`regex`), by which a line's value
is read back (`matchValue`).
-/

namespace AddonAtlas

open AddonAtlas.Text

/-- How a query is compared with the declared value. -/
inductive SearchMode
  /-- The value is the query. -/
  | strict
  /-- The value holds the query. -/
  | substring
deriving DecidableEq, Repr

namespace SearchMode

def name : SearchMode → String
  | strict => "strict"
  | substring => "substring"

def ofName? (s : String) : Option SearchMode :=
  if s = "strict" then some strict
  else if s = "substring" then some substring
  else none

theorem ofName?_name (m : SearchMode) : ofName? m.name = some m := by
  cases m <;> rfl

end SearchMode

/-- The grammar of a declaration line, with a condition on its value. -/
inductive DeclarationPattern
  /-- Any value. -/
  | free
  /-- This value. -/
  | exactly (query : String)
  /-- Any value that holds this text. -/
  | containing (query : String)
deriving DecidableEq, Repr

namespace DeclarationPattern

/-- The pattern of a mode and a query. Without a query, or with an empty one, every value will do; a
query without a mode is looked for inside the value. -/
def of (mode : Option SearchMode) (query : Option String) : DeclarationPattern :=
  match query with
  | none => free
  | some q =>
    if q = "" then free
    else
      match mode with
      | some .strict => exactly q
      | _ => containing q

/-- The pattern by which any declaration's value is read. -/
def identity : DeclarationPattern :=
  free

def mode? : DeclarationPattern → Option SearchMode
  | free => none
  | exactly _ => some .strict
  | containing _ => some .substring

def query? : DeclarationPattern → Option String
  | free => none
  | exactly q => some q
  | containing q => some q

/-- The attributes that declare a model. -/
def attributes : List String := ["_name", "_inherit"]

/-! ## For the search program -/

/-- Characters with a meaning of their own in an extended regular expression. -/
def extendedSpecial : List Char :=
  ['\\', '^', '$', '.', '|', '?', '*', '+', '(', ')', '[', ']', '\x7b', '\x7d']

/-- A text as an extended regular expression that takes just this text. -/
def escapeExtended (s : String) : String :=
  String.ofList (s.toList.flatMap fun c => if extendedSpecial.contains c then ['\\', c] else [c])

/-- The value's part of the expression for the search program. -/
def extendedValue : DeclarationPattern → String
  | free => ".*"
  | exactly q => escapeExtended q
  | containing q => ".*" ++ escapeExtended q ++ ".*"

/-- The grammar as an extended regular expression. -/
def grepExpression (p : DeclarationPattern) : String :=
  "^[[:blank:]]*(" ++ "|".intercalate attributes ++ ")[[:blank:]]*=[[:blank:]]*([\"'])(" ++
    p.extendedValue ++ ")\\2[[:space:]]*$"

/-! ## Over characters -/

/-- What may stand around the equals sign and in front. -/
def blank : SymbolClass Char := .oneOf [' ', '\t']

/-- What may stand after the closing quote. -/
def lineEnd : SymbolClass Char := .oneOf [' ', '\t', '\r']

def quote : SymbolClass Char := .oneOf ['"', '\'']

def anyButNewline : SymbolClass Char := .noneOf ['\n']

/-- The value's part of the expression over characters. -/
def valueRegex : DeclarationPattern → Regex Char
  | free => .many anyButNewline
  | exactly q => .literal q.toList
  | containing q =>
    .seq (.many anyButNewline) (.seq (.literal q.toList) (.many anyButNewline))

/-- The attribute's part of the expression over characters. -/
def attributeRegex : Regex Char :=
  .alt (.literal "_name".toList) (.literal "_inherit".toList)

/-- The grammar as an expression over characters; group 3 takes the value. -/
def regex (p : DeclarationPattern) : Regex Char :=
  .seq .atStart <| .seq (.many blank) <| .seq (.group 1 attributeRegex) <| .seq (.many blank) <|
    .seq (.one (.only '=')) <| .seq (.many blank) <| .seq (.group 2 (.one quote)) <|
    .seq (.group 3 p.valueRegex) <| .seq (.back 2) <| .seq (.many lineEnd) .atEnd

/-- Whether a character ends a line. -/
def isLineBreak (c : Char) : Bool :=
  c == '\r' || c == '\n'

/-- The value declared on a line, if the whole line, without the line breaks at its end, fits the
pattern. -/
def matchValue (p : DeclarationPattern) (line : String) : Option String :=
  let chars := (dropEndWhile isLineBreak line.toList).toArray
  ((p.regex.match? (Word.ofArray chars)).bind (·.find? 3)).map fun (i, j) =>
    String.ofList (chars.extract i j).toList

end DeclarationPattern

/-! ## The written form of an expression over characters -/

namespace Regex

/-- Characters that a written expression escapes. -/
def special : List Char :=
  ['(', ')', '[', ']', '\x7b', '\x7d', '?', '*', '+', '-', '|', '^', '$', '\\', '.', '&', '~', '#',
    ' ', '\t', '\n', '\r', '\x0b', '\x0c']

/-- A member of a bracketed class. -/
def memberSource (c : Char) : List Char :=
  if c = '\t' then ['\\', 't'] else if c = '\r' then ['\\', 'r'] else [c]

def classSource : SymbolClass Char → List Char
  | .only c => if special.contains c then ['\\', c] else [c]
  | .oneOf cs => '[' :: cs.flatMap memberSource ++ [']']
  | .noneOf cs => if cs = ['\n'] then ['.'] else '[' :: '^' :: cs.flatMap memberSource ++ [']']

/-- The text of an expression. -/
def source : Regex Char → List Char
  | empty => []
  | atStart => ['^']
  | atEnd => ['$']
  | one c => classSource c
  | many c => classSource c ++ ['*']
  | seq r s => source r ++ source s
  | alt r s => source r ++ '|' :: source s
  | group _ r => '(' :: source r ++ [')']
  | back n => '\\' :: (toString n).toList

end Regex

/-- The written form of a pattern's expression over characters. -/
def DeclarationPattern.regexSource (p : DeclarationPattern) : String :=
  String.ofList p.regex.source

end AddonAtlas
