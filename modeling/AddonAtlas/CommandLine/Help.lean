import AddonAtlas.CommandLine.Arguments
import AddonAtlas.Number.Integer

/-!
# What the program says about itself

The usage of the program, which stands in front of every refusal, and its help. Both are laid out for the
width of a screen.

A text is divided into lines of at most some width. A line ends at blanks, which are left out there, or
behind the hyphen of a hyphenated word. What is too long for any line is cut.
-/

namespace AddonAtlas

/-! ## Wrapped text -/

namespace Text

namespace Wrap

/-- A part of a text that stays in one line if it fits. -/
abbrev Piece := List Char

/-- Whether a hyphen at the end of a part of a word, with the last characters in front of it, and with what
follows, is one between two words. -/
def endsPart (before after : List Char) : Bool :=
  match before, after with
  | '-' :: a :: b :: _, c :: d :: _ => a.isAlpha && b.isAlpha && c.isAlpha && d.isAlpha
  | _, _ => false

/-- The pieces of a text: runs of blanks, words, and the parts of hyphenated words. -/
def pieces (cs : List Char) : List Piece :=
  go [] cs
where
  /-- Goes on from a piece that has begun, the last character first. -/
  go (current : Piece) : List Char → List Piece
    | [] => if current.isEmpty then [] else [current.reverse]
    | c :: cs =>
      match current with
      | [] => go [c] cs
      | d :: _ =>
        if (c == ' ') != (d == ' ') || endsPart current (c :: cs) then current.reverse :: go [c] cs
        else go (c :: current) cs

/-- How much of a piece is put at the end of a line with some space left, if it is too long for any line:
the part up to the last hyphen there, or as much as fits. -/
def cut (space : Nat) (p : Piece) : Nat :=
  let front := p.take space
  let afterHyphen := front.length - (front.reverse.takeWhile (· != '-')).length
  if space < p.length && (front.take (afterHyphen - 1)).any (· != '-') then afterHyphen else space

/-- The pieces that fit into a line, the last one first, the space that is left, and the other pieces. -/
def fit : (space : Nat) → (line : List Piece) → List Piece → List Piece × Nat × List Piece
  | space, line, [] => (line, space, [])
  | space, line, p :: rest =>
    if p.length ≤ space then fit (space - p.length) (p :: line) rest else (line, space, p :: rest)

/-- Whether a piece is left out at the end of a line. -/
def isBlank (p : Piece) : Bool :=
  p.all (· == ' ')

/-- Divides pieces into lines. -/
def lines (width : Nat) : (fuel : Nat) → (isFirst : Bool) → List Piece → List String
  | 0, _, _ | _ + 1, _, [] => []
  | fuel + 1, isFirst, p :: rest =>
    let rest := if isBlank p && !isFirst then rest else p :: rest
    let (line, space, rest) := fit width [] rest
    let (line, rest) :=
      match rest with
      | [] => (line, [])
      | q :: others =>
        if width < q.length then (q.take (cut space q) :: line, q.drop (cut space q) :: others)
        else (line, q :: others)
    let line :=
      match line with
      | q :: others => if isBlank q then others else q :: others
      | [] => []
    if line.isEmpty then lines width fuel isFirst rest
    else String.ofList line.reverse.flatten :: lines width fuel false rest

end Wrap

/-- The lines of a text, none of them longer than a width of at least one. -/
def wrapped (width : Nat) (s : String) : List String :=
  Wrap.lines width (2 * s.length + 2) true (Wrap.pieces s.toList)

end Text

/-! ## Usage and help -/

namespace CommandLine

open AddonAtlas.Text

/-- How many characters fit into a line. -/
abbrev Columns := Int

/-- The width of a screen of which nothing is known. -/
def usualColumns : Columns := 80

/-- The width that a variable gives, if it gives one. -/
def columnsOf (setting : Option String) : Columns :=
  match setting.map Number.readInteger with
  | some (.ok n) => if 0 < n then n else usualColumns
  | _ => usualColumns

/-- The width of texts: two characters are left free. -/
def textWidth (c : Columns) : Int :=
  c - 2

namespace Flag

/-- How the argument of an option is called. -/
def argumentName? : Flag → Option String
  | addonsPath => some "ADDONS_PATH"
  | transport => some "\x7bstdio,sse\x7d"
  | help | indexOnly => none

def explanation : Flag → String
  | help => "show this help message and exit"
  | addonsPath => "Comma-separated addons roots (overrides ODOO_ADDONS_PATH)"
  | transport => "MCP transport (default: stdio)"
  | indexOnly => "Build the model index, log a summary and exit"

def all : List Flag := [help, addonsPath, transport, indexOnly]

/-- A spelling with the argument behind it. -/
def withArgument (f : Flag) (spelling : String) : String :=
  spelling ++ (f.argumentName?.map (" " ++ ·)).getD ""

/-- An option in the usage. -/
def inUsage (f : Flag) : String :=
  let spelling := ((spellings.find? fun x => x.2 = f).map (·.1)).getD ""
  "[" ++ f.withArgument spelling ++ "]"

/-- An option at the head of its explanation. -/
def heading (f : Flag) : String :=
  ", ".intercalate ((spellings.filter fun x => x.2 = f).map fun x => f.withArgument x.1)

end Flag

def blanks (n : Nat) : String :=
  String.ofList (List.replicate n ' ')

/-- Puts parts into lines that begin at an indentation, no line longer than a width if it has more than one
part. The first line is as far filled already as is said. -/
def arrange (width : Int) (indentation : Nat) : (used : Nat) → (line : List String) → List String →
    List String
  | _, line, [] => if line.isEmpty then [] else [" ".intercalate line.reverse]
  | used, line, part :: rest =>
    if width < used + part.length && !line.isEmpty then
      " ".intercalate line.reverse ::
        arrange width indentation (indentation + part.length + 1) [part] rest
    else arrange width indentation (used + part.length + 1) (part :: line) rest

def usageMark : String := "usage: "

def programName : String := "odoo-mcp"

/-- The usage: in one line if it fits, else with the options behind the name, or below a name that takes up
most of a line. -/
def usage (columns : Columns) : String :=
  let width := textWidth columns
  let options := Flag.all.map Flag.inUsage
  let line := " ".intercalate (programName :: options)
  let body : List String :=
    if usageMark.length + line.length ≤ width then [line]
    else if 4 * ((usageMark.length + programName.length : Nat) : Int) ≤ 3 * width then
      let indentation := usageMark.length + programName.length + 1
      match arrange width indentation usageMark.length [] (programName :: options) with
      | first :: rest => first :: rest.map (blanks indentation ++ ·)
      | [] => []
    else
      programName ::
        (arrange width usageMark.length usageMark.length [] options).map (blanks usageMark.length ++ ·)
  usageMark ++ "\n".intercalate body ++ "\n"

/-- The least width that a text is given. -/
def leastWidth : Int := 11

/-- A text in lines of a width, or of the least one. -/
def textLines (width : Int) (s : String) : List String :=
  wrapped (max width leastWidth).toNat s

/-- An option and its explanation, which begins at a column: in the same line, if the option is short. -/
def explained (width : Int) (column : Nat) (f : Flag) : String :=
  let heading := "  " ++ f.heading
  let lines := textLines (width - column) f.explanation
  let rest (ls : List String) : String := String.join (ls.map fun l => blanks column ++ l ++ "\n")
  if heading.length + 2 ≤ column then
    heading ++ blanks (column - heading.length) ++ lines.headD "" ++ "\n" ++ rest (lines.drop 1)
  else heading ++ "\n" ++ rest lines

/-- The help: the usage, what the program is, and its options. -/
def helpText (columns : Columns) : String :=
  let width := textWidth columns
  let column := (min 24 (max (width - 20) 4)).toNat
  usage columns ++ "\n" ++
    "\n".intercalate (textLines width "odooMCP - MCP server for Odoo model declarations") ++
    "\n\noptions:\n" ++ String.join (Flag.all.map (explained width column))

/-- What is written when the command line is refused. -/
def refusalText (columns : Columns) (message : String) : String :=
  usage columns ++ programName ++ ": error: " ++ message ++ "\n"

end CommandLine

end AddonAtlas
