import AddonAtlas.Failure

/-!
# A place in a text

A `Cursor` stands at a character of a text and knows its index, line and column. Beyond the end of the
text there are NULs, which no text itself holds: `readable` refuses texts with characters that may not
be written out.
-/

namespace AddonAtlas.Yaml

/-- Why a text is no document. -/
inductive Fault
  /-- It is not well formed. -/
  | malformed
  /-- A value in it cannot be made. -/
  | value (failure : Failure)
deriving DecidableEq, Repr

/-! ## Classes of characters -/

/-- The NUL that stands for the end of the text. -/
def endOfText : Char := '\x00'

def isBreak (c : Char) : Bool :=
  c == '\n' || c == '\r' || c == '\x85' || c == '\u2028' || c == '\u2029'

/-- Whether a line ends here. -/
def endsLine (c : Char) : Bool :=
  c == endOfText || isBreak c

/-- Whether a directive's or a tag's part ends here. -/
def endsPart (c : Char) : Bool :=
  c == ' ' || endsLine c

/-- Whether an indicator that has to stand alone does so before this character. -/
def endsWord (c : Char) : Bool :=
  c == '\t' || endsPart c

def isBlank (c : Char) : Bool :=
  c == ' ' || c == '\t'

def isDigit (c : Char) : Bool :=
  '0' ≤ c && c ≤ '9'

/-- The characters of names of anchors, directives and tag handles. -/
def isNameChar (c : Char) : Bool :=
  isDigit c || ('A' ≤ c && c ≤ 'Z') || ('a' ≤ c && c ≤ 'z') || c == '-' || c == '_'

/-- The characters of a tag besides escaped ones. -/
def isUriChar (c : Char) : Bool :=
  isNameChar c || (";/?:@&=+$,.!~*'()[]").toList.contains c

/-- Whether a character may be written as it is. -/
def isReadable (c : Char) : Bool :=
  let n := c.toNat
  n == 0x09 || n == 0x0A || n == 0x0D || (0x20 ≤ n && n ≤ 0x7E) || n == 0x85 ||
    (0xA0 ≤ n && n ≤ 0xD7FF) || (0xE000 ≤ n && n ≤ 0xFFFD) || (0x10000 ≤ n && n ≤ 0x10FFFF)

/-- The mark of the byte order, which counts as nothing at the start of a text. -/
def byteOrderMark : Char := '\uFEFF'

/-- The value of a hexadecimal digit. -/
def hexValue? (c : Char) : Option Nat :=
  if isDigit c then some (c.toNat - 48)
  else if 'A' ≤ c && c ≤ 'F' then some (c.toNat - 55)
  else if 'a' ≤ c && c ≤ 'f' then some (c.toNat - 87)
  else none

/-- The number written in hexadecimal digits, if there are only such. -/
def hexNumber? (cs : List Char) : Option Nat :=
  cs.foldlM (fun n c => (hexValue? c).map (16 * n + ·)) 0

/-! ## Cursors -/

structure Cursor where
  /-- The text from here on. -/
  rest : List Char
  /-- The number of characters of the whole text. -/
  size : Nat
  index : Nat
  line : Nat
  column : Nat

namespace Cursor

def start (text : List Char) : Cursor :=
  ⟨text, text.length, 0, 0, 0⟩

/-- The number of characters from here on. It bounds what can be read here. -/
def left (c : Cursor) : Nat :=
  c.size - c.index

/-- The character at a distance. -/
def peek (c : Cursor) (distance : Nat := 0) : Char :=
  c.rest.getD distance endOfText

/-- One character further. -/
def next (c : Cursor) : Cursor :=
  match c.rest with
  | [] => c
  | x :: rest =>
    if isBreak x && !(x == '\r' && rest.head? == some '\n') then
      ⟨rest, c.size, c.index + 1, c.line + 1, 0⟩
    else ⟨rest, c.size, c.index + 1, c.line, if x == byteOrderMark then c.column else c.column + 1⟩

def skip (c : Cursor) : Nat → Cursor
  | 0 => c
  | n + 1 => c.next.skip n

/-- The characters from here on that satisfy `p`, and the cursor after them. -/
def span (p : Char → Bool) (c : Cursor) : List Char × Cursor :=
  let taken := c.rest.takeWhile p
  (taken, c.skip taken.length)

def skipWhile (p : Char → Bool) (c : Cursor) : Cursor :=
  (c.span p).2

/-- Skips a comment, up to the end of the line. -/
def skipComment (c : Cursor) : Cursor :=
  if c.peek == '#' then c.skipWhile fun x => !endsLine x else c

/-- The line break that stands here, as it is read, and the cursor after it. -/
def lineBreak (c : Cursor) : List Char × Cursor :=
  let x := c.peek
  if x == '\r' && c.peek 1 == '\n' then (['\n'], c.skip 2)
  else if x == '\r' || x == '\n' || x == '\x85' then (['\n'], c.next)
  else if isBreak x then ([x], c.next)
  else ([], c)

/-- Whether three of a character stand here as a word. -/
def atTriple (c : Cursor) (x : Char) : Bool :=
  c.peek == x && c.peek 1 == x && c.peek 2 == x && endsWord (c.peek 3)

/-- Whether a mark between documents stands here. -/
def atDocumentMark (c : Cursor) : Bool :=
  c.atTriple '-' || c.atTriple '.'

/-- The rest of a line that may hold only blanks and a comment; the cursor goes to the next line. -/
def restOfLine (c : Cursor) : Except Fault Cursor :=
  let c := (c.skipWhile (· == ' ')).skipComment
  if endsLine c.peek then .ok c.lineBreak.2 else .error .malformed

end Cursor

end AddonAtlas.Yaml
