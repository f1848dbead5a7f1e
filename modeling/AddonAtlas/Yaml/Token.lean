import AddonAtlas.Number.Integer
import AddonAtlas.Text.Character
import AddonAtlas.Text.Utf8
import AddonAtlas.Yaml.Cursor

/-!
# Tokens

The tokens of a document, and how those that have a text are read: names, tags, directives, and
scalars in their five styles. Each reader takes the cursor at the token's first character, and what
it gives comes with the cursor after the token. A text that grows while it is read is held with its
last character first.
-/

namespace AddonAtlas.Yaml

open AddonAtlas.Number

def Fault.ofInteger (f : IntegerFault) : Fault :=
  .value ⟨.value, f.message⟩

/-- A tag as written: its handle, if any, and the rest. -/
structure TagText where
  handle : Option String
  suffix : String
deriving DecidableEq, Repr

inductive Directive
  | version (major minor : Nat)
  | tag (handle leading : String)
  | other
deriving DecidableEq, Repr

inductive Token
  | directive (d : Directive)
  | documentStart
  | documentEnd
  | streamEnd
  | blockSequenceStart
  | blockMappingStart
  | blockEnd
  | flowSequenceStart
  | flowSequenceEnd
  | flowMappingStart
  | flowMappingEnd
  | blockEntry
  | flowEntry
  | key
  | value
  | alias (name : String)
  | anchor (name : String)
  | tag (t : TagText)
  | scalar (text : String) (plain : Bool)
deriving DecidableEq, Repr

namespace Token

/-! ## Names and tags -/

/-- A name of at least one character. -/
def readName (c : Cursor) : Except Fault (String × Cursor) :=
  let (name, c) := c.span isNameChar
  if name.isEmpty then .error .malformed else .ok (String.ofList name, c)

/-- Characters that may follow an anchor's or an alias's name. -/
def endsAnchor (c : Char) : Bool :=
  endsWord c || ("?:,]\x7d%@" ++ String.singleton (Char.ofNat 96)).toList.contains c

/-- The name behind an anchor's or an alias's sign. -/
def readAnchor (c : Cursor) : Except Fault (String × Cursor) := do
  let (name, c) ← readName c.next
  if endsAnchor c.peek then .ok (name, c) else .error .malformed

/-- A tag's handle: `!`, `!!` or `!name!`. -/
def readHandle (c : Cursor) : Except Fault (String × Cursor) :=
  if c.peek != '!' then .error .malformed
  else if c.peek 1 == ' ' then .ok ("!", c.next)
  else
    let (name, c) := c.next.span isNameChar
    if c.peek == '!' then .ok (String.ofList ('!' :: name ++ ['!']), c.next) else .error .malformed

/-- Bytes escaped by a percent sign and two digits each, as long as there are such. -/
def readEscapes : (fuel : Nat) → (bytes : List UInt8) → Cursor → Except Fault (List UInt8 × Cursor)
  | 0, bytes, c => .ok (bytes.reverse, c)
  | fuel + 1, bytes, c =>
    if c.peek != '%' then .ok (bytes.reverse, c)
    else
      match hexNumber? [c.peek 1, c.peek 2] with
      | none => .error .malformed
      | some n => readEscapes fuel (n.toUInt8 :: bytes) (c.skip 3)

/-- The characters of a tag, the last first. -/
def readUriOnto : (fuel : Nat) → (chars : List Char) → Cursor → Except Fault (List Char × Cursor)
  | 0, chars, c => .ok (chars, c)
  | fuel + 1, chars, c =>
    if c.peek == '%' then do
      let (bytes, c) ← readEscapes c.left [] c
      match Utf8.decode? bytes with
      | .error _ => .error .malformed
      | .ok cs => readUriOnto fuel (cs.reverseAux chars) c
    else if isUriChar c.peek then
      let (more, c) := c.span isUriChar
      readUriOnto fuel (more.reverseAux chars) c
    else .ok (chars, c)

/-- The characters of a tag, of which there has to be something written. -/
def readUri (c : Cursor) : Except Fault (String × Cursor) := do
  let (chars, after) ← readUriOnto c.left [] c
  if after.index = c.index then .error .malformed else .ok (String.ofList chars.reverse, after)

/-- A tag in one of its forms `!<uri>`, `!`, `!suffix` and `!handle!suffix`. -/
def readTag (c : Cursor) : Except Fault (TagText × Cursor) := do
  let (t, c) ←
    if c.peek 1 == '<' then do
      let (uri, c) ← readUri (c.skip 2)
      if c.peek == '>' then pure ((⟨none, uri⟩ : TagText), c.next) else .error .malformed
    else if endsWord (c.peek 1) then pure (⟨none, "!"⟩, c.next)
    else do
      let hasHandle := (c.next.rest.takeWhile fun x => !endsPart x).contains '!'
      let (handle, c) ← if hasHandle then readHandle c else pure ("!", c.next)
      let (suffix, c) ← readUri c
      pure (⟨some handle, suffix⟩, c)
  if endsPart c.peek then .ok (t, c) else .error .malformed

/-! ## Directives -/

/-- The number at the cursor, with no more digits than any integer may have. -/
def readDigits (c : Cursor) : Except Fault (Nat × Cursor) := do
  let (digits, c) := c.span isDigit
  if digits.isEmpty then .error .malformed
  else
    let n ← (readInteger (String.ofList digits)).mapError Fault.ofInteger
    .ok (n.toNat, c)

def readVersion (c : Cursor) : Except Fault (Directive × Cursor) := do
  let (major, c) ← readDigits (c.skipWhile (· == ' '))
  if c.peek != '.' then .error .malformed
  else
    let (minor, c) ← readDigits c.next
    if endsPart c.peek then .ok (.version major minor, c) else .error .malformed

def readTagDirective (c : Cursor) : Except Fault (Directive × Cursor) := do
  let (handle, c) ← readHandle (c.skipWhile (· == ' '))
  if c.peek != ' ' then .error .malformed
  else
    let (leading, c) ← readUri (c.skipWhile (· == ' '))
    if endsPart c.peek then .ok (.tag handle leading, c) else .error .malformed

/-- A directive with the rest of its line. -/
def readDirective (c : Cursor) : Except Fault (Directive × Cursor) := do
  let (name, c) ← readName c.next
  if !endsPart c.peek then .error .malformed
  else
    let (d, c) ←
      if name = "YAML" then readVersion c
      else if name = "TAG" then readTagDirective c
      else pure (.other, c.skipWhile fun x => !endsLine x)
    let c ← c.restOfLine
    .ok (d, c)

/-! ## Block scalars -/

/-- What is done with the line breaks at the end of a block scalar. -/
inductive Chomping
  | strip
  | clip
  | keep
deriving DecidableEq, Repr

def chomping? (c : Char) : Option Chomping :=
  if c = '+' then some .keep else if c = '-' then some .strip else none

/-- The digit that gives a block scalar's indentation, if there is one. -/
def readIncrement (c : Cursor) : Except Fault (Option Nat × Cursor) :=
  if isDigit c.peek then
    if c.peek == '0' then .error .malformed else .ok (some (c.peek.toNat - 48), c.next)
  else .ok (none, c)

/-- The indicators behind a block scalar's sign. -/
def readIndicators (c : Cursor) : Except Fault ((Chomping × Option Nat) × Cursor) := do
  let (result, c) ←
    match chomping? c.peek with
    | some chomping => do
      let (increment, c) ← readIncrement c.next
      pure ((chomping, increment), c)
    | none => do
      let (increment, c) ← readIncrement c
      match chomping? c.peek with
      | some chomping => pure ((chomping, increment), c.next)
      | none => pure ((.clip, increment), c)
  if endsPart c.peek then .ok (result, c) else .error .malformed

/-- Skips the indentation of a line, up to a column. -/
def skipIndentation (column : Nat) (c : Cursor) : Cursor :=
  c.skip ((c.rest.take (column - c.column)).takeWhile (· == ' ')).length

/-- The line breaks of empty lines in front of a line indented up to a column, the last first. -/
def emptyLines (column : Nat) : (fuel : Nat) → (breaks : List Char) → Cursor → List Char × Cursor
  | 0, breaks, c => (breaks, c)
  | fuel + 1, breaks, c =>
    let c := skipIndentation column c
    if isBreak c.peek then
      let (b, c) := c.lineBreak
      emptyLines column fuel (b.reverseAux breaks) c
    else (breaks, c)

/-- The line breaks of the empty lines in front of the first line, the last first, and the greatest
column reached on the way. -/
def leadingLines : (fuel : Nat) → (breaks : List Char) → (widest : Nat) → Cursor →
    (List Char × Nat) × Cursor
  | 0, breaks, widest, c => ((breaks, widest), c)
  | fuel + 1, breaks, widest, c =>
    if c.peek == ' ' then leadingLines fuel breaks (max widest c.next.column) c.next
    else if isBreak c.peek then
      let (b, c) := c.lineBreak
      leadingLines fuel (b.reverseAux breaks) widest c
    else ((breaks, widest), c)

/-- The lines of a block scalar: its text, the line break after its last line, and the line breaks of
the empty lines behind, all with the last character first. -/
def blockLines (folded : Bool) (column : Nat) : (fuel : Nat) → (text lastBreak breaks : List Char) →
    Cursor → (List Char × List Char × List Char) × Cursor
  | 0, text, lastBreak, breaks, c => ((text, lastBreak, breaks), c)
  | fuel + 1, text, lastBreak, breaks, c =>
    if c.column = column ∧ c.peek ≠ endOfText then
      let solid := !isBlank c.peek
      let (line, c) := c.span fun x => !endsLine x
      let text := line.reverseAux (breaks ++ text)
      let (lastBreak, c) := c.lineBreak
      let (breaks, c) := emptyLines column (c.left + 1) [] c
      if c.column = column ∧ c.peek ≠ endOfText then
        let folds := folded && lastBreak == ['\n'] && solid && !isBlank c.peek
        let between := if folds then (if breaks.isEmpty then [' '] else []) else lastBreak
        blockLines folded column fuel (between ++ text) lastBreak breaks c
      else ((text, lastBreak, breaks), c)
    else ((text, lastBreak, breaks), c)

/-- A block scalar below a node indented by `indent`. -/
def readBlockScalar (folded : Bool) (indent : Int) (c : Cursor) :
    Except Fault (String × Cursor) := do
  let ((chomping, increment), c) ← readIndicators c.next
  let c ← c.restOfLine
  let least : Nat := max 1 (indent + 1).toNat
  let fuel := c.left + 1
  let (column, breaks, c) :=
    match increment with
    | none =>
      let ((breaks, widest), c) := leadingLines fuel [] 0 c
      (max least widest, breaks, c)
    | some n =>
      let column := least + n - 1
      let (breaks, c) := emptyLines column fuel [] c
      (column, breaks, c)
  let ((text, lastBreak, breaks), c) := blockLines folded column fuel [] [] breaks c
  let ending :=
    match chomping with
    | .strip => []
    | .clip => lastBreak
    | .keep => breaks ++ lastBreak
  .ok (String.ofList (ending ++ text).reverse, c)

/-! ## Quoted scalars -/

/-- The character that a letter behind a backslash stands for. -/
def escaped? (c : Char) : Option Char :=
  match c with
  | '0' => some '\x00'
  | 'a' => some '\x07'
  | 'b' => some '\x08'
  | 't' => some '\t'
  | '\t' => some '\t'
  | 'n' => some '\n'
  | 'v' => some '\x0b'
  | 'f' => some '\x0c'
  | 'r' => some '\r'
  | 'e' => some '\x1b'
  | ' ' => some ' '
  | '"' => some '"'
  | '\\' => some '\\'
  | '/' => some '/'
  | 'N' => some '\x85'
  | '_' => some '\xA0'
  | 'L' => some '\u2028'
  | 'P' => some '\u2029'
  | _ => none

/-- The number of hexadecimal digits behind a letter that announces a code point. -/
def escapeWidth? (c : Char) : Option Nat :=
  match c with
  | 'x' => some 2
  | 'u' => some 4
  | 'U' => some 8
  | _ => none

/-- The character of a code point. -/
def characterOf (n : Nat) : Except Fault Char :=
  if 0x7FFFFFFF < n then
    .error (.value ⟨.overflow, "Python int too large to convert to C int"⟩)
  else if 0x10FFFF < n then .error (.value ⟨.value, "chr() arg not in range(0x110000)"⟩)
  else .ok (Text.ofCodePoint n)

/-- The line breaks of the lines in a quoted scalar that hold nothing but blanks, the last first. -/
def quotedBreaks : (fuel : Nat) → (breaks : List Char) → Cursor →
    Except Fault (List Char × Cursor)
  | 0, breaks, c => .ok (breaks, c)
  | fuel + 1, breaks, c =>
    if c.atDocumentMark then .error .malformed
    else
      let c := c.skipWhile isBlank
      if isBreak c.peek then
        let (b, c) := c.lineBreak
        quotedBreaks fuel (b.reverseAux breaks) c
      else .ok (breaks, c)

/-- Blanks inside a quoted scalar, or a line break that is folded, the last character first. -/
def quotedBlanks (c : Cursor) : Except Fault (List Char × Cursor) := do
  let (blanks, c) := c.span isBlank
  if c.peek == endOfText then .error .malformed
  else if isBreak c.peek then
    let (b, c) := c.lineBreak
    let (breaks, c) ← quotedBreaks (c.left + 1) [] c
    let first := if b ≠ ['\n'] then b else if breaks.isEmpty then [' '] else []
    .ok (breaks ++ first, c)
  else .ok (blanks.reverse, c)

/-- What one escape of a double-quoted scalar stands for, the last character first, from the backslash
on. -/
def readEscape (c : Cursor) : Except Fault (List Char × Cursor) :=
  let c := c.next
  match escaped? c.peek, escapeWidth? c.peek with
  | some x, _ => .ok ([x], c.next)
  | none, some width => do
    let c := c.next
    let digits := c.rest.take width
    match if digits.length = width then hexNumber? digits else none with
    | none => .error .malformed
    | some n =>
      let x ← characterOf n
      .ok ([x], c.skip width)
  | none, none =>
    if isBreak c.peek then
      let c := c.lineBreak.2
      quotedBreaks (c.left + 1) [] c
    else .error .malformed

/-- The text of a quoted scalar up to its closing quote onto the text before, the last character
first. -/
def quotedOnto (quote : Char) : (fuel : Nat) → (text : List Char) → Cursor →
    Except Fault (List Char × Cursor)
  | 0, _, _ => .error .malformed
  | fuel + 1, text, c =>
    let x := c.peek
    let double := quote == '"'
    if !double && x == '\'' && c.peek 1 == '\'' then quotedOnto quote fuel ('\'' :: text) (c.skip 2)
    else if x == quote then .ok (text, c.next)
    else if double && x == '\\' then do
      let (more, c) ← readEscape c
      quotedOnto quote fuel (more ++ text) c
    else if endsWord x then do
      let (more, c) ← quotedBlanks c
      quotedOnto quote fuel (more ++ text) c
    else
      let (more, c) := c.span fun y => y != quote && y != '\\' && !endsWord y
      if more.isEmpty then quotedOnto quote fuel (x :: text) c.next
      else quotedOnto quote fuel (more.reverseAux text) c

/-- A scalar in quotes of one kind. -/
def readQuoted (c : Cursor) : Except Fault (String × Cursor) := do
  let (text, after) ← quotedOnto c.peek (c.left + 1) [] c.next
  .ok (String.ofList text.reverse, after)

/-! ## Plain scalars -/

/-- Whether a plain scalar stops at this character with that one behind it. -/
def endsPlain (inFlow : Bool) (c next : Char) : Bool :=
  endsWord c || (c == ':' && (endsWord next || (inFlow && (",[]\x7b\x7d").toList.contains next))) ||
    (inFlow && (",?[]\x7b\x7d").toList.contains c)

/-- The number of characters in front of the end of a plain scalar's word. -/
def plainLength (inFlow : Bool) : List Char → Nat
  | [] => 0
  | c :: rest =>
    if endsPlain inFlow c (rest.headD endOfText) then 0 else plainLength inFlow rest + 1

/-- The line breaks of empty lines inside a plain scalar, the last first; nothing if a mark between
documents follows. -/
def plainBreaks : (fuel : Nat) → (breaks : List Char) → Cursor → Option (List Char) × Cursor
  | 0, breaks, c => (some breaks, c)
  | fuel + 1, breaks, c =>
    if c.peek == ' ' then plainBreaks fuel breaks c.next
    else if isBreak c.peek then
      let (b, c) := c.lineBreak
      if c.atDocumentMark then (none, c) else plainBreaks fuel (b.reverseAux breaks) c
    else (some breaks, c)

/-- What stands between two words of a plain scalar, the last character first, and whether a line ended
there. Nothing between them means that the scalar ends. -/
def plainSpace (c : Cursor) : (List Char × Bool) × Cursor :=
  let (blanks, c) := c.span (· == ' ')
  if isBreak c.peek then
    let (b, c) := c.lineBreak
    if c.atDocumentMark then (([], true), c)
    else
      match plainBreaks (c.left + 1) [] c with
      | (none, c) => (([], true), c)
      | (some breaks, c) =>
        let first := if b ≠ ['\n'] then b else if breaks.isEmpty then [' '] else []
        ((breaks ++ first, true), c)
  else ((blanks.reverse, false), c)

/-- The words of a plain scalar onto the text before, the last character first. `broken` says whether a line ended after the
last word. -/
def plainOnto (inFlow : Bool) (column : Int) : (fuel : Nat) → (text space : List Char) →
    (broken : Bool) → Cursor → (List Char × Bool) × Cursor
  | 0, text, _, broken, c => ((text, broken), c)
  | fuel + 1, text, space, broken, c =>
    if c.peek == '#' then ((text, broken), c)
    else
      let n := plainLength inFlow c.rest
      if n = 0 then ((text, broken), c)
      else
        let text := (c.rest.take n).reverseAux (space ++ text)
        let ((space, broken), c) := plainSpace (c.skip n)
        if space.isEmpty || c.peek == '#' || (!inFlow && decide ((c.column : Int) < column)) then
          ((text, broken), c)
        else plainOnto inFlow column fuel text space broken c

/-- A plain scalar below a node indented by `indent`, and whether the cursor is on a later line. -/
def readPlain (inFlow : Bool) (indent : Int) (c : Cursor) : (String × Bool) × Cursor :=
  let ((text, broken), c) := plainOnto inFlow (indent + 1) (c.left + 1) [] [] false c
  ((String.ofList text.reverse, broken), c)

end Token

end AddonAtlas.Yaml
