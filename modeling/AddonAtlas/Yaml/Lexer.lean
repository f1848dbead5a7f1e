import AddonAtlas.Yaml.Token

/-!
# The tokens of a text

A text is cut into tokens from left to right. Two things are decided later than they begin: a block
ends when a line is indented less, and a node turns out to be a key when a colon follows it on the
same line. For the latter a place in the token list is kept for each level of flow collections, and
the key's token is put there when the colon comes. A text may be faulty at some place; the tokens in
front of it are there all the same, and the fault matters only to those who ask for more.
-/

namespace AddonAtlas.Yaml

/-- A node that may turn out to be a key. -/
structure PossibleKey where
  /-- The number of tokens in front of it. -/
  place : Nat
  /-- Whether it has to be a key. -/
  required : Bool
  index : Nat
  line : Nat
  column : Nat

/-- What it takes to take one more token from a text. -/
structure Effort where
  /-- How many steps stand inside of each other. -/
  depth : Nat
  /-- The step that makes the first place. -/
  making : Nat
  /-- Whether blocks end in front of the token. -/
  endsBlocks : Bool
  /-- Whether it is the last token. -/
  isLast : Bool
deriving DecidableEq, Repr

/-- A token, with what it takes to get at it beyond what the tokens in front of it took. -/
structure Taken where
  token : Token
  efforts : List Effort
deriving Repr

/-- Tokens, and the fault behind them if they are not all. -/
structure TokenList where
  tokens : List Taken
  fault? : Option Fault
  /-- What it takes to get at the fault. -/
  efforts : List Effort
deriving Repr

structure Lexer where
  cursor : Cursor
  /-- The number of tokens that were given out. -/
  given : Nat
  /-- The tokens behind those. -/
  tokens : Array Token
  /-- The number of flow collections around the cursor. -/
  level : Nat
  /-- The column of the block around the cursor, -1 outside of all. -/
  indent : Int
  /-- The columns of the blocks around that one. -/
  outer : List Int
  /-- Whether a key may begin here. -/
  keyAllowed : Bool
  /-- The possible keys by their level. -/
  keys : List (Nat × PossibleKey)

namespace Lexer

def start (text : List Char) : Lexer :=
  let c := Cursor.start text
  let c := if c.peek == byteOrderMark then c.next else c
  ⟨c, 0, #[], 0, -1, [], true, []⟩

/-- The number of all tokens so far. -/
def count (x : Lexer) : Nat :=
  x.given + x.tokens.size

def emit (x : Lexer) (t : Token) : Lexer :=
  { x with tokens := x.tokens.push t }

/-- Puts a token at a place among those that were not given out. -/
def insert (x : Lexer) (place : Nat) (t : Token) : Lexer :=
  { x with tokens := x.tokens.insertIdxIfInBounds (place - x.given) t }

/-- The farthest that a key's colon may be from its start. -/
def maxKeyLength : Nat := 1024

/-- Drops the possible keys for which a colon would come too late. -/
def dropStaleKeys (x : Lexer) : Except Fault Lexer :=
  let isStale (k : PossibleKey) : Bool :=
    k.line != x.cursor.line || decide (maxKeyLength < x.cursor.index - k.index)
  if x.keys.any fun (_, k) => isStale k && k.required then .error .malformed
  else .ok { x with keys := x.keys.filter fun (_, k) => !isStale k }

/-- Drops the possible key of this level. -/
def dropKey (x : Lexer) : Except Fault Lexer :=
  if x.keys.any fun (l, k) => l == x.level && k.required then .error .malformed
  else .ok { x with keys := x.keys.filter fun (l, _) => l != x.level }

/-- Remembers that the node that begins here may be a key. -/
def saveKey (x : Lexer) : Except Fault Lexer :=
  if !x.keyAllowed then .ok x
  else do
    let required := x.level == 0 && x.indent == x.cursor.column
    let x ← x.dropKey
    let k : PossibleKey :=
      ⟨x.count, required, x.cursor.index, x.cursor.line, x.cursor.column⟩
    .ok { x with keys := (x.level, k) :: x.keys }

/-- Ends the blocks indented more than a column. -/
def endBlocks (x : Lexer) (column : Int) : Lexer :=
  if x.level ≠ 0 then x
  else go x.indent x.outer x
where
  /-- Goes through the columns of the blocks from the inside. -/
  go (indent : Int) (outer : List Int) (x : Lexer) : Lexer :=
    if column < indent then
      match outer with
      | [] => { x with indent := -1, outer := [] }.emit .blockEnd
      | i :: rest => go i rest (x.emit .blockEnd)
    else { x with indent := indent, outer := outer }

/-- Begins a block at a column if none begins there yet; `opens` is put at a place among the tokens
then. -/
def beginBlock (x : Lexer) (column place : Nat) (opens : Token) : Lexer :=
  if x.indent < column then
    { x with indent := column, outer := x.indent :: x.outer }.insert place opens
  else x

/-- Moves to the next character that is neither blank nor comment. -/
def skipBlanks : (fuel : Nat) → Lexer → Lexer
  | 0, x => x
  | fuel + 1, x =>
    let c := (x.cursor.skipWhile (· == ' ')).skipComment
    if isBreak c.peek then
      skipBlanks fuel { x with cursor := c.lineBreak.2, keyAllowed := x.keyAllowed || x.level == 0 }
    else { x with cursor := c }

/-- Takes a token of some characters. -/
def take (x : Lexer) (length : Nat) (t : Token) : Lexer :=
  { x with cursor := x.cursor.skip length }.emit t

/-! ## Kinds of tokens -/

/-- Takes a mark that stands outside of all blocks. -/
def outsideBlocks (x : Lexer) : Except Fault Lexer := do
  let x ← (x.endBlocks (-1)).dropKey
  .ok { x with keyAllowed := false }

def openFlow (x : Lexer) (t : Token) : Except Fault Lexer := do
  let x ← x.saveKey
  .ok ({ x with level := x.level + 1, keyAllowed := true }.take 1 t)

def closeFlow (x : Lexer) (t : Token) : Except Fault Lexer := do
  let x ← x.dropKey
  if x.level = 0 then .error .malformed
  else .ok ({ x with level := x.level - 1, keyAllowed := false }.take 1 t)

def entryInFlow (x : Lexer) : Except Fault Lexer := do
  let x ← { x with keyAllowed := true }.dropKey
  .ok (x.take 1 .flowEntry)

def entryInBlock (x : Lexer) : Except Fault Lexer := do
  if x.level = 0 ∧ !x.keyAllowed then .error .malformed
  else
    let x :=
      if x.level = 0 then x.beginBlock x.cursor.column x.count .blockSequenceStart else x
    let x ← { x with keyAllowed := true }.dropKey
    .ok (x.take 1 .blockEntry)

/-- A key that is marked as one. -/
def markedKey (x : Lexer) : Except Fault Lexer := do
  if x.level = 0 ∧ !x.keyAllowed then .error .malformed
  else
    let x := if x.level = 0 then x.beginBlock x.cursor.column x.count .blockMappingStart else x
    let x ← { x with keyAllowed := x.level == 0 }.dropKey
    .ok (x.take 1 .key)

/-- The colon before a value. The possible key of this level becomes a key. -/
def colon (x : Lexer) : Except Fault Lexer := do
  match x.keys.find? fun (l, _) => l == x.level with
  | some (_, k) =>
    let keys := x.keys.filter fun (l, _) => l != x.level
    let x := { x with keys := keys, keyAllowed := false }.insert k.place .key
    let x := if x.level = 0 then x.beginBlock k.column k.place .blockMappingStart else x
    .ok (x.take 1 .value)
  | none =>
    if x.level = 0 ∧ !x.keyAllowed then .error .malformed
    else
      let x :=
        if x.level = 0 then x.beginBlock x.cursor.column x.count .blockMappingStart else x
      let x ← { x with keyAllowed := x.level == 0 }.dropKey
      .ok (x.take 1 .value)

/-- A token that may begin a key, with the cursor after it. -/
def keyStart (x : Lexer) (read : Except Fault (Token × Cursor)) : Except Fault Lexer := do
  let x ← x.saveKey
  let (t, c) ← read
  .ok ({ x with keyAllowed := false, cursor := c }.emit t)

def named (make : String → Token) (read : Except Fault (String × Cursor)) :
    Except Fault (Token × Cursor) :=
  read.map fun (name, c) => (make name, c)

def blockScalar (x : Lexer) (folded : Bool) : Except Fault Lexer := do
  let x ← { x with keyAllowed := true }.dropKey
  let (text, c) ← Token.readBlockScalar folded x.indent x.cursor
  .ok ({ x with cursor := c }.emit (.scalar text false))

def plain (x : Lexer) : Except Fault Lexer := do
  let x ← x.saveKey
  let ((text, broken), c) := Token.readPlain (x.level != 0) x.indent x.cursor
  .ok ({ x with keyAllowed := broken, cursor := c }.emit (.scalar text true))

/-- Characters with which a plain scalar does not begin. -/
def indicators : List Char :=
  ("-?:,[]\x7b\x7d#&*!|>'\"%@" ++ String.singleton (Char.ofNat 96)).toList

/-- Whether a plain scalar begins here. -/
def beginsPlain (x : Lexer) : Bool :=
  let c := x.cursor.peek
  !(endsWord c || indicators.contains c) ||
    (!endsWord (x.cursor.peek 1) && (c == '-' || (x.level == 0 && (c == '?' || c == ':'))))

/-- Takes the token at the cursor, which is not the end of the text. -/
def nextToken (x : Lexer) : Except Fault Lexer := do
  let c := x.cursor
  let alone := endsWord (c.peek 1)
  if c.peek == '%' && c.column == 0 then
    let x ← x.outsideBlocks
    let (d, c) ← Token.readDirective x.cursor
    return { x with cursor := c }.emit (.directive d)
  else if c.column == 0 && c.atTriple '-' then return (← x.outsideBlocks).take 3 .documentStart
  else if c.column == 0 && c.atTriple '.' then return (← x.outsideBlocks).take 3 .documentEnd
  else
    match c.peek with
    | '[' => x.openFlow .flowSequenceStart
    | '\x7b' => x.openFlow .flowMappingStart
    | ']' => x.closeFlow .flowSequenceEnd
    | '\x7d' => x.closeFlow .flowMappingEnd
    | ',' => x.entryInFlow
    | '*' => x.keyStart (named .alias (Token.readAnchor c))
    | '&' => x.keyStart (named .anchor (Token.readAnchor c))
    | '!' => x.keyStart ((Token.readTag c).map fun (t, c) => (.tag t, c))
    | '\'' | '"' => x.keyStart (named (.scalar · false) (Token.readQuoted c))
    | p =>
      if p == '-' && alone then x.entryInBlock
      else if p == '?' && (x.level != 0 || alone) then x.markedKey
      else if p == ':' && (x.level != 0 || alone) then x.colon
      else if p == '|' && x.level == 0 then x.blockScalar false
      else if p == '>' && x.level == 0 then x.blockScalar true
      else if x.beginsPlain then x.plain
      else .error .malformed

/-- Takes the next tokens: those that the text's end brings with it, or the one at the cursor. A key
that comes too late is noticed in front of it and behind it. -/
def step (x : Lexer) : Except Fault (Lexer × Bool) := do
  let x ← (x.skipBlanks (x.cursor.left + 1)).dropStaleKeys
  let x := x.endBlocks x.cursor.column
  if x.cursor.peek == endOfText then
    let x ← (x.endBlocks (-1)).dropKey
    return (x.emit .streamEnd, true)
  else return (← (← x.nextToken).dropStaleKeys, false)

/-- The tokens in front of the first one that may turn out to be a key are given out. -/
def giveOut (x : Lexer) : Array Token × Lexer :=
  let settled := (x.keys.map (·.2.place)).foldl min x.count - x.given
  (x.tokens.take settled, { x with given := x.given + settled, tokens := x.tokens.drop settled })

/-- What it takes to take the next tokens, by the character at the cursor. -/
def effort (x : Lexer) : Effort :=
  let x := x.skipBlanks (x.cursor.left + 1)
  let after := x.endBlocks x.cursor.column
  let c := x.cursor
  let isLast := c.peek == endOfText
  let alone := endsWord (c.peek 1)
  let (depth, making) :=
    if isLast then (if 0 ≤ after.indent then (6, 5) else (5, 4))
    else
      match c.peek with
      | '[' | '\x7b' => if x.keyAllowed then (7, 6) else (6, 5)
      | '\'' | '"' => (7, 6)
      | ',' => (5, 4)
      | p =>
        if (p == '-' && alone) || ((p == '?' || p == ':') && (x.level != 0 || alone)) then (5, 4)
        else if (p == '|' || p == '>') && x.level == 0 then (8, 6)
        else (6, 5)
  ⟨depth, making, x.tokens.size < after.tokens.size, isLast⟩

/-- Tokens that were taken together. -/
def together (efforts : List Effort) : List Token → List Taken
  | [] => []
  | t :: rest => ⟨t, efforts⟩ :: rest.map fun t => ⟨t, []⟩

/-- Takes all tokens behind those given out. Each takes at least one character. `efforts` tells, the last one
first, what was done since any were given out. -/
def run : (fuel : Nat) → (out : Array Taken) → (efforts : List Effort) → Lexer → TokenList
  | 0, out, efforts, _ => ⟨out.toList, some .malformed, efforts.reverse⟩
  | fuel + 1, out, efforts, x =>
    let efforts := x.effort :: efforts
    match x.step with
    | .error f => ⟨out.toList, some f, efforts.reverse⟩
    | .ok (x, true) => ⟨out.toList ++ together efforts.reverse x.tokens.toList, none, []⟩
    | .ok (x, false) =>
      let (more, x) := x.giveOut
      if more.isEmpty then run fuel out efforts x
      else run fuel (out ++ (together efforts.reverse more.toList).toArray) [] x

end Lexer

/-- The tokens of a text. -/
def TokenList.ofText (text : List Char) : TokenList :=
  if text.all isReadable then Lexer.run (text.length + 2) #[] [] (Lexer.start text)
  else ⟨[], some .malformed, []⟩

end AddonAtlas.Yaml
