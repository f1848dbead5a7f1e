import AddonAtlas.Shell.Extraction.Program

/-!
# The text of extraction programs

The pieces that a program is written in: blanks and comments, names, numbers, operators, and texts between
delimiters, which may be any marks. What a mark means depends on whether a term or an operator may come next, so
pieces are read when they are asked for.
-/

namespace AddonAtlas.Shell.Extraction

/-- What is left of a program's text, and what was learned from what was read. -/
structure Source where
  rest : List Char
  line : Nat
  file : String
  /-- The rest at the last piece, and at the one before it. -/
  current : List Char
  previous : List Char
  ranges : Nat
  first : List (List Statement)
  final : List (List Statement)
  procedures : List (String × List Statement)
  /-- The text behind the program. -/
  data : Option (List Char)
  /-- Whether what is read stands in a text. -/
  isInText : Bool := false

/-- Reads a part of a program; a message ends it. -/
abbrev Reader := StateT Source (Except String)

namespace Reader

/-! ## Blanks -/

/-- What is left of a text in which something is passed over: blanks, a comment, or text between lines with marks. -/
inductive Passing
  | blanks
  | comment
  | aside

/-- The rest behind blanks and comments, and the lines that were passed. `starts` says that a line begins. -/
def pass : Passing → (starts : Bool) → (line : Nat) → List Char → List Char × Nat
  | _, _, line, [] => ([], line)
  | .blanks, starts, line, c :: rest =>
    if c = '\n' then pass .blanks true (if rest.isEmpty then line else line + 1) rest
    else if c = ' ' || c = '\t' || c = '\r' || c = '\x0c' then pass .blanks false line rest
    else if c = '#' then pass .comment false line rest
    else if starts && c = '=' && rest.head?.any Char.isAlpha then pass .aside false line rest
    else (c :: rest, line)
  | .comment, _, line, c :: rest => if c = '\n' then pass .blanks true (line + 1) rest else pass .comment false line rest
  | .aside, starts, line, c :: rest =>
    if starts && "=cut".toList.isPrefixOf (c :: rest) then pass .comment false line rest
    else pass .aside (c = '\n') (if c = '\n' then line + 1 else line) rest

def setRest (cs : List Char) : Reader Unit :=
  modify fun s => { s with rest := cs }

/-- Goes over blanks and comments. -/
def space : Reader Unit := do
  let s ← get
  let (rest, line) := pass .blanks false s.line s.rest
  set { s with rest := rest, line := line }

/-- Goes over blanks and comments where a statement may begin. -/
def statementSpace : Reader Unit := do
  let s ← get
  let (rest, line) := pass .blanks true s.line s.rest
  set { s with rest := rest, line := line }

/-- The characters that come next, behind blanks. -/
def ahead : Reader (List Char) := do
  space
  return (← get).rest

def peek : Reader (Option Char) := do
  return (← ahead).head?

/-- The line on which reading stands. -/
def line : Reader Line := do
  return ⟨(← get).line⟩

/-! ## Faults -/

/-- Where something stands in the program. -/
def place (file : String) (line : Nat) : String :=
  " at " ++ file ++ " line " ++ toString line

/-- Ends the reading with a message. -/
def fail {α : Type} (message : String) : Reader α := do
  let s ← get
  throw (message ++ place s.file s.line ++ ".\n")

/-- The message that the end of a text is missing. -/
def unterminated {α : Type} (close : Char) : Reader α :=
  let shown := String.singleton close
  fail ("Can't find string terminator " ++ (if close = '"' then "'" ++ shown ++ "'" else "\"" ++ shown ++ "\"") ++
    " anywhere before EOF")

/-- The length of the piece at the front of a text, as far as a fault is told by it. -/
def pieceLength (cs : List Char) : Nat :=
  match cs with
  | c :: rest =>
    if c.isAlpha || c = '_' then (cs.takeWhile fun c => c.isAlphanum || c = '_').length
    else if isDigit c then (cs.takeWhile isDigit).length
    else if c = '$' || c = '@' || c = '%' then 1 + (rest.takeWhile fun c => c.isAlphanum || c = '_').length
    else if c = '"' || c = '\'' then 2 + (rest.takeWhile (· ≠ c)).length
    else 1
  | [] => 0

/-- The delimiter of a text in the rest that does not end, if there is one. -/
def openText : (fuel : Nat) → (line : Nat) → List Char → Option (Char × Nat)
  | 0, _, _ => none
  | _ + 1, _, [] => none
  | fuel + 1, line, c :: rest =>
    if c = '"' || c = '\'' then
      let inner := rest.takeWhile (· ≠ c)
      if inner.length = rest.length then some (c, line)
      else openText fuel (line + (inner.filter (· = '\n')).length) (rest.drop (inner.length + 1))
    else openText fuel (if c = '\n' then line + 1 else line) rest

/-- Refuses what comes next. -/
def refuse {α : Type} : Reader α := do
  space
  let s ← get
  let ending := "Execution of " ++ s.file ++ " aborted due to compilation errors.\n"
  if s.rest.isEmpty then
    let open_ := if s.isInText then "Missing right curly or square bracket" ++ place s.file s.line ++ ", within string\n" else ""
    throw (open_ ++ "syntax error" ++ place s.file s.line ++ ", at EOF\n" ++ ending)
  else
    let size := s.previous.length - s.rest.length + pieceLength s.rest
    let near := s.previous.take size
    let behind :=
      match openText (s.rest.length + 1) s.line s.rest with
      | some (c, line) =>
        "Can't find string terminator " ++ (if c = '"' then "'\"'" else "\"" ++ String.singleton c ++ "\"") ++
          " anywhere before EOF" ++ place s.file line ++ ".\n"
      | none => ending
    throw ("syntax error" ++ place s.file s.line ++ ", near \"" ++ String.ofList near ++ "\"\n" ++ behind)

/-- Refuses the end of the program inside of brackets. -/
def refuseEnd {α : Type} : Reader α := do
  let s ← get
  let at_ := place s.file s.line
  throw ("Missing right curly or square bracket" ++ at_ ++ ", at end of line\nsyntax error" ++ at_ ++
    ", at EOF\nExecution of " ++ s.file ++ " aborted due to compilation errors.\n")

/-! ## Pieces -/

/-- Notes that a piece begins here. -/
def begin_ : Reader Unit :=
  modify fun s => { s with previous := s.current, current := s.rest }

/-- Goes on behind so many characters. -/
def drop (n : Nat) : Reader Unit := do
  begin_
  modify fun s =>
    { s with rest := s.rest.drop n, line := s.line + ((s.rest.take n).filter (· = '\n')).length }

/-- Takes characters if they come next. -/
def takes (s : String) : Reader Bool := do
  let cs ← ahead
  if s.toList.isPrefixOf cs then
    drop s.length
    return true
  else return false

def expect (s : String) : Reader Unit := do
  if !(← takes s) then
    if (← ahead).isEmpty && (s = "\x7d" || s = "]") then refuseEnd
    else
      begin_
      refuse

def isWordPart (c : Char) : Bool :=
  c.isAlphanum || c = '_'

/-- The name at the front of a text; parts of it may be joined by two colons. -/
def wordOf : (fuel : Nat) → List Char → List Char
  | 0, _ => []
  | fuel + 1, cs =>
    let w := cs.takeWhile isWordPart
    match cs.drop w.length with
    | ':' :: ':' :: c :: rest =>
      if isWordPart c && !w.isEmpty then w ++ ':' :: ':' :: wordOf fuel (c :: rest) else w
    | _ => w

/-- The word that comes next, if one does. -/
def word? : Reader (Option String) := do
  let cs ← ahead
  match cs with
  | c :: _ => return if c.isAlpha || c = '_' then some (String.ofList (wordOf (cs.length + 1) cs)) else none
  | [] => return none

/-- Takes a word if it comes next. -/
def takesWord (w : String) : Reader Bool := do
  if (← word?) = some w then
    drop w.length
    return true
  else return false

/-! ## Operators -/

/-- The marks of operators, the longer ones first. -/
def marks : List String :=
  ["<=>", "...", "**=", "||=", "&&=", "//=", "<<=", ">>=", "=~", "!~", "==", "!=", "<=", ">=", "<<", ">>", "&&",
    "||", "//", "..", "**", "+=", "-=", "*=", "/=", ".=", "%=", "&=", "|=", "^=", "->", "++", "--", "=>", "+", "-",
    "*", "/", "%", ".", "<", ">", "&", "|", "^", "?", "=", ":", ","]

/-- The words that are operators. -/
def wordOperators : List String :=
  ["lt", "gt", "le", "ge", "eq", "ne", "cmp", "x", "and", "or", "xor", "not", "if", "unless", "while", "until", "for",
    "foreach"]

/-- The operator at the front of a text. -/
def operatorOf (cs : List Char) : Option String :=
  match cs with
  | 'x' :: '=' :: c :: _ => if c = '=' || c = '~' then some "x" else some "x="
  | c :: rest =>
    if c = 'x' && (rest.takeWhile isWordPart).all isDigit && !(rest.head?.any fun d => d = '_') then some "x"
    else if c.isAlpha then
      let w := String.ofList (cs.takeWhile isWordPart)
      if wordOperators.contains w then some w else none
    else marks.find? fun m => m.toList.isPrefixOf cs
  | [] => none

def operator? : Reader (Option String) := do
  return operatorOf (← ahead)

/-- How closely an operator between two terms binds, what it is, and whether it is read from the right. -/
def binary? : String → Option (Fin 32 × Operator)
  | "lt" => some (14, .textLess)
  | "gt" => some (14, .textGreater)
  | "le" => some (14, .textLessOrEqual)
  | "ge" => some (14, .textGreaterOrEqual)
  | "<" => some (14, .less)
  | ">" => some (14, .greater)
  | "<=" => some (14, .lessOrEqual)
  | ">=" => some (14, .greaterOrEqual)
  | "==" => some (13, .equal)
  | "!=" => some (13, .unequal)
  | "<=>" => some (13, .order)
  | "eq" => some (13, .textEqual)
  | "ne" => some (13, .textUnequal)
  | "cmp" => some (13, .textOrder)
  | "&" => some (12, .bitAnd)
  | "|" => some (11, .bitOr)
  | "^" => some (11, .bitXor)
  | "<<" => some (16, .shiftUp)
  | ">>" => some (16, .shiftDown)
  | "+" => some (17, .add)
  | "-" => some (17, .subtract)
  | "." => some (17, .join)
  | "*" => some (18, .multiply)
  | "/" => some (18, .divide)
  | "%" => some (18, .remainder)
  | "x" => some (18, .repeated)
  | _ => none

/-- The operator with which a place is changed. -/
def update? : String → Option Operator
  | "+=" => some .add
  | "-=" => some .subtract
  | "*=" => some .multiply
  | "/=" => some .divide
  | "%=" => some .remainder
  | "**=" => some .power
  | ".=" => some .join
  | "x=" => some .repeated
  | "<<=" => some .shiftUp
  | ">>=" => some .shiftDown
  | "&=" => some .bitAnd
  | "|=" => some .bitOr
  | "^=" => some .bitXor
  | _ => none

/-! ## Texts between delimiters -/

/-- The mark that closes what another one opens. -/
def closing (c : Char) : Char :=
  match c with
  | '(' => ')'
  | '[' => ']'
  | '\x7b' => '\x7d'
  | '<' => '>'
  | c => c

/-- The text up to a closing mark, and what is behind that; nothing if there is none. Backslashes stay, but for
those in front of the delimiter itself. -/
def bodyOf (opening close : Char) : (depth : Nat) → List Char → List Char → Option (List Char × List Char)
  | _, _, [] => none
  | depth, done, '\\' :: c :: rest =>
    if c = close && opening = close && !isWordPart c && c ≠ '\\' then
      bodyOf opening close depth (if "|()[]\x7b\x7d^$*+?.".toList.contains c then c :: '\\' :: done else c :: done) rest
    else bodyOf opening close depth (c :: '\\' :: done) rest
  | depth, done, c :: rest =>
    if c = close then
      if depth = 0 then some (done.reverse, rest) else bodyOf opening close (depth - 1) (c :: done) rest
    else if c = opening then bodyOf opening close (depth + 1) (c :: done) rest
    else bodyOf opening close depth (c :: done) rest

/-- Reads a text behind the mark that opens it, which comes next. -/
def body : Reader (Char × List Char) := do
  let s ← get
  match s.rest with
  | c :: rest =>
    match bodyOf c (closing c) 0 [] rest with
    | some (inner, behind) =>
      drop (s.rest.length - behind.length)
      return (c, inner)
    | none => unterminated (closing c)
  | [] => fail "Can't find string terminator anywhere before EOF"

/-- The letters of options behind a text. -/
def flags : Reader (List Char) := do
  let cs := (← get).rest.takeWhile Char.isAlpha
  setRest ((← get).rest.drop cs.length)
  return cs

/-- A text as it is, but for backslashes in front of themselves and of quotes. -/
def literal (close : Char) : List Char → List Char
  | '\\' :: c :: rest => if c = '\\' || c = close then c :: literal close rest else '\\' :: literal close (c :: rest)
  | c :: rest => c :: literal close rest
  | [] => []

/-! ## Numbers -/

/-- The number that comes next. -/
def number : Reader Value := do
  let cs := (← get).rest
  let digits (ok : Char → Bool) (cs : List Char) : List Char := cs.takeWhile fun c => ok c || c = '_'
  let bare (cs : List Char) : List Char := cs.filter (· ≠ '_')
  match cs with
  | '0' :: c :: rest =>
    if c = 'x' || c = 'X' then
      let ds := digits (fun c => isDigit c || ('a' ≤ c && c ≤ 'f') || ('A' ≤ c && c ≤ 'F')) rest
      drop (2 + ds.length)
      return ofNat (Arithmetic.digitsOf 16 (bare ds)).1
    else if c = 'b' || c = 'B' then
      let ds := digits (fun c => c = '0' || c = '1') rest
      drop (2 + ds.length)
      return ofNat (Arithmetic.digitsOf 2 (bare ds)).1
    else if isDigit c then
      let ds := digits isDigit (c :: rest)
      drop (1 + ds.length)
      return ofNat (Arithmetic.digitsOf 8 (bare ds)).1
    else decimal cs
  | _ => decimal cs
where
  /-- A number in tens. -/
  decimal (cs : List Char) : Reader Value := do
    let digits (cs : List Char) : List Char := cs.takeWhile fun c => isDigit c || c = '_'
    let whole := digits cs
    let behind := cs.drop whole.length
    let fraction :=
      match behind with
      | '.' :: '.' :: _ => []
      | '.' :: rest => '.' :: digits rest
      | _ => []
    let behind := behind.drop fraction.length
    let power :=
      match behind with
      | c :: rest =>
        if c = 'e' || c = 'E' then
          let sign := rest.takeWhile fun c => c = '-' || c = '+'
          let es := (rest.drop sign.length).takeWhile isDigit
          if es.isEmpty || 1 < sign.length then [] else c :: sign ++ es
        else []
      | [] => []
    let text := whole ++ fraction ++ power
    drop text.length
    return (numberOf (String.ofList (text.filter (· ≠ '_')))).1

end Reader

end AddonAtlas.Shell.Extraction
