import AddonAtlas.Shell.Records.Pattern
import AddonAtlas.Shell.Records.Program

/-!
# Tokens of programs that work on records

A program is a list of tokens, with the lines they stand on. A slash begins an expression unless it stands
behind an operand.
-/

namespace AddonAtlas.Shell.Records

inductive Token
  | number (x : Float) (source : String)
  | text (s : String)
  | pattern (s : String)
  | name (s : String)
  /-- A name with a parenthesis right behind it. -/
  | call (s : String)
  | word (s : String)
  | function (f : Function) (s : String)
  | sign (s : String)
  | newline
  | finish

instance : Inhabited Token := ⟨.finish⟩

namespace Token

/-- A token as messages show it. -/
def shown : Token → String
  | number _ s => s
  | text s => "\"" ++ s ++ "\""
  | pattern s => "/" ++ s ++ "/"
  | name s | call s | word s | function _ s | sign s => s
  | newline => "end of line"
  | finish => "end of file"

/-- Whether a slash behind a token divides. -/
def isOperand : Token → Bool
  | number _ _ | text _ | pattern _ | name _ => true
  | word s => s = "getline"
  | sign s => s = ")" || s = "]" || s = "++" || s = "--"
  | _ => false

def isSign (t : Token) (s : String) : Bool :=
  match t with
  | sign u => u = s
  | _ => false

def isWord (t : Token) (s : String) : Bool :=
  match t with
  | word u => u = s
  | _ => false

def words : List String :=
  ["BEGIN", "END", "function", "if", "else", "while", "for", "do", "break", "continue", "next", "nextfile", "exit",
    "return", "delete", "in", "getline", "print", "printf"]

def functions : List (String × Function) :=
  [("length", .length), ("index", .index), ("substr", .substr), ("split", .split), ("match", .match_), ("sub", .sub),
    ("gsub", .gsub), ("sprintf", .sprintf), ("sin", .sin), ("cos", .cos), ("atan2", .atan2), ("exp", .exp),
    ("log", .log), ("sqrt", .sqrt), ("int", .int), ("rand", .rand), ("srand", .srand), ("tolower", .tolower),
    ("toupper", .toupper), ("system", .system), ("close", .close), ("fflush", .fflush)]

def signs : List String :=
  ["&&", "||", "==", "!=", "<=", ">=", "!~", "++", "--", "+=", "-=", "*=", "/=", "%=", "^=", ">>", "\x7b", "\x7d", "(",
    ")", "[", "]", ";", ",", "+", "-", "*", "/", "%", "^", "!", "<", ">", "|", "?", ":", "~", "$", "="]

/-- The text that stands between quotes for another one. -/
def unquoted : (fuel : Nat) → List Char → List Char
  | 0, _ => []
  | _ + 1, [] => []
  | fuel + 1, '\\' :: rest =>
    match rest with
    | [] => ['\\']
    | '\n' :: after => unquoted fuel after
    | '"' :: after => '"' :: unquoted fuel after
    | '\\' :: after => '\\' :: unquoted fuel after
    | 'x' :: after =>
      let ds := (after.take 2).takeWhile fun c => Arithmetic.digitValue c < 16
      if ds.isEmpty then '\\' :: 'x' :: unquoted fuel after
      else Char.ofNat (Arithmetic.digitsOf 16 ds).1 :: unquoted fuel (after.drop ds.length)
    | c :: after =>
      let isKnown := ('0' ≤ c && c ≤ '7') || "abfnrtv".toList.contains c
      if isKnown then
        let (d, more) := Pattern.escaped rest
        d :: unquoted fuel more
      else '\\' :: c :: unquoted fuel after
  | fuel + 1, c :: rest => c :: unquoted fuel rest

/-- The characters up to a mark that no backslash stands in front of. Nothing if a line ends before. -/
def upTo (mark : Char) (isPattern : Bool) : (fuel : Nat) → (inBrackets : Bool) → (done : List Char) → List Char →
    Option (List Char × List Char)
  | 0, _, _, _ => none
  | _ + 1, _, _, [] => none
  | fuel + 1, inBrackets, done, c :: rest =>
    if c = mark && !inBrackets then some (done.reverse, rest)
    else if c = '\n' then none
    else if c = '\\' then
      match rest with
      | d :: rest =>
        if isPattern && d = mark then upTo mark isPattern fuel inBrackets (d :: done) rest
        else upTo mark isPattern fuel inBrackets (d :: c :: done) rest
      | [] => none
    else if isPattern && c = '[' && !inBrackets then
      match rest with
      | '^' :: ']' :: rest => upTo mark isPattern fuel true (']' :: '^' :: c :: done) rest
      | ']' :: rest => upTo mark isPattern fuel true (']' :: c :: done) rest
      | rest => upTo mark isPattern fuel true (c :: done) rest
    else if isPattern && c = '[' && rest.head? = some ':' then
      let name := (rest.drop 1).takeWhile fun d => 'a' ≤ d && d ≤ 'z'
      if ((rest.drop 1).drop name.length).take 2 = [':', ']'] then
        upTo mark isPattern fuel true ([']', ':'] ++ name.reverse ++ [':', '['] ++ done) (rest.drop (name.length + 3))
      else upTo mark isPattern fuel true (c :: done) rest
    else if isPattern && c = ']' && inBrackets then upTo mark isPattern fuel false (c :: done) rest
    else upTo mark isPattern fuel inBrackets (c :: done) rest

/-- A message about a place of a program. -/
def messageAt (line : Nat) (message : String) : String :=
  "line " ++ toString line ++ ": " ++ message

/-- The characters of a number at the start of a text. -/
def numeral (cs : List Char) : List Char :=
  let whole := cs.takeWhile isDigit
  let rest := cs.drop whole.length
  let fraction :=
    match rest with
    | '.' :: after => '.' :: after.takeWhile isDigit
    | _ => []
  let rest := rest.drop fraction.length
  let exponent :=
    match rest with
    | e :: after =>
      if e = 'e' || e = 'E' then
        let sign := (after.take 1).filter fun c => c == '+' || c == '-'
        let ds := (after.drop sign.length).takeWhile isDigit
        if ds.isEmpty then [] else e :: sign ++ ds
      else []
    | [] => []
  whole ++ fraction ++ exponent

/-- The tokens of a text from a line on. -/
def read : (fuel : Nat) → (line : Nat) → (previous : Token) → List Char → Except String (List (Token × Nat))
  | 0, line, _, _ => .ok [(.finish, line)]
  | _ + 1, line, _, [] => .ok [(.finish, line)]
  | fuel + 1, line, previous, c :: rest => do
    let add (t : Token) (rest : List Char) : Except String (List (Token × Nat)) :=
      return (t, line) :: (← read fuel line t rest)
    if c = ' ' || c = '\t' || c = '\r' || c = '\x0c' || c = '\x0b' then read fuel line previous rest
    else if c = '\n' then return (.newline, line) :: (← read fuel (line + 1) .newline rest)
    else if c = '#' then read fuel line previous (rest.dropWhile (· != '\n'))
    else if c = '\\' && rest.head? = some '\n' then read fuel (line + 1) previous (rest.drop 1)
    else if c = '\\' && rest.take 2 = ['\r', '\n'] then read fuel (line + 1) previous (rest.drop 2)
    else if c = '"' then
      match upTo '"' false (rest.length + 1) false [] rest with
      | some (cs, rest) => add (.text (String.ofList (unquoted (cs.length + 1) cs))) rest
      | none => throw (messageAt line ("runaway string constant \"" ++ String.ofList ((rest.take 10).takeWhile (· != '\n')) ++ " ..."))
    else if c = '/' && !previous.isOperand then
      match upTo '/' true (rest.length + 1) false [] rest with
      | some (cs, rest) => add (.pattern (String.ofList cs)) rest
      | none => throw (messageAt line ("runaway regular expression /" ++ String.ofList ((rest.take 10).takeWhile (· != '\n')) ++ " ..."))
    else if isDigit c || (c = '.' && rest.head?.any isDigit) then
      let cs := numeral (c :: rest)
      let s := String.ofList cs
      add (.number (leading s) s) (rest.drop (cs.length - 1))
    else if isNamePart c then
      let cs := (c :: rest).takeWhile isNamePart
      let s := String.ofList cs
      let rest := rest.drop (cs.length - 1)
      if words.contains s then add (.word s) rest
      else
        match functions.lookup s with
        | some f => add (.function f s) rest
        | none => add (if rest.head? = some '(' then .call s else .name s) rest
    else
      match signs.find? fun s => s.toList.isPrefixOf (c :: rest) with
      | some s => add (.sign s) (rest.drop (s.length - 1))
      | none => throw (toString line ++ ": unexpected character '" ++ String.ofList [c] ++ "'")

/-- The tokens with the names of procedures marked as such wherever a parenthesis follows. -/
def withCalls (tokens : List (Token × Nat)) : List (Token × Nat) :=
  let names := (tokens.zip (tokens.drop 1)).filterMap fun (t, u) =>
    match t.1, u.1 with
    | word "function", name s | word "function", call s => some s
    | _, _ => none
  go names tokens
where
  /-- Marks the names. -/
  go (names : List String) : List (Token × Nat) → List (Token × Nat)
    | (name s, line) :: (sign "(", n) :: rest =>
      (if names.contains s then call s else name s, line) :: (sign "(", n) :: go names rest
    | t :: rest => t :: go names rest
    | [] => []

end Token

end AddonAtlas.Shell.Records
