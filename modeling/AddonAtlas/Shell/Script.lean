import AddonAtlas.Shell.Escaped
import AddonAtlas.Shell.Syntax

/-!
# Reading scripts

A script is read command by command, so what stands in front of a fault in it is run all the same. Words
end at blanks and operators; some words are keywords where a command may begin. A here-document's text
is taken from the lines behind the one in which it is asked for.
-/

namespace AddonAtlas.Shell

/-- A fault of a script, with the line in which it was noticed. -/
structure SyntaxFault where
  line : Nat
  messages : List String
  /-- Whether the line itself is shown. -/
  showsLine : Bool
deriving DecidableEq, Repr

inductive Token
  | ending
  | newline
  | word (w : Word)
  | keyword (s : String)
  /-- One of the operators that divide commands. -/
  | operator (s : String)
  | redirection (descriptor : Option Nat) (operator : String)

namespace Token

def keywords : List String :=
  ["!", "case", "do", "done", "elif", "else", "esac", "fi", "for", "if", "in", "then", "until",
    "while", "\x7b", "\x7d"]

/-- Words that only begin commands of the wide dialect. -/
def wideKeywords : List String :=
  ["function", "[[", "select"]

/-- How messages name a token. -/
def title : Token → String
  | ending => "end of file"
  | newline => "newline"
  | word _ => "word"
  | keyword s | operator s => "\"" ++ s ++ "\""
  | redirection _ _ => "redirection"

def isKeyword (s : String) : Token → Bool
  | keyword t => s == t
  | _ => false

def isOperator (s : String) : Token → Bool
  | operator t => s == t
  | _ => false

/-- Commands of the shell that no function replaces. -/
def specialCommands : List String :=
  [".", ":", "break", "continue", "eval", "exec", "exit", "export", "local", "readonly", "return",
    "set", "shift", "times", "trap", "unset"]

/-- The words and operators before which a list of commands ends. -/
def endsList (t : Token) : Bool :=
  match t with
  | ending => true
  | keyword s => ["do", "done", "elif", "else", "esac", "fi", "then", "\x7d"].contains s
  | operator s => [")", ";;", ";&", ";;&"].contains s
  | _ => false

end Token

/-- A here-document that was asked for and has not been read yet. -/
structure Awaited where
  number : Nat
  mark : String
  /-- Whether tabs at the starts of lines do not count. -/
  stripsTabs : Bool
  /-- Whether its text stands for itself. -/
  isLiteral : Bool

/-- A place in a script. -/
structure Place where
  rest : List Char
  line : Nat
  /-- A token that was read and put back. -/
  back : Option Token
  awaited : List Awaited
  /-- The texts of the here-documents by their numbers. -/
  documents : Array Word
  /-- Whether a word is being read that marks the end of a here-document, in which nothing is expanded. -/
  isMark : Bool
  /-- Texts for words with which commands begin. -/
  aliases : List (String × String)
  /-- The words whose texts are being read, each with how much of the script follows its text. -/
  opened : List (String × Nat)
  dialect : Dialect
  /-- Whether patterns may have groups. -/
  hasGroups : Bool
  /-- Whether the words of a list are being read. -/
  isInList : Bool

namespace Place

def start (d : Dialect) (script : List Char) (documents : Array Word) : Place :=
  ⟨script, 1, none, [], documents, false, [], [], d, false, false⟩

/-- The text for a word, unless it is being read. -/
def alias? (p : Place) (s : String) : Option String :=
  if p.opened.any fun o => o.1 = s && o.2 ≤ p.rest.length then none
  else (p.aliases.find? fun a => a.1 = s).map (·.2)

/-- Puts the text for a word in front of what follows. -/
def openAlias (p : Place) (s text : String) : Place :=
  { p with rest := text.toList ++ p.rest, opened := (s, p.rest.length) :: p.opened }

end Place

abbrev ScriptReader := StateT Place (Except SyntaxFault)

namespace ScriptReader

/-! ## Characters -/

def fault {α : Type} (message : String) : ScriptReader α := do
  throw ⟨(← get).line, ["Syntax error: " ++ message], false⟩

def isWide : ScriptReader Bool := do
  return (← get).dialect = .wide

/-- A text between a backquote and an apostrophe. -/
def named (s : String) : String :=
  String.ofList [Char.ofNat 96] ++ s ++ "'"

/-- The script ends, and a sign is missing that belongs to one in a line. -/
def unfinished {α : Type} (line : Nat) (sign plainMessage : String) : ScriptReader α := do
  if ← isWide then throw ⟨line, ["unexpected EOF while looking for matching " ++ named sign], false⟩
  else fault plainMessage

/-- Takes the next character. -/
def take : ScriptReader (Option Char) := do
  let p ← get
  match p.rest with
  | [] => return none
  | c :: rest =>
    set { p with rest := rest, line := if c = '\n' then p.line + 1 else p.line }
    return some c

/-- Skips line ends that are escaped. -/
def joinLines : ScriptReader Unit :=
  modify fun p => go p.rest p.line p
where
  /-- Goes through pairs of a backslash and a line's end. -/
  go : List Char → Nat → Place → Place
    | '\\' :: '\n' :: rest, line, p => go rest (line + 1) p
    | rest, line, p => { p with rest := rest, line := line }

/-- The next character behind escaped line ends, which is not taken. -/
def peek : ScriptReader (Option Char) := do
  joinLines
  return (← get).rest.head?

/-- Takes the next character behind escaped line ends. -/
def next : ScriptReader (Option Char) := do
  joinLines
  take

/-- Takes a character if it is the next one. -/
def accept (c : Char) : ScriptReader Bool := do
  if (← peek) = some c then
    let _ ← take
    return true
  else return false

/-- Takes characters as long as they satisfy `p`. -/
def takeWhile (p : Char → Bool) : (fuel : Nat) → ScriptReader (List Char)
  | 0 => return []
  | fuel + 1 => do
    match ← peek with
    | some c =>
      if p c then
        let _ ← take
        return c :: (← takeWhile p fuel)
      else return []
    | none => return []

/-- The text up to a closing apostrophe; the opening one was in a line. -/
def takeApostrophes (line : Nat) : (fuel : Nat) → ScriptReader (List Char)
  | 0 => return []
  | fuel + 1 => do
    match ← take with
    | none => unfinished line "'" "Unterminated quoted string"
    | some '\'' => return []
    | some c => return c :: (← takeApostrophes line fuel)

/-- The text up to a closing apostrophe that no backslash stands in front of. -/
def takeEscaped (line : Nat) : (fuel : Nat) → ScriptReader (List Char)
  | 0 => return []
  | fuel + 1 => do
    match ← take with
    | none => unfinished line "'" ""
    | some '\'' => return []
    | some '\\' =>
      let c ← take
      return '\\' :: c.toList ++ (← takeEscaped line fuel)
    | some c => return c :: (← takeEscaped line fuel)

def backquote : Char := Char.ofNat 96

/-- The text up to a closing backquote, without the backslashes that escape what is special there. -/
def takeBackquoted (inDouble : Bool) : (fuel : Nat) → ScriptReader (List Char)
  | 0 => return []
  | fuel + 1 => do
    match ← next with
    | none => unfinished (← get).line (String.ofList [backquote]) "EOF in backquote substitution"
    | some c =>
      if c = backquote then return []
      else if c = '\\' then
        match ← take with
        | none => return '\\' :: (← takeBackquoted inDouble fuel)
        | some d =>
          let isEscape := d = '\\' || d = backquote || d = '$' || (inDouble && d = '"')
          let rest ← takeBackquoted inDouble fuel
          return if isEscape then d :: rest else '\\' :: d :: rest
      else return c :: (← takeBackquoted inDouble fuel)

/-! ## Here-documents -/

/-- The lines of a here-document up to its mark. A line that is continued does not end before the one
behind it. -/
def documentLines (a : Awaited) : (fuel : Nat) → (continued : Bool) → (text : List Char) → Place →
    List Char × Place
  | 0, _, text, p => (text, p)
  | fuel + 1, continued, text, p =>
    if p.rest.isEmpty then (text, p)
    else
      let tabless := if a.stripsTabs && !continued then p.rest.dropWhile (· == '\t') else p.rest
      let line := tabless.takeWhile (· != '\n')
      let after := tabless.drop line.length
      let p := { p with rest := after.drop 1, line := if after.isEmpty then p.line else p.line + 1 }
      if !continued && line == a.mark.toList then (text, p)
      else
        let slashes := (line.reverse.takeWhile (· == '\\')).length
        let continued := !a.isLiteral && slashes % 2 == 1
        documentLines a fuel continued (text ++ line ++ after.take 1) p

/-! ## Words -/

/-- What ends the text that is read as between double quotes. -/
inductive Until
  | quote
  | brace
  | parentheses
  | never
deriving DecidableEq

/-- Characters that end a word. -/
def endsWord (c : Char) : Bool :=
  [' ', '\t', '\n', ';', '&', '|', '<', '>', '(', ')'].contains c

/-- The use of a parameter that a character stands for. -/
def useOf? (c : Char) : Option Use :=
  match c with
  | '-' => some .orWord
  | '=' => some .orAssign
  | '?' => some .orFail
  | '+' => some .ifSet
  | _ => none

/-- The name of a parameter in braces: letters and digits, digits, or one special character. -/
def takeName (fuel : Nat) : ScriptReader (Option String) := do
  match ← peek with
  | none => return none
  | some c =>
    if isNameStart c then return some (String.ofList (← takeWhile isNamePart fuel))
    else if isDigit c then return some (String.ofList (← takeWhile isDigit fuel))
    else if isSpecial c then
      let _ ← take
      return some (String.ofList [c])
    else return none

/-- Takes a character that means nothing where it stands, be it a line's end. -/
def dropOne : ScriptReader Unit :=
  modify fun p => { p with rest := p.rest.drop 1 }

/-- The operator behind a parameter's name in braces. -/
def takeUse : ScriptReader (Use × Bool) := do
  match ← peek with
  | some '\x7d' => return (.value, false)
  | some ':' =>
    let _ ← take
    let c? ← peek
    if c? = some '\x7d' then return (.value, false)
    else
      match c?.bind useOf? with
      | some use =>
        let _ ← take
        return (use, true)
      | none =>
        dropOne
        return (.faulty, false)
  | some '%' =>
    let _ ← take
    return (.withoutEnd (← accept '%'), false)
  | some '#' =>
    let _ ← take
    return (.withoutStart (← accept '#'), false)
  | some c =>
    match useOf? c with
    | some use =>
      let _ ← take
      return (use, false)
    | none =>
      dropOne
      return (.faulty, false)
  | none => return (.faulty, false)

/-- The name and the use of a parameter in braces. A number sign in front asks for the length, unless it
is the parameter itself. -/
def takeParameter (fuel : Nat) : ScriptReader (String × Use × Bool) := do
  match (← takeName fuel) with
  | none =>
    if (← peek) ≠ some '\x7d' then dropOne
    return ("", .faulty, false)
  | some "#" =>
    match (← get).rest with
    | '\x7d' :: _ => return ("#", .value, false)
    | c :: d :: _ =>
      if isNameStart c || isDigit c || (isSpecial c && d == '\x7d') then
        let name ← takeName fuel
        let isWhole := (← peek) = some '\x7d'
        return (name.getD "", if isWhole then .length else .faulty, false)
      else if d == '\x7d' then
        dropOne
        return ("", .faulty, false)
      else
        let (use, orEmpty) ← takeUse
        return ("#", use, orEmpty)
    | _ => return ("#", .faulty, false)
  | some name =>
    let (use, orEmpty) ← takeUse
    return (name, use, orEmpty)

def isTrim : Use → Bool
  | .withoutStart _ | .withoutEnd _ => true
  | _ => false

/-- The descriptor in front of a redirection. -/
def descriptor? (d : Dialect) (s : List Char) : Option (Option Nat) :=
  if s.isEmpty then some none
  else if s.all isDigit && (s.length = 1 || d = .wide) then
    some (some (s.foldl (fun n c => 10 * n + (c.toNat - 48)) 0))
  else none

/-- The operator of a redirection. -/
def takeRedirection : ScriptReader String := do
  match ← next with
  | some '<' =>
    if ← accept '<' then
      if (← isWide) && (← accept '<') then return "<<<"
      else return if ← accept '-' then "<<-" else "<<"
    else if ← accept '&' then return "<&"
    else if ← accept '>' then return "<>"
    else return "<"
  | _ =>
    if ← accept '>' then return ">>"
    else if ← accept '&' then return ">&"
    else if ← accept '|' then return ">|"
    else return ">"

/-- What a word means as the name of a descriptor. -/
def copyTarget (d : Dialect) (w : Word) : Target :=
  match w with
  | [.plain "-"] => .close
  | [.plain s] =>
    match if s.isEmpty then none else descriptor? d s.toList with
    | some (some n) => .copy n
    | _ => .copyNamed w
  | _ => .copyNamed w

/-- The text that a word would have without its quotes. -/
def bareText : Word → String
  | [] => ""
  | .plain s :: rest => s ++ bareText rest
  | .literal s :: rest => s ++ bareText rest
  | .double inner :: rest => bareDouble inner ++ bareText rest
  | _ :: rest => bareText rest
where
  /-- The text between double quotes. -/
  bareDouble : List Piece → String
    | [] => ""
    | .plain s :: rest => s ++ bareDouble rest
    | .literal s :: rest => s ++ bareDouble rest
    | _ :: rest => bareDouble rest

/-- Puts a token back. -/
def putBack (t : Token) : ScriptReader Unit :=
  modify fun p => { p with back := some t }

/-- The text of a token. -/
def tokenText : Token → String
  | .ending => ""
  | .newline => "newline"
  | .word w => bareText w
  | .keyword s | .operator s => s
  | .redirection _ s => s

/-- Refuses a token in the way of the wide dialect. -/
def unexpectedHere {α : Type} (t : Token) : ScriptReader α := do
  let p ← get
  match t with
  | .ending => throw ⟨p.line, ["syntax error: unexpected end of file"], false⟩
  | .newline => throw ⟨p.line - 1, ["syntax error near unexpected token " ++ named "newline"], true⟩
  | t => throw ⟨p.line, ["syntax error near unexpected token " ++ named (tokenText t)], true⟩

def unexpected {α : Type} (t : Token) : ScriptReader α := do
  if ← isWide then unexpectedHere t else fault (t.title ++ " unexpected")

def unexpectedFor {α : Type} (t : Token) (wanted : String) : ScriptReader α := do
  if ← isWide then unexpectedHere t else fault (t.title ++ " unexpected (expecting " ++ wanted ++ ")")

/-- Takes the next operator that divides commands, if one stands here. -/
def takeOperator : ScriptReader (Option Token) := do
  match ← peek with
  | none => return some .ending
  | some c =>
    let two (first : String) : ScriptReader (Option Token) := do
      let _ ← take
      return some (.operator (if ← accept c then first ++ first else first))
    match c with
    | '\n' =>
      let _ ← take
      return some .newline
    | '&' =>
      if (← isWide) && (← get).rest.take 2 == ['&', '>'] then
        let _ ← take
        let _ ← take
        return some (.redirection none (if ← accept '>' then "&>>" else "&>"))
      else two "&"
    | '|' =>
      if (← isWide) && (← get).rest.take 2 == ['|', '&'] then
        let _ ← take
        let _ ← take
        return some (.operator "|&")
      else two "|"
    | ';' =>
      match ← two ";" with
      | some (.operator s) => return some (.operator (if (← isWide) && (← accept '&') then s ++ "&" else s))
      | t => return t
    | '(' | ')' =>
      let _ ← take
      return some (.operator (String.ofList [c]))
    | _ => return none

/-- Skips blanks and a comment. -/
def skipBlanks : (fuel : Nat) → ScriptReader Unit
  | 0 => return
  | fuel + 1 => do
    match ← peek with
    | some ' ' | some '\t' =>
      let _ ← take
      skipBlanks fuel
    | some '#' => modify fun p => { p with rest := p.rest.dropWhile (· != '\n') }
    | _ => return

/-- Whether the pieces of a word, the last one first, are an assignment without value. -/
def opensList (pieces : Word) : Bool :=
  (Assigning.ofWord? pieces.reverse).any fun a => a.value.isEmpty

/-- Whether an index in brackets, behind the opening one, ends in front of an assignment. -/
def endsIndex : (depth : Nat) → List Char → Bool
  | _, [] => false
  | depth, '\\' :: _ :: rest => endsIndex depth rest
  | depth, c :: rest =>
    if c = '\n' then false
    else if c = ']' && depth = 0 then rest.head? = some '=' || rest.take 2 == ['+', '=']
    else endsIndex (if c = '[' then depth + 1 else if c = ']' then depth - 1 else depth) rest

/-- Whether an opening bracket behind the pieces of a word begins an index. -/
def opensIndex (isInList : Bool) (pieces : Word) (rest : List Char) : Bool :=
  match pieces with
  | [] => isInList && endsIndex 0 rest
  | [.plain s] => isName s && endsIndex 0 rest
  | _ => false

/-- A command that only names a file to read stands for showing it. -/
def shownFile? (d : Dialect) (body : Option Command) : Option Command :=
  match d, body with
  | .wide, some (.simple line [] [] [.make 0 (.input w)]) =>
    some (.simple line [] [[.plain "cat"]] [.make 0 (.input w)])
  | _, body => body

/-- The parts of a text between semicolons. -/
def semicolonParts (current : Word) : Word → List Word
  | [] => [current]
  | .literal s :: rest =>
    let parts := s.toList.splitOn ';'
    let piece (cs : List Char) : Word := if cs.isEmpty then [] else [.literal (String.ofList cs)]
    match parts with
    | [] => semicolonParts current rest
    | [cs] => semicolonParts (current ++ piece cs) rest
    | first :: others =>
      (current ++ piece first) :: (others.dropLast.map piece ++ semicolonParts (piece (others.getLastD [])) rest)
  | p :: rest => semicolonParts (current ++ [p]) rest

/-- A command whose errors go where its output goes. -/
def withErrors (line : Nat) (c : Command) : Command :=
  let r : Redirection := .make 2 (.copy 1)
  match c with
  | .simple line assignments words redirections => .simple line assignments words (redirections ++ [r])
  | .subshell line body redirections => .subshell line body (redirections ++ [r])
  | .redirected line body redirections => .redirected line body (redirections ++ [r])
  | c => .redirected line c [r]

/-- How a clause of a choice ends. -/
inductive ClauseEnd
  /-- The choice is over. -/
  | over
  /-- The next clause is run too. -/
  | through
  /-- The patterns of the next clauses are tried too. -/
  | onward
deriving DecidableEq

/-- The clauses of a choice that ends with each of them, for such that go on; the last one comes first. -/
def settledClauses (line : Nat) (subject : Word) (later : List (List Word × Option Command)) :
    List (List Word × Option Command × ClauseEnd) → List (List Word × Option Command)
  | [] => later
  | (patterns, body, ending) :: before =>
    let next? : Option Command :=
      match ending with
      | .over => none
      | .through => later.head?.bind (·.2)
      | .onward => some (.choice line subject later)
    let body := match body, next? with
      | some c, some next => some (.sequence c next)
      | none, next? => next?
      | body, none => body
    settledClauses line subject ((patterns, body) :: later) before

/-- Runs a reader that was begun in a line, to which faults of a missing quote belong in the wide dialect. -/
def begunAt {α : Type} (line : Nat) (r : ScriptReader α) : ScriptReader α := do
  let wide ← isWide
  try r
  catch f =>
    let isQuote := f.messages == ["unexpected EOF while looking for matching " ++ named "\""]
    throw (if wide && isQuote then { f with line := line } else f)

/-- Operators between two words of a condition. -/
def wideComparisons : List String :=
  ["==", "=", "!=", "=~", "-eq", "-ne", "-lt", "-le", "-gt", "-ge", "-nt", "-ot", "-ef"]

/-- Whether a word of a condition asks something of the next one. -/
def isUnaryTest (s : String) : Bool :=
  match s.toList with
  | ['-', c] => "abcdefghknoprstuvwxzGLNORS".toList.contains c
  | _ => false

mutual

/-- The pieces of a word, onto those before, the last one first. A word in braces ends behind a closing
brace, any other in front of a character that ends words. -/
def readWord : (fuel : Nat) → (inBraces : Bool) → (pieces : Word) → ScriptReader Word
  | 0, _, pieces => return pieces.reverse
  | fuel + 1, inBraces, pieces => do
    match ← peek with
    | none =>
      if inBraces then unfinished (← get).line "\x7d" "Missing '\x7d'" else return pieces.reverse
    | some c =>
      let wide ← isWide
      let second := ((← get).rest.drop 1).head?
      if wide && !inBraces && (c = '<' || c = '>') && second = some '(' then
        let _ ← take
        let _ ← take
        let body ← readInner fuel
        readWord fuel inBraces (.process (c = '<') body :: pieces)
      else if wide && !inBraces && c = '[' && opensIndex (← get).isInList pieces ((← get).rest.drop 1) then
        let _ ← take
        let index ← readIndex fuel 0 []
        readWord fuel inBraces (.plain "]" :: index.reverse ++ Word.pushPlain '[' pieces)
      else if wide && !inBraces && c = '(' && opensList pieces then
        let _ ← take
        let p ← get
        set { p with isInList := true }
        let (items, t) ← readListItems fuel []
        modify fun q => { q with isInList := p.isInList }
        if !t.isOperator ")" then unfinished (← get).line ")" ""
        readWord fuel inBraces (.list items :: pieces)
      else if (← get).hasGroups && "?*+@!".toList.contains c && second = some '(' then
        let _ ← take
        let _ ← take
        readWord fuel inBraces (← readGroup fuel 1 (Word.pushPlain '(' (Word.pushPlain c pieces)))
      else if !inBraces && endsWord c then return pieces.reverse
      else
        let line := (← get).line
        let _ ← take
        if c = '\x7d' && inBraces then return pieces.reverse
        else if c = '\\' then
          let d ← take
          readWord fuel inBraces (Word.pushLiteral (d.getD '\\') pieces)
        else if c = '\'' then
          let s ← takeApostrophes line fuel
          readWord fuel inBraces (.literal (String.ofList s) :: pieces)
        else if wide && c = '$' && second = some '\'' then
          let _ ← take
          let s ← takeEscaped line fuel
          readWord fuel inBraces (.literal (String.ofList (Escaped.quoted s)) :: pieces)
        else if wide && c = '$' && second = some '"' then readWord fuel inBraces pieces
        else if c = '"' then
          let inner ← begunAt line (readDouble fuel .quote false 0 [])
          readWord fuel inBraces (.double inner :: pieces)
        else if c = '$' || c = backquote then
          let p ← readExpansion fuel false c
          readWord fuel inBraces (p.elim (Word.pushPlain c pieces) (· :: pieces))
        else readWord fuel inBraces (Word.pushPlain c pieces)

/-- The words of a list up to a closing parenthesis, and what ends them. -/
def readListItems : (fuel : Nat) → (items : List Word) → ScriptReader (List Word × Token)
  | 0, items => return (items.reverse, .ending)
  | fuel + 1, items => do
    match ← readToken fuel false true with
    | .word w => readListItems fuel (w :: items)
    | t => return (items.reverse, t)

/-- The commands up to a closing parenthesis. -/
def readInner : (fuel : Nat) → ScriptReader (Option Command)
  | 0 => return none
  | fuel + 1 => do
    let p ← get
    set { p with awaited := [], hasGroups := false, isInList := false }
    let body ← readList fuel true
    let t ← readToken fuel false false
    if !t.isOperator ")" then
      if (t matches .ending) && (← isWide) then unfinished (← get).line ")" "" else unexpectedFor t "\")\""
    readDocuments fuel
    modify fun q => { q with awaited := p.awaited, hasGroups := p.hasGroups, isInList := p.isInList }
    return body

/-- The pieces of a group in a pattern up to its closing parenthesis, onto those before. So many parentheses
are open. -/
def readGroup : (fuel : Nat) → (depth : Nat) → (pieces : Word) → ScriptReader Word
  | 0, _, pieces => return pieces
  | fuel + 1, depth, pieces => do
    let line := (← get).line
    match ← next with
    | none => unfinished line ")" ""
    | some c =>
      if depth = 0 then return pieces
      else if c = '\\' then
        let d ← take
        readGroup fuel depth (Word.pushLiteral (d.getD '\\') pieces)
      else if c = '\'' then
        let s ← takeApostrophes line fuel
        readGroup fuel depth (.literal (String.ofList s) :: pieces)
      else if c = '"' then
        let inner ← begunAt line (readDouble fuel .quote false 0 [])
        readGroup fuel depth (.double inner :: pieces)
      else if c = '$' || c = backquote then
        let p ← readExpansion fuel false c
        readGroup fuel depth (p.elim (Word.pushPlain c pieces) (· :: pieces))
      else
        let pieces := Word.pushPlain c pieces
        if c = ')' && depth = 1 then return pieces
        else readGroup fuel (if c = '(' then depth + 1 else if c = ')' then depth - 1 else depth) pieces

/-- The pieces of a regular expression, which ends in front of a blank or of an operator that is in no
parentheses, onto those before. -/
def readExpression : (fuel : Nat) → (pieces : Word) → ScriptReader Word
  | 0, pieces => return pieces.reverse
  | fuel + 1, pieces => do
    let line := (← get).line
    match ← peek with
    | none => return pieces.reverse
    | some c =>
      if c = '(' then
        let _ ← take
        readExpression fuel (← readGroup fuel 1 (Word.pushPlain c pieces))
      else if endsWord c && c ≠ '|' then return pieces.reverse
      else
        let _ ← take
        if c = '\\' then
          let d ← take
          readExpression fuel (Word.pushLiteral (d.getD '\\') pieces)
        else if c = '\'' then
          let s ← takeApostrophes line fuel
          readExpression fuel (.literal (String.ofList s) :: pieces)
        else if c = '"' then
          let inner ← begunAt line (readDouble fuel .quote false 0 [])
          readExpression fuel (.double inner :: pieces)
        else if c = '$' && (← get).rest.head? = some '\'' then
          let _ ← take
          let s ← takeEscaped line fuel
          readExpression fuel (.literal (String.ofList (Escaped.quoted s)) :: pieces)
        else if c = '$' || c = backquote then
          let p ← readExpansion fuel false c
          readExpression fuel (p.elim (Word.pushPlain c pieces) (· :: pieces))
        else readExpression fuel (Word.pushPlain c pieces)

/-- The pieces of an index up to its closing bracket, onto those before. So many brackets are open in it. -/
def readIndex : (fuel : Nat) → (depth : Nat) → (pieces : Word) → ScriptReader Word
  | 0, _, pieces => return pieces.reverse
  | fuel + 1, depth, pieces => do
    let line := (← get).line
    match ← next with
    | none => unfinished line "\x7d" ""
    | some c =>
      if c = ']' && depth = 0 then return pieces.reverse
      else if c = '\'' then
        let s ← takeApostrophes line fuel
        readIndex fuel depth (.literal (String.ofList s) :: pieces)
      else if c = '"' then
        let inner ← begunAt line (readDouble fuel .quote false 0 [])
        readIndex fuel depth (.double inner :: pieces)
      else if c = '$' || c = backquote then
        let p ← readExpansion fuel false c
        readIndex fuel depth (p.elim (Word.pushPlain c pieces) (· :: pieces))
      else
        let depth := if c = '[' then depth + 1 else if c = ']' then depth - 1 else depth
        readIndex fuel depth (Word.pushPlain c pieces)

/-- What is made of a value behind its name in braces; nothing if that cannot be read. -/
def readMaking : (fuel : Nat) → (inDouble : Bool) → ScriptReader (Option Making)
  | 0, _ => return none
  | fuel + 1, inDouble => do
    let used (use : Use) (orEmpty : Bool) : ScriptReader (Option Making) := do
      let word ←
        if inDouble && !isTrim use then readDouble fuel .brace false 0 []
        else readWord fuel true []
      return some (.use use orEmpty word)
    let casing (c : Char) (how : Casing) : ScriptReader (Option Making) := do
      let all ← accept c
      return some (.casing how all (← readWord fuel true []))
    match ← next with
    | some '\x7d' => return some (.use .value false [])
    | some ':' =>
      match (← peek).bind useOf? with
      | some use =>
        let _ ← take
        used use true
      | none =>
        let w ← readWord fuel true []
        match Word.splitAt? (· == ':') '(' ')' 0 w.units with
        | some (offset, length) => return some (.slice (Word.ofUnits offset) (some (Word.ofUnits length)))
        | none => return some (.slice w none)
    | some '%' => do used (.withoutEnd (← accept '%')) false
    | some '#' => do used (.withoutStart (← accept '#')) false
    | some '/' =>
      let how : Replacing ←
        if ← accept '/' then pure .all
        else if ← accept '#' then pure .atStart
        else if ← accept '%' then pure .atEnd
        else pure .first
      let w ← readWord fuel true []
      match Word.splitAt? (· == '/') '\x00' '\x00' 0 w.units with
      | some (pattern, replacement) =>
        return some (.replace how (Word.ofUnits pattern) (Word.ofUnits replacement))
      | none => return some (.replace how w [])
    | some '^' => casing '^' .upper
    | some ',' => casing ',' .lower
    | some '~' => casing '~' .other
    | some '@' =>
      match (← get).rest with
      | c :: '\x7d' :: _ =>
        let _ ← take
        let _ ← take
        if "QEPAKakUuL".toList.contains c then return some (.transform c) else return none
      | _ => return none
    | some c =>
      match useOf? c with
      | some use => used use false
      | none => return none
    | none => return none

/-- A parameter of the wide dialect in braces, behind the opening one. -/
def readMade : (fuel : Nat) → (inDouble : Bool) → ScriptReader Piece
  | 0, _ => return .plain ""
  | fuel + 1, inDouble => do
    let start := (← get).rest
    let line := (← get).line
    let faulty : ScriptReader Piece := do
      let after := (start.dropWhile (· != '\x7d'))
      if after.isEmpty then unfinished line "\x7d" ""
      let raw := start.take (start.length - after.length)
      modify fun p => { p with rest := after.drop 1 }
      return .parameter (String.ofList (['$', '\x7b'] ++ raw ++ ['\x7d'])) .faulty false []
    let index? : ScriptReader (Option Word) := do
      if (← peek) = some '[' then
        let _ ← take
        return some (← readIndex fuel 0 [])
      else return none
    if start.isEmpty then unfinished line "\x7d" ""
    let isLength := start.head? = some '#' && (match start.drop 1 with
      | c :: d :: _ => isNameStart c || isDigit c || (isSpecial c && d = '\x7d')
      | _ => false)
    let isIndirect := start.head? = some '!' && (match start.drop 1 with
      | c :: _ => isNameStart c || isDigit c || c = '#' || c = '@' || c = '*'
      | _ => false)
    if isLength || isIndirect then
      let _ ← take
    match ← takeName fuel with
    | none => faulty
    | some name =>
      let index ← if isNameStart (name.toList.headD ' ') then index? else pure none
      if isLength then
        if ← accept '\x7d' then
          match index with
          | none => return .parameter name .length false []
          | some _ => return .made name index false (.use .length false [])
        else faulty
      else
        let divides := (← get).rest.take 2
        if isIndirect && index.isNone && (divides == ['*', '\x7d'] || divides == ['@', '\x7d']) then
          let _ ← take
          let _ ← take
          return .made name none false (.namesWith (divides.head? = some '@'))
        else
          match ← readMaking fuel inDouble with
          | none => faulty
          | some making =>
            if isIndirect && (match index with
              | some [.plain "@"] | some [.plain "*"] => true
              | _ => false) then return .made name index false .keys
            else
              match index, isIndirect, making with
              | none, false, .use use orEmpty word => return .parameter name use orEmpty word
              | _, _, _ => return .made name index isIndirect making

/-- The pieces of text that is read as between double quotes. `inner` says whether a quote is open
inside of braces, `depth` how many parentheses are open. -/
def readDouble : (fuel : Nat) → Until → (inner : Bool) → (depth : Nat) → (pieces : Word) →
    ScriptReader Word
  | 0, _, _, _, pieces => return pieces.reverse
  | fuel + 1, stop, inner, depth, pieces => do
    let line := (← get).line
    match ← next with
    | none =>
      match stop with
      | .never => return pieces.reverse
      | .parentheses => unfinished line ")" "Missing '))'"
      | _ => unfinished line "\"" "Unterminated quoted string"
    | some c =>
      if c = '\\' then
        match ← take with
        | none => readDouble fuel stop inner depth (Word.pushLiteral '\\' pieces)
        | some d =>
          let isEscape := d = '\\' || d = backquote || d = '$' || (d = '"' && stop ≠ .never) ||
            (d = '\x7d' && stop = .brace)
          let pieces := if isEscape then pieces else Word.pushLiteral '\\' pieces
          readDouble fuel stop inner depth (Word.pushLiteral d pieces)
      else if c = '"' && stop = .quote then return pieces.reverse
      else if c = '"' && stop = .brace then readDouble fuel stop (!inner) depth pieces
      else if c = '\x7d' && stop = .brace && !inner then return pieces.reverse
      else if c = '(' && stop = .parentheses then
        readDouble fuel stop inner (depth + 1) (Word.pushLiteral c pieces)
      else if c = ')' && stop = .parentheses then
        if depth = 0 then
          if ← accept ')' then return pieces.reverse
          else readDouble fuel stop inner 0 (Word.pushLiteral c pieces)
        else readDouble fuel stop inner (depth - 1) (Word.pushLiteral c pieces)
      else if c = '$' || c = backquote then
        let p ← readExpansion fuel true c
        readDouble fuel stop inner depth (p.elim (Word.pushLiteral c pieces) (· :: pieces))
      else readDouble fuel stop inner depth (Word.pushLiteral c pieces)

/-- The expansion that a dollar sign or a backquote begins; nothing if the dollar sign stands for
itself. -/
def readExpansion : (fuel : Nat) → (inDouble : Bool) → (sign : Char) → ScriptReader (Option Piece)
  | 0, _, _ => return none
  | fuel + 1, inDouble, sign => do
    if (← get).isMark then return none
    else if sign = backquote then
      let source ← takeBackquoted inDouble fuel
      let p ← get
      set { p with rest := source, line := 1, back := none, awaited := [] }
      let body ← readList fuel true
      readDocuments fuel
      let q ← get
      set { p with documents := q.documents }
      return some (.output body)
    else
      match ← peek with
      | some '(' =>
        let _ ← take
        if ← accept '(' then return some (.sum (← readDouble fuel .parentheses false 0 []))
        else
          return some (.output (shownFile? (← get).dialect (← readInner fuel)))
      | some '\x7b' =>
        let _ ← take
        if ← isWide then return some (← readMade fuel inDouble)
        let (name, use, orEmpty) ← takeParameter fuel
        if use = .value || use = .length then
          let _ ← take
          return some (.parameter name use false [])
        else
          let word ←
            if inDouble && !isTrim use then readDouble fuel .brace false 0 []
            else readWord fuel true []
          return some (.parameter name use orEmpty word)
      | some c =>
        if isNameStart c then
          return some (.parameter (String.ofList (← takeWhile isNamePart fuel)) .value false [])
        else if isSpecial c then
          let _ ← take
          return some (.parameter (String.ofList [c]) .value false [])
        else return none
      | none => return none

/-- Takes the texts of the here-documents that were asked for. -/
def readDocuments : (fuel : Nat) → ScriptReader Unit
  | 0 => return
  | fuel + 1 => do
    match (← get).awaited with
    | [] => return
    | a :: rest =>
      let (text, after) := documentLines a fuel false [] (← get)
      let w ←
        if a.isLiteral then pure [Piece.literal (String.ofList text)]
        else do
          let line := (← get).line
          set { after with rest := text, line := line }
          readDouble fuel .never false 0 []
      let documents := (← get).documents.setIfInBounds a.number w
      set { after with awaited := rest, documents := documents }
      readDocuments fuel

/-- The next token. In some places words may be keywords, and in some line ends do not count. -/
def readToken : (fuel : Nat) → (keywords newlines : Bool) → ScriptReader Token
  | 0, _, _ => return .ending
  | fuel + 1, keywords, newlines => do
    let t ←
      match (← get).back with
      | some t =>
        modify fun p => { p with back := none }
        pure t
      | none => readFresh fuel
    match t with
    | .newline =>
      if newlines then
        readDocuments fuel
        readToken fuel keywords newlines
      else return t
    | .word w =>
      match if keywords then w.plain? else none with
      | some s =>
        if Token.keywords.contains s || ((← isWide) && Token.wideKeywords.contains s) then return .keyword s
        else
          let p ← get
          match p.alias? s with
          | some text =>
            set (p.openAlias s text)
            readToken fuel keywords newlines
          | none => return t
      | none => return t
    | _ => return t

/-- The next token of the text. -/
def readFresh : (fuel : Nat) → ScriptReader Token
  | 0 => return .ending
  | fuel + 1 => do
    skipBlanks fuel
    match ← takeOperator with
    | some t => return t
    | none =>
      let w ← readWord fuel false []
      match ← peek with
      | some c =>
        let s := if w.isEmpty then some "" else w.plain?
        let d := (← get).dialect
        match if c = '<' || c = '>' then s.bind fun s => descriptor? d s.toList else none with
        | some descriptor => return .redirection descriptor (← takeRedirection)
        | none => return .word w
      | none => return .word w

/-- A list of commands inside of another command, up to a token that ends it. Only the lists of some
commands may be empty. -/
def readList : (fuel : Nat) → (mayBeEmpty : Bool) → ScriptReader (Option Command)
  | 0, _ => return none
  | fuel + 1, mayBeEmpty => do
    let t ← readToken fuel true true
    putBack t
    if (mayBeEmpty && t.endsList) || t matches .ending then return none
    else some <$> readRest fuel (← readItem fuel)

/-- The rest of a list, behind its first commands and what divides them from the others. -/
def readRest : (fuel : Nat) → (first : Command × Token) → ScriptReader Command
  | 0, (c, _) => return c
  | fuel + 1, (c, divider) => do
    if divider.isOperator "&" || divider.isOperator ";" || divider matches .newline then
      let t ← readToken fuel true true
      putBack t
      if t.endsList then return c
      else
        let (d, divider) ← readItem fuel
        readRest fuel (.sequence c d, divider)
    else
      putBack divider
      return c

/-- Commands joined by conditions, and the token behind them. Those in front of a lone ampersand run in
the background. -/
def readItem : (fuel : Nat) → ScriptReader (Command × Token)
  | 0 => return (default, .ending)
  | fuel + 1 => do
    let line := (← get).line
    let c ← readConditions fuel (← readPipeline fuel)
    let t ← readToken fuel false false
    if t.isOperator "&" then
      match c with
      | .redirected l body redirections => return (.background l body redirections, t)
      | c => return (.background line c [], t)
    else
      if t matches .newline then putBack t
      return (c, t)

/-- What follows a pipeline: conditions with further ones. -/
def readConditions : (fuel : Nat) → Command → ScriptReader Command
  | 0, c => return c
  | fuel + 1, c => do
    let t ← readToken fuel false false
    if t.isOperator "&&" || t.isOperator "||" then
      let next ← readToken fuel true true
      putBack next
      let d ← readPipeline fuel
      readConditions fuel (if t.isOperator "&&" then .andThen c d else .orElse c d)
    else
      putBack t
      return c

/-- Commands joined by pipes, perhaps negated. -/
def readPipeline : (fuel : Nat) → ScriptReader Command
  | 0 => return default
  | fuel + 1 => do
    let t ← readToken fuel false false
    if t.isKeyword "!" then
      let c ← readCommand fuel (← readToken fuel true false)
      return .negation (← readPipes fuel [c])
    else if (← isWide) && (t matches .word [.plain "time"]) then
      let t ← readToken fuel true false
      let t ← if t matches .word [.plain "-p"] then readToken fuel true false else pure t
      putBack t
      if t.endsList || t.isOperator ";" || t matches .newline then return default
      else readPipeline fuel
    else
      let c ← readCommand fuel t
      readPipes fuel [c]

/-- The commands behind further pipes; those in front are given, the last one first. -/
def readPipes : (fuel : Nat) → List Command → ScriptReader Command
  | 0, _ => return default
  | fuel + 1, commands => do
    let t ← readToken fuel false false
    if t.isOperator "|" then
      let c ← readCommand fuel (← readToken fuel true true)
      readPipes fuel (c :: commands)
    else if t.isOperator "|&" then
      let c ← readCommand fuel (← readToken fuel true true)
      let first := withErrors (← get).line (commands.headD default)
      readPipes fuel (c :: first :: commands.drop 1)
    else
      putBack t
      match commands with
      | [c] => return c
      | commands => return .pipeline commands.reverse

/-- A list that has to be followed by a keyword. -/
def readUpTo : (fuel : Nat) → (keyword : String) → ScriptReader Command
  | 0, _ => return default
  | fuel + 1, keyword => do
    let c ← readList fuel false
    let t ← readToken fuel true false
    if t.isKeyword keyword then return c.getD default
    else unexpectedFor t ("\"" ++ keyword ++ "\"")

/-- The rest of a conditional, behind its first word. -/
def readConditional : (fuel : Nat) → ScriptReader Command
  | 0 => return default
  | fuel + 1 => do
    let condition ← readUpTo fuel "then"
    let yes := (← readList fuel false).getD default
    let t ← readToken fuel true false
    if t.isKeyword "elif" then return .conditional condition yes (some (← readConditional fuel))
    else if t.isKeyword "else" then
      return .conditional condition yes (some (← readUpTo fuel "fi"))
    else if t.isKeyword "fi" then return .conditional condition yes none
    else unexpectedFor t "\"fi\""

/-- Words up to another token, which comes with them. -/
def readItems : (fuel : Nat) → (items : List Word) → ScriptReader (List Word × Token)
  | 0, items => return (items.reverse, .ending)
  | fuel + 1, items => do
    match ← readToken fuel false false with
    | .word w => readItems fuel (w :: items)
    | t => return (items.reverse, t)

/-- The patterns of a clause, the first one being given, and the token behind them. -/
def readPatterns : (fuel : Nat) → (patterns : List Word) → Token → ScriptReader (List Word × Token)
  | 0, patterns, t => return (patterns.reverse, t)
  | fuel + 1, patterns, t => do
    let w : Word :=
      match t with
      | .word w => w
      | .keyword s => [.plain s]
      | _ => []
    let next ← readToken fuel false false
    if next.isOperator "|" then readPatterns fuel (w :: patterns) (← readToken fuel false false)
    else return ((w :: patterns).reverse, next)

/-- The clauses of a choice, the last one first. -/
def readClauses : (fuel : Nat) → (clauses : List (List Word × Option Command × ClauseEnd)) →
    ScriptReader (List (List Word × Option Command × ClauseEnd))
  | 0, clauses => return clauses
  | fuel + 1, clauses => do
    let t ← readToken fuel true true
    if t.isKeyword "esac" then return clauses
    else
      let t ← if t.isOperator "(" then readToken fuel false false else pure t
      let (patterns, closing) ← readPatterns fuel [] t
      if !closing.isOperator ")" then unexpectedFor closing "\")\""
      let body ← readList fuel true
      let t ← readToken fuel true true
      let clause (ending : ClauseEnd) := (patterns, body, ending) :: clauses
      if t.isKeyword "esac" then return clause .over
      else if t.isOperator ";;" then readClauses fuel (clause .over)
      else if t.isOperator ";&" then readClauses fuel (clause .through)
      else if t.isOperator ";;&" then readClauses fuel (clause .onward)
      else unexpectedFor t "\";;\""

/-- One command, from its first token on. -/
def readCommand : (fuel : Nat) → Token → ScriptReader Command
  | 0, _ => return default
  | fuel + 1, t => do
    let line := (← get).line
    match t with
    | .word _ | .redirection _ _ =>
      putBack t
      readSimple fuel line [] [] []
    | .keyword "if" => do readAfter fuel line (← readConditional fuel)
    | .keyword "while" | .keyword "until" =>
      let condition ← readUpTo fuel "do"
      readAfter fuel line (.loop (t.isKeyword "while") condition (← readUpTo fuel "done"))
    | .keyword "[[" =>
      let test ← readTest fuel
      let t ← readToken fuel false true
      match t with
      | .word [.plain "]]"] => readAfter fuel line (.test (← get).line test)
      | t => unexpected t
    | .keyword "function" =>
      match ← readToken fuel false false with
      | .word w =>
        let t ← readToken fuel true true
        if t.isOperator "(" then
          let t ← readToken fuel false false
          if !t.isOperator ")" then unexpected t
        else putBack t
        return .define (bareText w) (← readBody fuel)
      | t => unexpected t
    | .keyword "for" | .keyword "select" =>
      let isMenu := t.isKeyword "select"
      match ← readToken fuel false false with
      | .operator "(" =>
        if !(← isWide) then fault "Bad for loop variable"
        if !(← accept '(') then unexpected (.operator "(")
        let parts := semicolonParts [] (← readDouble fuel .parentheses false 0 [])
        let t ← readToken fuel true true
        let t ← if t.isOperator ";" then readToken fuel true true else pure t
        match parts with
        | [first, condition, step] =>
          let body ←
            if t.isKeyword "do" then readUpTo fuel "done"
            else if t.isKeyword "\x7b" then readUpTo fuel "\x7d"
            else unexpected t
          readAfter fuel line (.counting line first condition step body)
        | _ => throw ⟨line, ["syntax error: arithmetic expression required"], true⟩
      | .word w =>
        let name := (w.plain?.getD "")
        if !isName name then fault "Bad for loop variable"
        let t ← readToken fuel true true
        let items ←
          if t.isKeyword "in" then
            let (items, t) ← readItems fuel []
            if !(t.isOperator ";" || t matches .newline) then unexpected t
            if t matches .newline then putBack t
            pure items
          else
            if !t.isOperator ";" then putBack t
            pure [[.double [.parameter "@" .value false []]]]
        let t ← readToken fuel true true
        if (← isWide) && t.isKeyword "\x7b" then
          readAfter fuel line (.forEach line name items (← readUpTo fuel "\x7d"))
        else
          if !t.isKeyword "do" then unexpectedFor t "\"do\""
          let body ← readUpTo fuel "done"
          readAfter fuel line (if isMenu then .menu line name items body else .forEach line name items body)
      | _ => fault "Bad for loop variable"
    | .keyword "case" =>
      match ← readToken fuel false false with
      | .word subject =>
        let t ← readToken fuel true true
        if !t.isKeyword "in" then unexpectedFor t "\"in\""
        let clauses ← readClauses fuel []
        readAfter fuel line (.choice line subject (settledClauses line subject [] clauses))
      | t => unexpectedFor t "word"
    | .operator "(" =>
      let p ← get
      let sum? : Option Word ←
        if p.dialect = .wide && p.rest.head? = some '(' then
          try
            let _ ← take
            some <$> readDouble fuel .parentheses false 0 []
          catch _ => pure none
        else pure none
      if let some sum := sum? then return ← readAfter fuel line (.reckon line sum)
      let body := (← readList fuel false).getD default
      let t ← readToken fuel true false
      if !t.isOperator ")" then unexpectedFor t "\")\""
      readAfter fuel line (.subshell line body [])
    | .keyword "\x7b" => do readAfter fuel line (← readUpTo fuel "\x7d")
    | t => unexpected t

/-- The body of a function, which is no simple command in the wide dialect. -/
def readBody : (fuel : Nat) → ScriptReader Command
  | 0 => return default
  | fuel + 1 => do
    let t ← readToken fuel true true
    if ← isWide then
      if t matches .word _ | .redirection _ _ then unexpected t
    readCommand fuel t

/-- Conditions one of which is to hold. -/
def readTest : (fuel : Nat) → ScriptReader Test
  | 0 => return .word []
  | fuel + 1 => do
    let first ← readTestBoth fuel
    let t ← readToken fuel false true
    if t.isOperator "||" then return .either first (← readTest fuel)
    else
      putBack t
      return first

/-- Conditions all of which are to hold. -/
def readTestBoth : (fuel : Nat) → ScriptReader Test
  | 0 => return .word []
  | fuel + 1 => do
    let first ← readTestOne fuel
    let t ← readToken fuel false true
    if t.isOperator "&&" then return .both first (← readTestBoth fuel)
    else
      putBack t
      return first

/-- A single condition, or one in parentheses. -/
def readTestOne : (fuel : Nat) → ScriptReader Test
  | 0 => return .word []
  | fuel + 1 => do
    let refuse {α : Type} (message : String) (t : Token) : ScriptReader α := do
      throw ⟨(← get).line, [message, "syntax error near " ++ named (tokenText t)], true⟩
    match ← readToken fuel false true with
    | .operator "(" =>
      let test ← readTest fuel
      let t ← readToken fuel false true
      if !t.isOperator ")" then refuse "expected )" t
      return test
    | .word [.plain "!"] => return .negation (← readTestOne fuel)
    | .word [.plain "]]"] => refuse "syntax error in conditional expression" (.word [.plain "]]"])
    | .word w =>
      let after ← readToken fuel false true
      let operator? : Option String :=
        match after with
        | .word [.plain s] => if wideComparisons.contains s then some s else none
        | .redirection none "<" => some "<"
        | .redirection none ">" => some ">"
        | _ => none
      match operator? with
      | some operator =>
        let p ← get
        let second ←
          if operator = "=~" then do
            skipBlanks fuel
            readExpression fuel []
          else do
            set { p with hasGroups := true }
            let t ← readToken fuel false false
            modify fun q => { q with hasGroups := p.hasGroups }
            match t with
            | .word [.plain "]]"] =>
              refuse ("unexpected argument " ++ named "]]" ++ " to conditional binary operator") t
            | .word second => pure second
            | t => refuse ("unexpected token " ++ named (tokenText t) ++ ", conditional binary operator expected") t
        return .two operator w second
      | none =>
        match w, after with
        | [.plain s], .word operand =>
          if isUnaryTest s then
            match operand with
            | [.plain "]]"] =>
              refuse ("unexpected argument " ++ named "]]" ++ " to conditional unary operator") after
            | _ => return .one s operand
          else if operand matches [.plain "]]"] then
            putBack after
            return .word w
          else refuse "conditional binary operator expected" after
        | _, .word operand =>
          if operand matches [.plain "]]"] then
            putBack after
            return .word w
          else refuse "conditional binary operator expected" after
        | _, _ =>
          putBack after
          return .word w
    | t => refuse ("unexpected token " ++ named (tokenText t) ++ " in conditional command") t

/-- What follows a command that is not simple: its redirections. -/
def readAfter : (fuel : Nat) → (line : Nat) → Command → ScriptReader Command
  | 0, _, c => return c
  | fuel + 1, line, c => do
    match ← readRedirections fuel [] with
    | [] => return c
    | redirections =>
      match c with
      | .subshell l body _ => return .subshell l body redirections
      | c => return .redirected line c redirections

/-- Redirections, onto those before, the last one first. -/
def readRedirections : (fuel : Nat) → List Redirection → ScriptReader (List Redirection)
  | 0, rs => return rs.reverse
  | fuel + 1, rs => do
    match ← readToken fuel true false with
    | .redirection descriptor operator =>
      let r ← readTarget fuel descriptor operator
      readRedirections fuel (r ++ rs)
    | t =>
      putBack t
      return rs.reverse

/-- The word behind a redirection's operator, and what it means: redirections, the last one first. -/
def readTarget : (fuel : Nat) → (descriptor : Option Nat) → (operator : String) →
    ScriptReader (List Redirection)
  | 0, _, _ => return []
  | fuel + 1, descriptor, operator => do
    modify fun p => { p with isMark := operator = "<<" || operator = "<<-" }
    let t ← readToken fuel false false
    modify fun p => { p with isMark := false }
    match t with
    | .word w =>
      let isInput := operator.startsWith "<"
      let d := descriptor.getD (if isInput then 0 else 1)
      let wide ← isWide
      let copies := copyTarget (← get).dialect w
      match operator with
      | "<" => return [.make d (.input w)]
      | "<>" => return [.make d (.both w)]
      | ">>" => return [.make d (.extend w)]
      | "<<<" => return [.make d (.text w)]
      | "&>" => return [.make 2 (.copy 1), .make 1 (.create w false)]
      | "&>>" => return [.make 2 (.copy 1), .make 1 (.extend w)]
      | ">&" | "<&" =>
        if wide && operator = ">&" && descriptor.isNone && w.plain?.isSome && (copies matches .copyNamed _) then
          return [.make 2 (.copy 1), .make 1 (.create w false)]
        else return [.make d copies]
      | "<<" | "<<-" =>
        let p ← get
        let number := p.documents.size
        let a : Awaited := ⟨number, bareText w, operator = "<<-", w.isQuoted⟩
        set { p with awaited := p.awaited ++ [a], documents := p.documents.push [] }
        return [.make d (.document number)]
      | _ => return [.make d (.create w (operator = ">|"))]
    | t => unexpected t

/-- A simple command: assignments, words and redirections. A single word in front of a parenthesis names
a function. -/
def readSimple : (fuel : Nat) → (line : Nat) → (assignments words : List Word) →
    (redirections : List Redirection) → ScriptReader Command
  | 0, _, _, _, _ => return default
  | fuel + 1, line, assignments, words, redirections => do
    match ← readToken fuel false false with
    | .word w =>
      if words.isEmpty && w.isAssignment (← get).dialect then
        readSimple fuel line (w :: assignments) words redirections
      else
        let isFirst := words.isEmpty && assignments.isEmpty && redirections.isEmpty
        let line ←
          if isFirst && (← isWide) then
            let t ← readToken fuel false false
            putBack t
            let after := (← get).line
            pure (if t matches .newline then after - 1 else after)
          else pure line
        readSimple fuel line assignments (w :: words) redirections
    | .redirection descriptor operator =>
      let r ← readTarget fuel descriptor operator
      readSimple fuel line assignments words (r ++ redirections)
    | t =>
      match words with
      | [w] =>
        if t.isOperator "(" && assignments.isEmpty && redirections.isEmpty then
          let t ← readToken fuel false false
          if !t.isOperator ")" then unexpectedFor t "\")\""
          let wide ← isWide
          match w.plain?.filter fun s => wide || (isName s && !Token.specialCommands.contains s) with
          | none => fault "Bad function name"
          | some name => return .define name (← readBody fuel)
        else
          putBack t
          return .simple line assignments.reverse words.reverse redirections.reverse
      | _ =>
        putBack t
        return .simple line assignments.reverse words.reverse redirections.reverse

end

/-- The commands up to a line's end, behind those before. -/
def readLine : (fuel : Nat) → Option Command → ScriptReader (Option Command)
  | 0, c => return c
  | fuel + 1, c => do
    match ← readToken fuel true false with
    | .newline =>
      readDocuments fuel
      return c
    | .ending =>
      readDocuments fuel
      return c
    | t =>
      putBack t
      let (d, divider) ← readItem fuel
      let c := some (match c with
        | some c => .sequence c d
        | none => d)
      if divider.isOperator "&" || divider.isOperator ";" || divider matches .newline then
        readLine fuel c
      else if divider matches .ending then
        readDocuments fuel
        return c
      else unexpected divider

end ScriptReader

/-- The commands of a script's next line that has any, and the place behind them; nothing at the script's
end. -/
def Place.nextLine (p : Place) : Except SyntaxFault (Option (Command × Place)) :=
  go (p.rest.length + 1) p
where
  /-- Messages with one more that shows the line. -/
  withLine (text : String) (messages : List String) : List String :=
    messages ++ [(if messages.any fun m => m.endsWith "required" then "syntax error: " else "") ++
      ScriptReader.named text]
  /-- Skips lines without commands. -/
  go : (lines : Nat) → Place → Except SyntaxFault (Option (Command × Place))
    | 0, _ => .ok none
    | lines + 1, p =>
      if p.rest.isEmpty then .ok none
      else
        match (ScriptReader.readLine (12 * p.rest.length + 100) none).run p with
        | .error f =>
          let text := String.ofList (((p.rest.splitOn '\n')[f.line - p.line]?).getD [])
          .error (if f.showsLine then
            { f with messages := withLine text f.messages } else f)
        | .ok (some c, p) => .ok (some (c, { p with back := none }))
        | .ok (none, p) => go lines { p with back := none }

end AddonAtlas.Shell
