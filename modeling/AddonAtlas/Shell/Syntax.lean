/-!
# The syntax of shell scripts

Commands, their words, and the redirections of their inputs and outputs. A word is made of pieces,
each of which is expanded in its own way when the command runs. Texts inside of a script are bytes, each
kept as the character of its code. The wide dialect has more of all this than the plain one: lists of values,
conditions and arithmetic as commands, and more that can be made of a value.
-/

namespace AddonAtlas.Shell

/-- Which scripts a shell understands. -/
inductive Dialect
  | plain
  | wide
deriving DecidableEq, Repr

/-- What is made of a parameter's value. -/
inductive Use
  | value
  | length
  /-- The value, or else a word. -/
  | orWord
  /-- The value, or else a word, which becomes the value. -/
  | orAssign
  /-- The value, or else a failure. -/
  | orFail
  /-- A word if there is a value, else nothing. -/
  | ifSet
  /-- The value without what a pattern matches at its start. -/
  | withoutStart (longest : Bool)
  /-- The value without what a pattern matches at its end. -/
  | withoutEnd (longest : Bool)
  /-- Written in a way that means nothing. -/
  | faulty
deriving DecidableEq, Repr

/-- Which parts of a value that match a pattern are replaced. -/
inductive Replacing
  | first
  | all
  | atStart
  | atEnd
deriving DecidableEq, Repr

/-- What becomes of letters. -/
inductive Casing
  | upper
  | lower
  | other
deriving DecidableEq, Repr

mutual

/-- A piece of a word. -/
inductive Piece
  /-- Text as it stands, in which patterns count. -/
  | plain (s : String)
  /-- Text that stands for itself only. -/
  | literal (s : String)
  /-- What stands between double quotes. -/
  | double (pieces : List Piece)
  /-- A parameter; `orEmpty` says that an empty value is as good as none. -/
  | parameter (name : String) (use : Use) (orEmpty : Bool) (word : List Piece)
  /-- The output of a command. -/
  | output (body : Option Command)
  /-- The value of an arithmetic expression. -/
  | sum (expression : List Piece)
  /-- A parameter, or an element of a list, perhaps one that a value names, and what is made of it. -/
  | made (name : String) (index : Option (List Piece)) (isIndirect : Bool) (making : Making)
  /-- The values of a list. -/
  | list (items : List (List Piece))
  /-- The path of a file that a command writes, or reads. -/
  | process (isInput : Bool) (body : Option Command)

/-- What is made of a value in the wide dialect. -/
inductive Making
  | use (use : Use) (orEmpty : Bool) (word : List Piece)
  /-- A part, from an offset on. -/
  | slice (offset : List Piece) (length : Option (List Piece))
  | replace (how : Replacing) (pattern replacement : List Piece)
  /-- Letters that match a pattern are changed, all of them or the first one. -/
  | casing (how : Casing) (all : Bool) (pattern : List Piece)
  /-- The places of a list's values. -/
  | keys
  /-- The names of variables that begin with the name. -/
  | namesWith (isDivided : Bool)
  | transform (letter : Char)

/-- What a descriptor is made. -/
inductive Target
  | input (name : List Piece)
  /-- A file to be written anew. -/
  | create (name : List Piece) (replaces : Bool)
  /-- A file to be written on at its end. -/
  | extend (name : List Piece)
  /-- A file for both directions. -/
  | both (name : List Piece)
  | copy (descriptor : Nat)
  | close
  /-- The descriptor that a word names. -/
  | copyNamed (name : List Piece)
  /-- The text of the script's here-document of this number. -/
  | document (number : Nat)
  /-- The text of a word. -/
  | text (w : List Piece)

inductive Redirection
  | make (descriptor : Nat) (target : Target)

/-- A condition between double brackets. -/
inductive Test
  | word (w : List Piece)
  | one (operator : String) (operand : List Piece)
  | two (operator : String) (first second : List Piece)
  | both (first second : Test)
  | either (first second : Test)
  | negation (t : Test)

/-- A command. Some know the line they begin in, for messages. -/
inductive Command
  | simple (line : Nat) (assignments words : List (List Piece)) (redirections : List Redirection)
  | pipeline (commands : List Command)
  | background (line : Nat) (body : Command) (redirections : List Redirection)
  | subshell (line : Nat) (body : Command) (redirections : List Redirection)
  | redirected (line : Nat) (body : Command) (redirections : List Redirection)
  | sequence (first second : Command)
  | andThen (first second : Command)
  | orElse (first second : Command)
  | negation (body : Command)
  | conditional (condition yes : Command) (no : Option Command)
  /-- A loop that goes on as long as its condition succeeds, or fails. -/
  | loop (succeeding : Bool) (condition body : Command)
  | forEach (line : Nat) (name : String) (items : List (List Piece)) (body : Command)
  /-- A loop over what is chosen from a list. -/
  | menu (line : Nat) (name : String) (items : List (List Piece)) (body : Command)
  | choice (line : Nat) (subject : List Piece)
    (clauses : List (List (List Piece) × Option Command))
  | define (name : String) (body : Command)
  | test (line : Nat) (t : Test)
  | reckon (line : Nat) (expression : List Piece)
  /-- A loop over arithmetic expressions. -/
  | counting (line : Nat) (first condition step : List Piece) (body : Command)

end

/-- A word by its pieces. -/
abbrev Word := List Piece

instance : Inhabited Command := ⟨.simple 0 [] [] []⟩

/-! ## Classes of characters -/

def isNameStart (c : Char) : Bool :=
  ('a' ≤ c && c ≤ 'z') || ('A' ≤ c && c ≤ 'Z') || c == '_'

def isDigit (c : Char) : Bool :=
  '0' ≤ c && c ≤ '9'

def isNamePart (c : Char) : Bool :=
  isNameStart c || isDigit c

/-- The parameters whose names are no letters. -/
def isSpecial (c : Char) : Bool :=
  isDigit c || ['$', '@', '*', '#', '?', '!', '-'].contains c

def isName (s : String) : Bool :=
  s.toList.head?.any isNameStart && s.toList.all isNamePart

/-! ## Words -/

namespace Word

/-- The text of a word nothing of which is quoted or expanded. -/
def plain? : Word → Option String
  | [.plain s] => some s
  | _ => none

/-- Whether any part of a word is quoted. -/
def isQuoted (w : Word) : Bool :=
  w.any fun p => match p with
    | .literal _ | .double _ => true
    | _ => false

/-- The name and the value of an assignment. -/
def assignment? : Word → Option (String × Word)
  | .plain s :: rest =>
    let name := s.toList.takeWhile isNamePart
    match s.toList.dropWhile isNamePart with
    | '=' :: value =>
      if name.head?.any isNameStart then
        some (String.ofList name, if value.isEmpty then rest else .plain (String.ofList value) :: rest)
      else none
    | _ => none
  | _ => none

/-- A word as its characters that stand as they are, and its other pieces. -/
def units : Word → List (Char ⊕ Piece)
  | [] => []
  | .plain s :: rest => s.toList.map .inl ++ units rest
  | p :: rest => .inr p :: units rest

/-- The word of characters and other pieces. -/
def ofUnits : List (Char ⊕ Piece) → Word
  | [] => []
  | .inr p :: rest => p :: ofUnits rest
  | .inl c :: rest =>
    match ofUnits rest with
    | .plain s :: pieces => .plain (String.ofList (c :: s.toList)) :: pieces
    | pieces => .plain (String.ofList [c]) :: pieces

/-- What stands in front of the first character of a kind that is in no brackets, and what stands behind it. -/
def splitAt? (isMark : Char → Bool) (opening closing : Char) : (depth : Nat) → List (Char ⊕ Piece) →
    Option (List (Char ⊕ Piece) × List (Char ⊕ Piece))
  | _, [] => none
  | depth, .inl c :: rest =>
    if depth = 0 && isMark c then some ([], rest)
    else
      let depth := if c = opening then depth + 1 else if c = closing then depth - 1 else depth
      (splitAt? isMark opening closing depth rest).map fun (before, after) => (.inl c :: before, after)
  | depth, u :: rest =>
    (splitAt? isMark opening closing depth rest).map fun (before, after) => (u :: before, after)

/-- Whether there is nothing but blanks in a word. -/
def isBlank (w : Word) : Bool :=
  w.all fun p => match p with
    | .plain s | .literal s => s.toList.all fun c => c == ' ' || c == '\t' || c == '\n'
    | _ => false

/-- Adds a character as it stands to the pieces of a word, the last one first. -/
def pushPlain (c : Char) : Word → Word
  | .plain s :: rest => .plain (s.push c) :: rest
  | pieces => .plain (String.ofList [c]) :: pieces

/-- Adds a character that stands for itself to the pieces of a word, the last one first. -/
def pushLiteral (c : Char) : Word → Word
  | .literal s :: rest => .literal (s.push c) :: rest
  | pieces => .literal (String.ofList [c]) :: pieces

end Word

/-- An assignment of the wide dialect. -/
structure Assigning where
  name : String
  /-- The place in a list. -/
  index : Option Word
  /-- Whether the value is added to the one before. -/
  appends : Bool
  value : Word

/-- The assignment that a word of the wide dialect is. -/
def Assigning.ofWord? (w : Word) : Option Assigning :=
  match w with
  | .plain s :: _ =>
    let name := s.toList.takeWhile isNamePart
    let finish (index : Option Word) : List (Char ⊕ Piece) → Option Assigning
      | .inl '=' :: rest => some ⟨String.ofList name, index, false, Word.ofUnits rest⟩
      | .inl '+' :: .inl '=' :: rest => some ⟨String.ofList name, index, true, Word.ofUnits rest⟩
      | _ => none
    if !name.head?.any isNameStart then none
    else
      match (Word.units w).drop name.length with
      | .inl '[' :: rest =>
        match Word.splitAt? (· == ']') '[' ']' 0 rest with
        | some (index, rest) => if index.isEmpty then none else finish (some (Word.ofUnits index)) rest
        | none => none
      | rest => finish none rest
  | _ => none

/-- Whether a word is an assignment. -/
def Word.isAssignment (d : Dialect) (w : Word) : Bool :=
  match d with
  | .plain => w.assignment?.isSome
  | .wide => (Assigning.ofWord? w).isSome

end AddonAtlas.Shell
