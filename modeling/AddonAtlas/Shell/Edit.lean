import AddonAtlas.Shell.Expression.Reading

/-!
# Scripts that edit lines

An editing script is a list of instructions, each with the lines that it is for. A substitution replaces what
an expression matches by a text in which the matched parts may stand, in small or in capital letters.
-/

namespace AddonAtlas.Shell

namespace Edit

/-! ## Lines -/

/-- Which lines are meant. -/
inductive Address
  | line (n : Nat)
  | last
  | every (first step : Nat)
  /-- Lines that an expression matches; with none, the one that was used last. -/
  | matching (e : Option Expression)

/-- Where lines from one on come to an end. -/
inductive Until
  | address (a : Address)
  /-- So many lines farther. -/
  | further (n : Nat)
  /-- The next line whose number is a multiple. -/
  | multiple (n : Nat)

/-! ## Substitutions -/

/-- How letters are changed: those of a text, and its first one. -/
structure LetterCase where
  /-- Whether all become capital letters or small ones. -/
  all : Option Bool
  first : Option Bool
deriving DecidableEq

namespace LetterCase

def kept : LetterCase := ⟨none, none⟩

def changed (isUpper : Option Bool) (c : Char) : Char :=
  match isUpper with
  | some true => c.toUpper
  | some false => c.toLower
  | none => c

def apply (l : LetterCase) : List Char → List Char
  | [] => []
  | c :: rest => changed (l.first.or l.all) c :: rest.map (changed l.all)

end LetterCase

/-- A part of what a match is replaced by: a text and, behind it, what a group took. -/
structure Piece where
  text : List Char
  group : Option Nat
  letters : LetterCase

structure Substitution where
  /-- The expression; with none, the one that was used last. -/
  pattern : Option Expression
  pieces : List Piece
  /-- Which match is replaced, counted from one. -/
  from_ : Nat
  /-- Whether the matches behind it are replaced too. -/
  isGlobal : Bool
  /-- Whether the line is written, before or after it is run as a command. -/
  printsBefore : Bool
  prints : Bool
  /-- Whether the line is run as a command then. -/
  isRun : Bool
  /-- The file to which the line is written. -/
  file : Option String

/-- The text for a match. A change of the first letter waits for a part that is not empty. -/
def replacement (pieces : List Piece) (s : Array Char) (i j : Nat) (groups : Expression.Groups) : List Char :=
  (pieces.foldl step ([], none)).1
where
  /-- Adds a piece, with the change of a first letter that is still waiting. -/
  step (done : List Char × Option Bool) (p : Piece) : List Char × Option Bool :=
    let letters := if p.letters.first.isSome then p.letters else { p.letters with first := done.2 }
    let front := letters.apply p.text
    let left := if p.text.isEmpty then letters else { letters with first := none }
    match p.group with
    | none => (done.1 ++ front, if p.text.isEmpty then left.first else none)
    | some n =>
      let taken :=
        match if n = 0 then some (i, j) else Expression.find? groups n with
        | some (a, b) => (s.extract a b).toList
        | none => []
      if taken.isEmpty then (done.1 ++ front, if p.letters.first.isSome then left.first else none)
      else (done.1 ++ front ++ left.apply taken, none)

/-- Replaces matches from an index on; `count` is the number of the next one. An empty match does not count
behind another one. Answers whether anything was replaced. -/
def substitute (s : Substitution) (e : Expression) (text : Array Char) : (fuel : Nat) → (i : Nat) →
    (count : Nat) → (behind : Bool) → List Char × Bool
  | 0, i, _, _ => ((text.extract i text.size).toList, false)
  | fuel + 1, i, count, behind =>
    match e.search? (AddonAtlas.Word.ofArray text) i with
    | none => ((text.extract i text.size).toList, false)
    | some (a, b, groups) =>
      let before := (text.extract i a).toList
      if a = b ∧ behind ∧ a = i then
        match text[i]? with
        | none => ([], false)
        | some c =>
          let (rest, found) := substitute s e text fuel (i + 1) count false
          (c :: rest, found)
      else
        let isChosen := count = s.from_ || (s.isGlobal && s.from_ ≤ count)
        let here := if isChosen then replacement s.pieces text a b groups else (text.extract a b).toList
        if isChosen && !s.isGlobal then (before ++ here ++ (text.extract b text.size).toList, true)
        else if a = b then
          match text[b]? with
          | none => (before ++ here, isChosen)
          | some c =>
            let (rest, found) := substitute s e text fuel (b + 1) (count + 1) false
            (before ++ here ++ c :: rest, found || isChosen)
        else
          let (rest, found) := substitute s e text fuel b (count + 1) true
          (before ++ here ++ rest, found || isChosen)

/-! ## Instructions -/

/-- When a script goes on at another place. -/
inductive Jump
  | always
  /-- If something was replaced since the last line was read or the last such jump was taken. -/
  | ifReplaced
  | ifNothingReplaced
deriving DecidableEq

inductive Order
  | substitute (s : Substitution)
  | transliterate (pairs : List (Char × Char))
  | delete
  | deleteFirst
  | print
  | printFirst
  | quit (isSilent : Bool) (status : Nat)
  | number
  | name
  /-- Shows the line so that nothing is hidden, in so many columns. -/
  | show_ (width : Option Nat)
  | append (text : List Char)
  | insert (text : List Char)
  | change (text : List Char)
  | next
  | join
  | hold
  | holdMore
  | fetch
  | fetchMore
  | exchange
  | clear
  | readFile (file : String)
  | readLine (file : String)
  | writeLine (file : String)
  | writeFirst (file : String)
  /-- Runs a command, or the line as one. -/
  | run (command : List Char)
  /-- Goes on at a label, or at the end. -/
  | jump (when_ : Jump) (label : String)
  | label (name : String)
  /-- The beginning of a block, of so many orders, for some lines only. -/
  | block (orders : Nat)
  | nothing

structure Instruction where
  address : Option Address
  until_ : Option Until
  isInverted : Bool
  order : Order

/-- A whole script. -/
structure Script where
  instructions : Array Instruction
  /-- Whether lines are written only if the script says so. -/
  isSilent : Bool
  /-- The files that the script writes to, which are emptied at its start. -/
  files : List String
  /-- How many arguments the script was read from. -/
  expressions : Nat

namespace Script

/-- The number of the instruction of a label. -/
def find? (s : Script) (label : String) : Option Nat :=
  s.instructions.findIdx? fun i =>
    match i.order with
    | .label name => name = label
    | _ => false

/-- The first label that is jumped to and stands nowhere. -/
def missingLabel? (s : Script) : Option String :=
  s.instructions.toList.reverse.findSome? fun i =>
    match i.order with
    | .jump _ label => if label.isEmpty || (s.find? label).isSome then none else some label
    | _ => none

end Script

end Edit

end AddonAtlas.Shell
