import Std.Data.HashMap
import AddonAtlas.Shell.Extraction.Reading
import AddonAtlas.Shell.RichExpression.Reading
import AddonAtlas.Shell.Utility.Files
import AddonAtlas.Shell.Utility.Starting

/-!
# Sessions of extraction programs

What a program has while it runs: the values in all places, which names belong to which places, what was matched
last, and the files that are open. A place that is asked for by a name without one is made.
-/

namespace AddonAtlas.Shell

namespace Utility

open Shell.Action

namespace Extraction

open AddonAtlas.Shell.Extraction

/-! ## Parts of a session -/

/-- A table; the keys are kept in the order in which they came. -/
structure Hash where
  values : Std.HashMap String (Nat × Value)
  count : Nat

namespace Hash

def empty : Hash := ⟨{}, 0⟩

def get? (h : Hash) (key : String) : Option Value :=
  (h.values[key]?).map (·.2)

def insert (h : Hash) (key : String) (v : Value) : Hash :=
  match h.values[key]? with
  | some (n, _) => { h with values := h.values.insert key (n, v) }
  | none => ⟨h.values.insert key (h.count, v), h.count + 1⟩

def erase (h : Hash) (key : String) : Hash :=
  { h with values := h.values.erase key }

/-- The keys with their values. -/
def entries (h : Hash) : List (String × Value) :=
  ((h.values.toList.map fun (k, n, v) => (n, k, v)).mergeSort fun a b => a.1 ≤ b.1).map (·.2)

def size (h : Hash) : Nat :=
  h.values.size

end Hash

/-- A place for a value. -/
inductive Place
  | cell (number : Nat)
  | element (list index : Nat)
  | entry (table : Nat) (key : String)
  /-- A value that is in no place. -/
  | nowhere
deriving DecidableEq

/-- What was matched last: the text, and where the match and its groups were. -/
structure Found where
  text : Array Char
  start : Nat
  finish : Nat
  groups : List (Nat × Nat × Nat)
  names : List (String × Nat)
  count : Nat

/-- Where an open file leads. -/
inductive Channel
  | input (rest : List Char)
  /-- Standard input, before anything was read. -/
  | standardInput
  /-- An open file of the system, and what waits to be written, the last piece first. -/
  | output (number : Nat)
  | standardOutput
  | standardErrors
  /-- A command that is given input, the last piece first. -/
  | command (line : String) (pieces : List String)
  | memory (place : Nat)
  | closed

structure Handle where
  channel : Channel
  /-- How many lines were read. -/
  lines : Nat
  /-- The status of a command that was read from. -/
  status : Nat := 0

/-- A procedure, with the names that it knows. -/
structure Procedure where
  body : List Statement
  names : List (String × Nat)

/-- What comes back at the end of a block. -/
inductive Saved
  | value (p : Place) (v : Option Value)
  | list (number : Nat) (values : Array Value)
  | table (number : Nat) (h : Hash)

structure Session where
  cells : Array Value
  lists : Array (Array Value)
  tables : Array Hash
  procedures : Array Procedure
  globals : Std.HashMap String Nat
  names : List (String × Nat)
  /-- The names outside of all blocks. -/
  outer : List (String × Nat)
  depth : Nat
  saved : List Saved
  found : Option Found
  /-- Where searches in places go on, and whether the last match took nothing. -/
  positions : List (Place × Nat × Bool)
  /-- How many entries of tables were visited. -/
  turns : List (Nat × Nat)
  expressions : Std.HashMap String RichExpression
  handles : List (String × Handle)
  /-- The file that lines were read from last. -/
  reading : Option String
  /-- The ranges of lines that have begun. -/
  ranges : List Nat
  line : Nat
  fault : Nat × String
  pending : List String
  pendingLength : Nat
  /-- Whether a list is asked of the procedure that runs. -/
  wantsList : Option Bool
  /-- The file that is edited in place. -/
  edited : Option String
  /-- Where is written to if nothing else is said. -/
  selected : String
  calls : Nat
  opened : Nat
  /-- When a signal comes that the program has asked for. -/
  alarm : Option Nat
  /-- The classes of what is referred to, by the texts of the references. -/
  classes : List (String × String)
  /-- The number of the process. -/
  process : Nat

/-- Why a part of a program ends. -/
inductive Halt
  | jump (j : Jump) (label : String)
  | return_ (values : List Value)
  | die (v : Value)
  | exit (status : Nat)

abbrev Running := ExceptT Halt (StateT Session Action)

/-- What is run. -/
structure Task where
  name : String
  command : Starter
  program : Program
  file : String
  data : Option (List Char)
  /-- What is put behind the name of a file that is edited in place, to keep what it had. -/
  backup : Option String

/-- How many turns a loop takes before it is taken that there is no end. -/
def maxTurns : Nat := 500000

/-- How deep parts of a program may lie in each other. -/
def maxDepth : Nat := 100000

/-- How many procedures may run at a time. -/
def maxCalls : Nat := 5000

def doing {α : Type} (a : Action α) : Running α :=
  liftM a

/-- Repeats a step until it tells what follows. -/
def repeating {α : Type} (step : Running (Option α)) : (turns : Nat) → Running α
  | 0 => doing hang
  | n + 1 => do
    match ← step with
    | none => repeating step n
    | some a => return a

/-- The outcome of something that may end a part of the program. -/
def outcome {α : Type} (r : Running α) : Running (Except Halt α) :=
  tryCatch (do return .ok (← r)) fun h => return .error h

/-! ## Places -/

def newCell (v : Value) : Running Nat := do
  let s ← get
  set { s with cells := s.cells.push v }
  return s.cells.size

def newList (vs : Array Value) : Running Nat := do
  let s ← get
  set { s with lists := s.lists.push vs }
  return s.lists.size

def newTable (h : Hash) : Running Nat := do
  let s ← get
  set { s with tables := s.tables.push h }
  return s.tables.size

/-- The mark in front of names of a kind. -/
def mark : Kind → String
  | .scalar => "$"
  | .list => "@"
  | .table => "%"
  | .procedure => "&"

/-- The number of the place with a name. -/
def numberOfName (k : Kind) (name : String) : Running Nat := do
  let full := mark k ++ name
  let s ← get
  match s.names.lookup full with
  | some n => return n
  | none =>
    match s.globals[full]? with
    | some n => return n
    | none =>
      let n ←
        match k with
        | .scalar => newCell .nothing
        | .list => newList #[]
        | .table => newTable .empty
        | .procedure => pure 0
      modify fun s => { s with globals := s.globals.insert full n }
      return n

def cell (n : Nat) : Running Value := do
  return (← get).cells.getD n .nothing

def setCell (n : Nat) (v : Value) : Running Unit :=
  modify fun s => { s with cells := s.cells.setIfInBounds n v }

def listAt (n : Nat) : Running (Array Value) := do
  return (← get).lists.getD n #[]

def setList (n : Nat) (vs : Array Value) : Running Unit :=
  modify fun s => { s with lists := s.lists.setIfInBounds n vs }

/-- Changes a list and answers what is to be known about it. -/
def withList {α : Type} (n : Nat) (f : Array Value → Array Value × α) : Running α := do
  let s ← get
  let old := s.lists.getD n #[]
  set { s with lists := s.lists.setIfInBounds n #[] }
  let (new, a) := f old
  modify fun s => { s with lists := s.lists.setIfInBounds n new }
  return a

def tableAt (n : Nat) : Running Hash := do
  return (← get).tables.getD n .empty

def setTable (n : Nat) (h : Hash) : Running Unit :=
  modify fun s => { s with tables := s.tables.setIfInBounds n h }

/-- Changes a table. -/
def changeTable (n : Nat) (f : Hash → Hash) : Running Unit := do
  let s ← get
  let old := s.tables.getD n .empty
  set { s with tables := s.tables.setIfInBounds n .empty }
  modify fun s => { s with tables := s.tables.setIfInBounds n (f old) }

/-- The value in a place, if there is such a place. -/
def valueIn? : Place → Running (Option Value)
  | .cell n => return (← get).cells[n]?
  | .element l i => return (← listAt l)[i]?
  | .entry t k => return (← tableAt t).get? k
  | .nowhere => return none

def valueIn (p : Place) : Running Value := do
  return (← valueIn? p).getD .nothing

/-- Puts a value in a place; a list is made as long as it takes. -/
def store (p : Place) (v : Value) : Running Unit := do
  if !(← get).positions.isEmpty then
    modify fun s => { s with positions := s.positions.filter fun x => x.1 ≠ p }
  match p with
  | .cell n => setCell n v
  | .element l i =>
    withList l fun vs =>
      let vs := if vs.size ≤ i then vs ++ Array.replicate (i + 1 - vs.size) Value.nothing else vs
      (vs.setIfInBounds i v, ())
  | .entry t k => changeTable t fun h => h.insert k v
  | .nowhere => pure ()

/-- The value with a name for the whole program. -/
def global (name : String) : Running Value := do
  match (← get).globals["$" ++ name]? with
  | some n => cell n
  | none => return .nothing

def setGlobal (name : String) (v : Value) : Running Unit := do
  match (← get).globals["$" ++ name]? with
  | some n => setCell n v
  | none =>
    let n ← newCell v
    modify fun s => { s with globals := s.globals.insert ("$" ++ name) n }

/-- Gives a name a place of its own. -/
def declare (full : String) (n : Nat) : Running Unit :=
  modify fun s =>
    let names := (full, n) :: s.names
    { s with names := names, outer := if s.depth = 0 then names else s.outer }

/-! ## Faults -/

/-- Where the program stands, and what line of which file was read last. -/
def here (t : Task) : Running String := do
  let s ← get
  let read :=
    match s.reading with
    | some h =>
      match s.handles.lookup h with
      | some x =>
        if 0 < x.lines then
          ", <" ++ (if h = "ARGV" then "" else if h.startsWith "$" then (h.splitOn "#").headD "" else h) ++ "> line " ++
            toString x.lines
        else ""
      | none => ""
    | none => ""
  return " at " ++ t.file ++ " line " ++ toString s.line ++ read ++ ".\n"

/-- Ends the program, or what catches it, with a message. -/
def fail {α : Type} (t : Task) (message : String) : Running α := do
  throw (.die (.text (message ++ (← here t))))

/-- Notes why something could not be done. -/
def setFault (e : Errno) : Running Unit :=
  modify fun s => { s with fault := (e.number, e.description) }

/-! ## Matches -/

/-- A part of the text that was matched last. -/
def foundPart (f : Found) (i j : Nat) : Value :=
  .text (String.ofList (f.text.extract i j).toList)

/-- What a group took. -/
def group (n : Nat) : Running Value := do
  match (← get).found with
  | none => return .nothing
  | some f =>
    if n = 0 then return foundPart f f.start f.finish
    else
      match f.groups.find? fun g => g.1 = n with
      | some (_, i, j) => return foundPart f i j
      | none => return .nothing

/-- The value of a name that stands for a part of the last match, or for the state of the program. -/
def special? (name : String) : Running (Option Value) := do
  if name = "&" then return some (← group 0)
  else if name ≠ "0" && !name.isEmpty && name.toList.all isDigit then
    return some (← group (Arithmetic.digitsOf 10 name.toList).1)
  else if name = String.singleton (Char.ofNat 96) then
    return some (((← get).found.map fun f => foundPart f 0 f.start).getD .nothing)
  else if name = "'" then
    return some (((← get).found.map fun f => foundPart f f.finish f.text.size).getD .nothing)
  else if name = "+" then
    match (← get).found with
    | none => return some .nothing
    | some f =>
      let last := (f.groups.map (·.1)).foldl max 0
      return some (← if last = 0 then pure .nothing else group last)
  else if name = "!" then return some (.fault (← get).fault.1 (← get).fault.2)
  else if name = "." then
    match (← get).reading with
    | some h => return some ((((← get).handles.lookup h).map fun x => ofNat x.lines).getD .nothing)
    | none => return some .nothing
  else return none

end Extraction

end Utility

end AddonAtlas.Shell
