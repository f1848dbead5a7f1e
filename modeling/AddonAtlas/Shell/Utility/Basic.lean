import AddonAtlas.FileTree.Invocation
import AddonAtlas.Shell.Builtin
import AddonAtlas.Shell.Options
import AddonAtlas.Shell.Quotation

/-!
# Programs that scripts start

What the programs have in common that every system has: where they are found, how they read files and standard
input, how they write, and how they complain. The name under which a program was started stands in front of
its messages.
-/

namespace AddonAtlas.Shell

namespace Utility

open Shell.Action

/-! ## Where programs are -/

/-- The variables with which a script starts. -/
def startVariables (exported : List (String × Variable)) : List (String × Variable) :=
  let kept := exported.filter fun v => isName v.1 && v.1 ≠ "IFS" && v.1 ≠ "OPTIND"
  let plain (s : String) : Variable := Variable.of (some s) false false
  let added : List (String × Variable) :=
    [("IFS", plain " \t\n"), ("OPTIND", plain "1"),
      ("PATH", plain Invocation.defaultPath), ("PPID", plain "1"),
      ("PS1", plain "# "), ("PS2", plain "> "),
      ("PS4", plain "+ "), ("PWD", Variable.of (some System.workPath) true false)]
  kept ++ added.filter fun v => !(kept.any fun k => k.1 = v.1)

/-- The first file of a name along the directories that are listed that may be run; or whether there is
something else of that name. -/
def search (m : Machine) (name : String) : List String → (isThere : Bool) → Except Errno String
  | [], isThere => .error (if isThere then .notPermitted else .noEntry)
  | directory :: rest, isThere =>
    let path := if directory.isEmpty then name else directory ++ "/" ++ name
    match m.find? path with
    | some (.file _ _ true) => .ok path
    | some _ => search m name rest true
    | none => search m name rest isThere

def directories (m : Machine) : List String :=
  ((m.value? "PATH").map Invocation.directories).getD []

/-- The path of a program. -/
def locate (m : Machine) (name : String) : Except Errno String :=
  if name.toList.contains '/' then
    match m.find? name with
    | some (.file _ _ true) => .ok name
    | some _ => .error .notPermitted
    | none => .error .noEntry
  else search m name (directories m) false

/-- The file of a name along the directories that are listed, be it no program. -/
def inPath (m : Machine) (name : String) : Option String :=
  ((directories m).map fun d => if d.isEmpty then name else d ++ "/" ++ name).find? fun path =>
    (m.find? path).any Found.isFile

/-! ## Complaining -/

/-- Writes a message with the program's name in front. -/
def complain (name message : String) : Action Unit :=
  say (name ++ ": " ++ message ++ "\n")

/-- Complains and ends with a status. -/
def giveUp (name message : String) (status : Nat) : Action Nat := do
  complain name message
  return status

/-- Tells where help is to be had. -/
def hint (name : String) (status : Nat) : Action Nat := do
  say ("Try '" ++ name ++ " --help' for more information.\n")
  return status

/-- Complains of the arguments, tells where help is to be had, and ends. -/
def misuse (name message : String) (status : Nat) : Action Nat := do
  complain name message
  hint name status

/-! ## Options -/

/-- Hands on the options and the other arguments, unless there is one that the program does not know. -/
def withOptions (name : String) (t : Options.Table) (isMixed : Bool) (failure : Nat)
    (arguments : List String) (k : List Options.Given → List String → Action Nat) : Action Nat :=
  let r := Options.read t isMixed arguments
  match r.fault? with
  | some fault => misuse name fault failure
  | none => k r.options r.operands

/-- Whether an option was given. -/
def has (given : List Options.Given) (option : String) : Bool :=
  given.any fun g => g.option = option

/-- The last of some options that was given. -/
def last? (given : List Options.Given) (options : List String) : Option Options.Given :=
  given.reverse.find? fun g => options.contains g.option

/-- What belongs to the last option of a name. -/
def value? (given : List Options.Given) (option : String) : Option String :=
  (last? given [option]).bind (·.value)

/-! ## Writing -/

/-- Writes bytes to standard output; the reason if that cannot be done. -/
def put? (b : Bytes) : Action (Option Errno) := do
  let m ← get
  match m.write? 1 b with
  | some m =>
    MonadState.set m
    return none
  | none => return some ((m.openFile? 1).elim .badDescriptor fun f => f.writeFault)

/-- Writes bytes to standard output; whether that can be done. -/
def put (b : Bytes) : Action Bool := do
  return (← put? b).isNone

/-- Writes the characters of bytes to standard output and ends with a status, or with another one if they
cannot be written. -/
def finish (name : String) (failure : Nat) (cs : List Char) (status : Nat) : Action Nat := do
  if cs.isEmpty then return status
  else
    match ← put? (toBytes cs) with
    | none => return status
    | some e => giveUp name ("write error: " ++ e.description) failure

/-! ## Reading -/

/-- Why a file cannot be read: because it cannot be opened, or because it has nothing to read. -/
inductive Unreadable
  | opening (e : Errno)
  | reading (e : Errno)

namespace Unreadable

def errno : Unreadable → Errno
  | opening e | reading e => e

def description (u : Unreadable) : String :=
  u.errno.description

end Unreadable

/-- Takes all of standard input. -/
def input : Action Bytes := do
  let (m, b) := (← get).takeInput
  MonadState.set m
  return b

/-- Why standard input cannot be read, if it cannot. -/
def inputFault? (m : Machine) : Option Errno :=
  match m.openFile? 0 with
  | some ⟨some _, _, _, _, _⟩ => none
  | some ⟨none, _, none, _, _⟩ => some .isDirectory
  | _ => some .badDescriptor

/-- Takes all of standard input, if it can be read. -/
def readInput : Action (Except Unreadable Bytes) := do
  match inputFault? (← get) with
  | none => return .ok (← input)
  | some e => return .error (.reading e)

/-- The content of a file. -/
def contentOf (m : Machine) (name : String) : Except Unreadable Bytes :=
  match m.find? name with
  | some (.file place _ _) =>
    match m.tree.find? place with
    | some (.file content _) => .ok content
    | _ => .error (.opening .noEntry)
  | some (.directory _) => .error (.reading .isDirectory)
  | some .device => .ok Bytes.empty
  | none => .error (.opening (m.absence name))

/-- The content of a file, which may be standard input by one of its names. -/
def readFile (name : String) : Action (Except Unreadable Bytes) := do
  if name = "/dev/stdin" ∨ name = "/dev/fd/0" ∨ name = "/proc/self/fd/0" then readInput
  else return contentOf (← get) name

/-- The content of a file, or that of standard input for a hyphen. -/
def read (name : String) : Action (Except Unreadable Bytes) :=
  if name = "-" then readInput else readFile name

/-- The characters of bytes. -/
def charactersOf (b : Bytes) : List Char :=
  b.toList.map fun x => Char.ofNat x.toNat

/-- The contents of files, or of standard input if there are none, with their names. Of what cannot be read
`refusal` tells. -/
def readAll (name : String) (failure : Nat) (refusal : String → Unreadable → String) (names : List String) :
    Action (List (String × List Char) × Nat) := do
  let mut found : List (String × List Char) := []
  let mut status := 0
  for file in if names.isEmpty then ["-"] else names do
    match ← read file with
    | .ok b => found := (file, charactersOf b) :: found
    | .error u =>
      complain name (refusal file u)
      status := failure
  return (found.reverse, status)

/-- The usual words for a file that cannot be read. -/
def plainRefusal (file : String) (u : Unreadable) : String :=
  Quotation.forShell file ++ ": " ++ u.description

/-- The contents of files one after the other. -/
def readText (name : String) (failure : Nat) (names : List String) : Action (List Char × Nat) := do
  let (found, status) ← readAll name failure plainRefusal names
  return (found.flatMap (·.2), status)

/-! ## Lines -/

abbrev Line := List Char

/-- The lines of a text, each with the character at its end if there is one. -/
def linesOf (ending : Char) (cs : List Char) : List Line :=
  go [] [] cs
where
  /-- Goes on from a line that is being read, the last character first. -/
  go (done : List Line) (current : Line) : List Char → List Line
    | [] => (if current.isEmpty then done else current.reverse :: done).reverse
    | c :: cs => if c = ending then go ((c :: current).reverse :: done) [] cs else go done (c :: current) cs

/-- A line without what ends it. -/
def bare (ending : Char) (l : Line) : Line :=
  if l.getLast? = some ending then l.dropLast else l

/-- The lines of a text without what ends them. -/
def bareLines (ending : Char) (cs : List Char) : List Line :=
  (linesOf ending cs).map (bare ending)

/-- Lines with what ends them at the end of each. -/
def joined (ending : Char) (lines : List Line) : List Char :=
  lines.flatMap fun l => l ++ [ending]

/-- What ends lines: a newline, or NUL if an option says so. -/
def lineEnd (given : List Options.Given) : Char :=
  if has given "z" then '\x00' else '\n'

/-- The parts of a list, all of one length but for the last one. -/
def chunks {α : Type} (n : Nat) (l : List α) : List (List α) :=
  go (l.length + 1) l
where
  /-- Cuts parts off the front. -/
  go : (fuel : Nat) → List α → List (List α)
    | 0, _ => []
    | _ + 1, [] => []
    | fuel + 1, l => if n = 0 then [l] else l.take n :: go fuel (l.drop n)

/-- A text filled with blanks in front. -/
def filled (width : Nat) (cs : List Char) : List Char :=
  List.replicate (width - cs.length) ' ' ++ cs

/-- A number filled with blanks in front. -/
def filledNumber (width n : Nat) : List Char :=
  filled width (toString n).toList

/-! ## Numbers -/

/-- The factors that letters behind a number stand for. A letter alone, or with `iB`, is a power of 1024, with
`B` one of 1000. -/
def unit? (s : List Char) : Option Nat :=
  let power (c : Char) : Option Nat :=
    if c = 'b' || c = 'B' then none
    else (("KMGTPEZY".toList.idxOf? (if c = 'k' then 'K' else c)).map (· + 1))
  match s with
  | [] => some 1
  | ['b'] => some 512
  | [c] => (power c).map (1024 ^ ·)
  | [c, 'B'] => (power c).map (1000 ^ ·)
  | [c, 'i', 'B'] => (power c).map (1024 ^ ·)
  | _ => none

/-- A number with a unit behind it. -/
def amount? (cs : List Char) : Option Nat :=
  let ds := cs.takeWhile isDigit
  if ds.isEmpty then none
  else (unit? (cs.drop ds.length)).map fun u => (Arithmetic.digitsOf 10 ds).1 * u

/-- A number without anything behind it. -/
def natural? (cs : List Char) : Option Nat :=
  if cs.isEmpty || !cs.all isDigit then none else some (Arithmetic.digitsOf 10 cs).1

end Utility

end AddonAtlas.Shell
