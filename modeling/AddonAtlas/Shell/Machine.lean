import AddonAtlas.Execution
import AddonAtlas.FileTree
import AddonAtlas.Shell.Arithmetic
import AddonAtlas.Shell.Elements
import AddonAtlas.Shell.Limit
import AddonAtlas.Shell.Script
import AddonAtlas.Text.Utf8

/-!
# The state of a script that runs

What commands read and change: variables, functions, options, descriptors with the open files they lead
to, the tree of files, and what was written so far. An `Action` changes a `Machine` and may stop the
script; what it has changed until then stays changed.
-/

namespace AddonAtlas.Shell

/-! ## Texts as bytes -/

/-- The bytes that the characters of a script's text stand for. -/
def toBytes (s : List Char) : Bytes :=
  Bytes.ofList (s.map fun c => c.toNat.toUInt8)

/-- The text of a script for bytes. -/
def ofBytes (b : Bytes) : String :=
  String.ofList (b.toList.map fun b => Char.ofNat b.toNat)

/-- The text of a script for a text. -/
def encode (s : String) : String :=
  ofBytes (Bytes.ofString s)

/-- The text that a script's text stands for. -/
def decode (s : String) : String :=
  (toBytes s.toList).decode

/-! ## Parts of the state -/

structure Variable where
  value : Option String
  /-- Whether programs that are started know it. -/
  isExported : Bool
  isFixed : Bool
  /-- The values of a list. -/
  elements : Option Elements := none
  /-- What is made of values: sums, or capital or small letters. -/
  traits : List Char := []

/-- A variable with a value. -/
def Variable.of (value : Option String) (isExported isFixed : Bool) : Variable :=
  { value := value, isExported := isExported, isFixed := isFixed }

/-- A variable without a value. -/
def Variable.unset : Variable :=
  Variable.of none false false

/-- Where what is written goes. -/
inductive Sink
  | output
  | errors
  | nowhere
  /-- Nothing fits in. -/
  | full
  /-- It is kept for whoever reads it in the script. -/
  | kept
  | file (place : Location) (atEnd : Bool)

/-- A file that was opened, with as many descriptors as lead to it. -/
structure OpenFile where
  /-- What is still to be read, if it can be read. -/
  unread : Option Bytes
  /-- Whether a program may give back what it has read. -/
  isSeekable : Bool
  sink : Option Sink
  /-- How many bytes of a file were written. -/
  offset : Nat
  /-- What was kept, the last write first. -/
  kept : List Bytes

namespace OpenFile

/-- A stream that gives some bytes. -/
def reading (b : Bytes) : OpenFile :=
  ⟨some b, false, none, 0, []⟩

/-- A file with a content. -/
def ofContent (b : Bytes) : OpenFile :=
  ⟨some b, true, none, 0, []⟩

def writing (s : Sink) : OpenFile :=
  ⟨none, true, some s, 0, []⟩

/-- Why nothing can be written to an open file, if nothing can. -/
def writeFault (f : OpenFile) : Errno :=
  match f.sink with
  | some .full => .noSpace
  | _ => .badDescriptor

end OpenFile

/-- What keeps the commands that follow from being run. -/
inductive Skip
  | nothing
  /-- Loops are to be left. -/
  | loops (count : Nat)
  /-- Loops are to be left, and the last one goes on. -/
  | turns (count : Nat)
  /-- A function returns with a status. -/
  | function
  /-- A function returns with the status of its last command. -/
  | bare
deriving DecidableEq

/-- A part of the script that runs beside it. -/
structure Job where
  process : Nat
  status : Nat
  /-- When it ends. -/
  finish : Nat

/-- Something written, with who wrote it and when. -/
structure Written where
  time : Nat
  process : Nat
  bytes : Bytes

structure Machine where
  tree : FileTree
  /-- The working directory. -/
  here : Location
  /-- The script's name. -/
  name : String
  arguments : List String
  bindings : List (String × Variable)
  functions : List (String × Command)
  aliases : List (String × String)
  /-- For each running function, the variables that it made its own, as they were before. -/
  frames : List (List (String × Option Variable))
  /-- The letters of the options that are on. -/
  options : List Char
  /-- What is done on signals; zero is the end of the script. -/
  traps : List (Nat × String)
  /-- What the script itself does on signals, inside of its parts. -/
  outerTraps : Option (List (Nat × String))
  /-- Signals that have come and were not attended to. -/
  pending : List Nat
  status : Nat
  /-- The status with which the script ends, while it is being left. -/
  finalStatus : Option Nat
  /-- The status of the last command whose output was taken into a word. -/
  innerStatus : Nat
  /-- The line of the last command that has one. -/
  line : Nat
  /-- The line up to which the script was read. -/
  readLine : Nat
  /-- The command that messages are from. -/
  command : Option String
  /-- How many loops are running. -/
  loops : Nat
  /-- How many functions are running. One that was refused counts from then on. -/
  calls : Nat
  skip : Skip
  files : Array OpenFile
  descriptors : List (Nat × Nat)
  documents : Array Word
  /-- What was written to standard output, the last write first. -/
  output : List Written
  /-- What was written to standard error, the last write first. -/
  errors : List Written
  /-- The time since the script's start, in thousandths of a second. -/
  time : Nat
  /-- The number by which the script knows its own process. -/
  self : Nat
  /-- The number of the process that runs. -/
  process : Nat
  /-- The parts that run beside this one, the last one first. -/
  jobs : List Job
  /-- How many processes were started. -/
  processes : Nat
  /-- The place in the arguments at which options are read. -/
  optionPlace : Nat × Nat
  /-- How many turns of loops are left. -/
  turns : Nat
  /-- The permissions that new files do not get. -/
  mask : Nat
  limits : Limits
  /-- The programs that were found by their names, in the order in which they were: the name, the path, and
  whether the working directory has changed since. -/
  located : List (String × String × Bool)
  dialect : Dialect
  /-- The statuses of the commands of the last pipe. -/
  statuses : List Nat
  /-- The names of further options of the wide dialect that are on. -/
  choices : List String
  /-- The names of the functions that are running, the innermost first, each with the line it was called in. -/
  running : List (String × Nat)
  /-- The directories to go back to, the last one first. -/
  visited : List Location
  /-- The files in the place of which words have put paths, by their descriptors, each with the command that
  reads it afterwards, if one does. -/
  channels : List (Nat × Option Command)
  /-- How many commands in words, and how many parts that run on their own, this part of the script is in. -/
  nesting : Nat × Nat

/-- Why a script, or a part of it, does not go on. -/
inductive Stop
  /-- An error. -/
  | failure
  /-- It was asked to end, with the final status if there is one. -/
  | exited
  /-- It has ended, with the status of its last command. -/
  | ended
  /-- The command is given up, and the script goes on behind it. -/
  | abandoned
  | killed (signal : Nat)
deriving DecidableEq

abbrev Action := ExceptT Stop (StateM Machine)

/-- The number of a script's process. -/
def firstProcess : Nat := 4242

/-! ## Writing -/

/-- A content with bytes written at an offset. -/
def overwrite (content : Bytes) (offset : Nat) (b : Bytes) : Bytes :=
  let gap := Bytes.ofList (List.replicate (offset - content.size) 0)
  Bytes.concat [content.take offset, gap, b, content.drop (offset + b.size)]

namespace Machine

/-- The number of the open file that a descriptor leads to. -/
def fileNumber? (m : Machine) (descriptor : Nat) : Option Nat :=
  (m.descriptors.find? fun d => d.1 = descriptor).map (·.2)

def openFile? (m : Machine) (descriptor : Nat) : Option OpenFile :=
  (m.fileNumber? descriptor).bind fun n => m.files[n]?

/-- Makes a descriptor lead to an open file, or to none. -/
def point (m : Machine) (descriptor : Nat) (number? : Option Nat) : Machine :=
  let others := m.descriptors.filter fun d => d.1 ≠ descriptor
  { m with descriptors := (number?.map fun n => (descriptor, n)).toList ++ others }

/-- Adds an open file. -/
def withFile (m : Machine) (f : OpenFile) : Machine × Nat :=
  ({ m with files := m.files.push f }, m.files.size)

/-- The machine after bytes are written to an open file, unless it is not open for that. -/
def writeFile (m : Machine) (number : Nat) (b : Bytes) : Option Machine :=
  match m.files[number]? with
  | none => none
  | some f =>
    (f.sink.filter fun sink => b.isEmpty || !(sink matches .full)).map fun sink =>
      if b.isEmpty then m
      else
        match sink with
        | .output => { m with output := ⟨m.time, m.process, b⟩ :: m.output }
        | .errors => { m with errors := ⟨m.time, m.process, b⟩ :: m.errors }
        | .nowhere | .full => m
        | .kept => { m with files := m.files.setIfInBounds number { f with kept := b :: f.kept } }
        | .file place atEnd =>
          match m.tree.find? place with
          | some (.file content executable) =>
            let offset := if atEnd then content.size else f.offset
            let entry := Entry.file (overwrite content offset b) executable
            { m with
              tree := m.tree.put place entry
              files := m.files.setIfInBounds number { f with offset := offset + b.size } }
          | _ => m

/-- The machine after bytes are written to a descriptor, unless it is not open for that. -/
def write? (m : Machine) (descriptor : Nat) (b : Bytes) : Option Machine :=
  (m.fileNumber? descriptor).bind fun n => m.writeFile n b

/-- Takes all that is still to be read from a descriptor. -/
def takeFrom (m : Machine) (descriptor : Nat) : Machine × Bytes :=
  match m.fileNumber? descriptor with
  | none => (m, Bytes.empty)
  | some n =>
    match m.files[n]? with
    | none => (m, Bytes.empty)
    | some f =>
      ({ m with files := m.files.setIfInBounds n { f with unread := f.unread.map fun _ => Bytes.empty } },
        f.unread.getD Bytes.empty)

/-- Takes all that is still to be read from standard input. -/
def takeInput (m : Machine) : Machine × Bytes :=
  m.takeFrom 0

/-- Whether a program may give back what it has read from standard input. -/
def isInputSeekable (m : Machine) : Bool :=
  (m.openFile? 0).any (·.isSeekable)

/-- Puts back what was not read after all from a descriptor. -/
def returnTo (m : Machine) (descriptor : Nat) (b : Bytes) : Machine :=
  match m.fileNumber? descriptor with
  | none => m
  | some n => { m with files := m.files.modify n fun f => { f with unread := f.unread.map fun _ => b } }

/-- Puts back what was not read after all from standard input. -/
def returnInput (m : Machine) (b : Bytes) : Machine :=
  m.returnTo 0 b

/-! ## Variables and parameters -/

def binding? (m : Machine) (name : String) : Option Variable :=
  (m.bindings.find? fun v => v.1 = name).map (·.2)

def isWide (m : Machine) : Bool :=
  m.dialect = .wide

/-- Whether an option of the wide dialect is on. -/
def hasChoice (m : Machine) (name : String) : Bool :=
  m.choices.contains name

/-- The name that a name stands for, if its variable is made to stand for another one. -/
def aim (m : Machine) (name : String) : String :=
  if m.isWide then go 16 name else name
where
  /-- Follows names as long as they lead on. -/
  go : (fuel : Nat) → String → String
    | 0, name => name
    | fuel + 1, name =>
      match m.binding? name with
      | some v => if v.traits.contains 'n' then (v.value.elim name (go fuel)) else name
      | none => name

/-- The values of a variable that holds a list, or its only value. -/
def elements? (m : Machine) (name : String) : Option Elements :=
  match m.binding? name with
  | some v => v.elements.or (v.value.map fun s => Elements.ofValues [s])
  | none =>
    if !m.isWide then none
    else
      match name with
      | "PIPESTATUS" => some (Elements.ofValues (m.statuses.map fun n => toString n))
      | "FUNCNAME" => if m.running.isEmpty then none else some (Elements.ofValues (m.running.map (·.1) ++ ["main"]))
      | "BASH_LINENO" => some (Elements.ofValues (m.running.map (fun r => toString r.2) ++ ["0"]))
      | "BASH_SOURCE" => some (Elements.ofValues (List.replicate (m.running.length + 1) m.name))
      | "GROUPS" | "DIRSTACK" => some (Elements.ofValues ["0"])
      | "LINENO" => some (Elements.ofValues [toString m.line])
      | "SECONDS" => some (Elements.ofValues [toString (m.time / 1000)])
      | "BASH_SUBSHELL" => some (Elements.ofValues [toString m.nesting.2])
      | "BASHPID" => some (Elements.ofValues [toString m.process])
      | "RANDOM" | "SRANDOM" => some (Elements.ofValues [toString ((m.turns * 1103515245 + 12345) % 32768)])
      | _ => none

/-- A place in a list; numbers that are negative count from its end. -/
def settledPlace? (e : Elements) (place : String) : Option String :=
  if e.isNamed then some place
  else
    match place.toInt? with
    | some n =>
      let n := if n < 0 then e.next + n else n
      if n < 0 then none else some (toString n)
    | none => none

/-- The value at a place in a list. -/
def element? (m : Machine) (name place : String) : Option String :=
  (m.elements? name).bind fun e => (settledPlace? e place).bind e.get?

/-- The value of a variable, or of the place in a list that a name tells. -/
def value? (m : Machine) (name : String) : Option String :=
  if !m.isWide then (m.binding? name).bind (·.value)
  else
    match Arithmetic.nameParts (m.aim name) with
    | (name, none) =>
      match m.binding? name with
      | some v =>
        match v.elements with
        | some e => e.get? "0"
        | none => v.value
      | none => m.element? name "0"
    | (name, some place) => m.element? name place

/-- The machine that knows nothing of where programs are, if a variable tells where they are looked for. -/
def afterChange (m : Machine) (name : String) : Machine :=
  if name = "PATH" then { m with located := [] } else m

def setVariable (m : Machine) (name : String) (v : Variable) : Machine :=
  let m := m.afterChange name
  if m.bindings.any fun x => x.1 = name then
    { m with bindings := m.bindings.map fun x => if x.1 = name then (name, v) else x }
  else { m with bindings := (name, v) :: m.bindings }

def dropVariable (m : Machine) (name : String) : Machine :=
  { m.afterChange name with bindings := m.bindings.filter fun x => x.1 ≠ name }

/-- The machine that knows where a program is. -/
def withLocated (m : Machine) (name path : String) : Machine :=
  if m.located.any fun l => l.1 = name then
    { m with located := m.located.map fun l => if l.1 = name then (name, path, false) else l }
  else { m with located := m.located ++ [(name, path, false)] }

def hasOption (m : Machine) (letter : Char) : Bool :=
  m.options.contains letter

/-- The options with letters, in the order in which they are listed. -/
def optionNames : List (Char × String) :=
  [('e', "errexit"), ('f', "noglob"), ('I', "ignoreeof"), ('i', "interactive"), ('m', "monitor"),
    ('n', "noexec"), ('s', "stdin"), ('x', "xtrace"), ('v', "verbose"), ('V', "vi"), ('E', "emacs"),
    ('C', "noclobber"), ('a', "allexport"), ('b', "notify"), ('u', "nounset"), ('P', "privileged"),
    ('1', "nolog"), ('2', "debug")]

/-- The options of the wide dialect with letters, in the order in which they are listed. -/
def wideOptionNames : List (Char × String) :=
  [('a', "allexport"), ('B', "braceexpand"), ('1', "emacs"), ('e', "errexit"), ('E', "errtrace"),
    ('T', "functrace"), ('h', "hashall"), ('H', "histexpand"), ('2', "history"), ('3', "ignoreeof"),
    ('4', "interactive-comments"), ('k', "keyword"), ('m', "monitor"), ('C', "noclobber"), ('n', "noexec"),
    ('f', "noglob"), ('5', "nolog"), ('b', "notify"), ('u', "nounset"), ('t', "onecmd"), ('P', "physical"),
    ('6', "pipefail"), ('7', "posix"), ('p', "privileged"), ('v', "verbose"), ('8', "vi"), ('x', "xtrace")]

/-- The letters of the options that are on, as a parameter tells them. -/
def optionLetters (m : Machine) : String :=
  let letters :=
    if m.isWide then "abefhkmnptuvxBCEHPTcs".toList
    else (optionNames.map (·.1)).reverse.filter fun c => !isDigit c
  String.ofList (letters.filter m.hasOption)

/-- What divides fields. -/
def separators (m : Machine) : List Char :=
  match m.binding? "IFS" with
  | some v => (v.value.map String.toList).getD [' ', '\t', '\n']
  | none => [' ', '\t', '\n']

/-- The value of a parameter other than all arguments, if it is set. -/
def parameter? (m : Machine) (name : String) : Option String :=
  match name with
  | "#" => some (toString m.arguments.length)
  | "?" => some (toString m.status)
  | "$" => some (toString m.self)
  | "!" => m.jobs.head?.map fun j => toString j.process
  | "-" => some m.optionLetters
  | _ =>
    if name.toList.head?.any isDigit then
      match name.toNat?.getD 0 with
      | 0 => some m.name
      | n + 1 => m.arguments[n]?
    else m.value? name

/-- What programs that are started know. -/
def environment (m : Machine) : List (String × String) :=
  m.bindings.filterMap fun (name, v) => if v.isExported then v.value.map fun s => (name, s) else none

end Machine

namespace Action

/-- Writes a message to standard error. -/
def say (s : String) : Action Unit :=
  modify fun m => (m.write? 2 (toBytes s.toList)).getD m

/-- Writes a message with the place it is from. -/
def complain (message : String) : Action Unit := do
  let m ← get
  let command :=
    match m.command with
    | some c => c ++ ": "
    | none => ""
  say (m.name ++ (if m.isWide then ": line " else ": ") ++ toString m.line ++ ": " ++ command ++ message ++ "\n")

/-- Writes a message that is not from a command. -/
def complainPlainly (message : String) : Action Unit := do
  let m ← get
  set { m with command := none }
  complain message
  modify fun after => { after with command := m.command }

/-- Gives up a command with a message that is not from it. -/
def abandon {α : Type} (message : String) : Action α := do
  complainPlainly message
  modify fun m => { m with status := 1 }
  throw .abandoned

/-- Ends the script with a message that is not from a command. -/
def quit {α : Type} (message : String) : Action α := do
  complainPlainly message
  modify fun m => { m with status := 1 }
  throw .ended

/-- Stops on an error. -/
def fail {α : Type} (message : String) : Action α := do
  complain message
  modify fun m => { m with status := if m.isWide then 1 else 2 }
  throw .failure

/-- Writes to standard output; answers the status, which tells whether that can be done. -/
def write (text : List Char) : Action Nat := do
  let m ← get
  if text.isEmpty then return 0
  else
    match m.write? 1 (toBytes text) with
    | some m =>
      set m
      return 0
    | none =>
      complain (m.command.getD "" ++ ": I/O error")
      return 1

/-- A whole number that is not negative. -/
def number (s : String) : Action Nat := do
  match Arithmetic.readInteger? (some 10) s with
  | some n => if n < 0 ∨ 2147483647 < n then fail ("Illegal number: " ++ s) else return n.toNat
  | none => fail ("Illegal number: " ++ s)

/-- What is made of a value by the traits of its variable. -/
def adapted (traits : List Char) (value : String) : String :=
  if traits.contains 'u' then String.ofList (value.toList.map Char.toUpper)
  else if traits.contains 'l' then String.ofList (value.toList.map Char.toLower)
  else if traits.contains 'c' then
    String.ofList (value.toList.zipIdx.map fun (c, i) => if i = 0 then c.toUpper else c.toLower)
  else value

/-- Gives a variable, or a place in a list, a value; sums in it are not worked out. -/
def store (name : String) (place? : Option String) (value : String) : Action Unit := do
  let m ← get
  let old := m.binding? name
  if old.any (·.isFixed) then
    if m.isWide then abandon (name ++ ": readonly variable") else fail (name ++ ": is read only")
  else
    let old := old.getD Variable.unset
    let old := { old with isExported := old.isExported || m.hasOption 'a' }
    let value := adapted old.traits value
    match place?, old.elements with
    | none, none => set (m.setVariable name { old with value := some value })
    | place?, e? =>
      let e := e?.getD (old.value.elim (Elements.empty false) fun s => Elements.ofValues [s])
      match Machine.settledPlace? e (place?.getD "0") with
      | some place =>
        set (m.setVariable name { old with value := none, elements := some (e.insert place value) })
      | none => abandon (name ++ "[" ++ place?.getD "0" ++ "]: bad array subscript")
    if name = "OPTIND" then
      let place ← if value.isEmpty then pure 1 else number value
      modify fun m => { m with optionPlace := (max place 1, 0) }

/-- What variables are worth in arithmetic. -/
def valuation (m : Machine) : Arithmetic.Valuation :=
  ⟨m.value?, fun name => (m.elements? (m.aim name)).any (·.isNamed), m.dialect⟩

/-- The value of an arithmetic expression, which may give variables values; or what is wrong with it. -/
def reckon? (source : String) : Action (Except String Int) := do
  let m ← get
  match Arithmetic.evaluate (valuation m) source with
  | .error f => return .error (f.message m.dialect source)
  | .ok (n, assigned) =>
    for (name, n) in assigned do
      let (name, place?) := Arithmetic.nameParts (m.aim name)
      store name place? (toString n)
    return .ok n

/-- The value of an arithmetic expression. -/
def reckon (source : String) : Action Int := do
  match ← reckon? source with
  | .ok n => return n
  | .error message =>
    if (← get).isWide then
      complain message
      modify fun m => { m with status := 1 }
      throw .abandoned
    else fail message

/-- A name and the place in a list that a text tells. -/
def reference (text : String) : Action (String × Option String) := do
  let m ← get
  match Arithmetic.nameParts (m.aim text) with
  | (name, none) => return (name, none)
  | (name, some place) =>
    if (m.elements? name).any (·.isNamed) || place = "@" || place = "*" then return (name, some place)
    else return (name, some (toString (← reckon place)))

/-- A value as a variable takes it; sums are worked out for those that hold numbers. -/
def takenBy (name value : String) : Action String := do
  if ((← get).binding? name).any fun v => v.traits.contains 'i' then return toString (← reckon value)
  else return value

/-- Gives a variable, or the place in a list that a name tells, a value. -/
def assign (name value : String) : Action Unit := do
  if (← get).isWide then
    let (name, place?) ← reference name
    store name place? (← takenBy name value)
  else store name none value

/-- Makes a variable hold a list. -/
def storeList (name : String) (e : Elements) : Action Unit := do
  let m ← get
  let old := m.binding? name
  if old.any (·.isFixed) then abandon (name ++ ": readonly variable")
  else
    let old := old.getD Variable.unset
    set (m.setVariable name { old with value := none, elements := some e })

/-- Checks the name of a variable. -/
def checkName (name : String) : Action Unit := do
  if !isName name then
    if (← get).isWide then fail (String.ofList [Char.ofNat 96] ++ name ++ "': not a valid identifier")
    else fail (name ++ ": bad variable name")

/-- Removes a variable. -/
def unassign (name : String) : Action Unit := do
  let m ← get
  if (m.binding? name).any (·.isFixed) then
    fail (name ++ (if m.isWide then ": cannot unset: readonly variable" else ": is read only"))
  else set (m.dropVariable name)

/-- Runs an action; afterwards, however it ends, changes the state. -/
def ensuring {α : Type} (action : Action α) (restore : Machine → Machine) : Action α :=
  fun m =>
    let (result, m) := action m
    (result, restore m)

/-- Runs an action and shows how it ended. -/
def observe {α : Type} (action : Action α) : Action (Except Stop α) :=
  fun m =>
    let (result, m) := action m
    (.ok result, m)

end Action

end AddonAtlas.Shell
