import AddonAtlas.Shell.Condition
import AddonAtlas.Shell.Expansion
import AddonAtlas.Shell.Format
import AddonAtlas.Shell.Permission

/-!
# Commands of the shell

The commands that the shell itself carries out, except for those that run other commands. Each one takes
its arguments, changes the state, and gives its status.
-/

namespace AddonAtlas.Shell

/-! ## Signals -/

namespace Signal

/-- The names of the signals, from the first one on. -/
def names : List String :=
  ["HUP", "INT", "QUIT", "ILL", "TRAP", "ABRT", "BUS", "FPE", "KILL", "USR1", "SEGV", "USR2", "PIPE", "ALRM",
    "TERM", "16", "CHLD", "CONT", "STOP", "TSTP", "TTIN", "TTOU", "URG", "XCPU", "XFSZ", "VTALRM", "PROF",
    "WINCH", "IO", "PWR", "SYS", "32", "33", "RTMIN"] ++
  ((List.range 15).map fun n => "RTMIN+" ++ toString (n + 1)) ++
  ((List.range 14).map fun n => "RTMAX-" ++ toString (14 - n)) ++ ["RTMAX"]

def name (n : Nat) : String :=
  if n = 0 then "EXIT" else names.getD (n - 1) ""

/-- The signal that a number stands for. -/
def ofNumber? (s : String) : Option Nat :=
  if s.isEmpty || !s.toList.all isDigit then none
  else s.toNat?.filter (· ≤ 64)

/-- The signal that a number or a name stands for; zero only where it may be. -/
def decode? (s : String) (least : Nat) : Option Nat :=
  match ofNumber? s with
  | some n => if least ≤ n then some n else none
  | none =>
    let upper := String.ofList (s.toList.map Char.toUpper)
    ((List.range 65).drop least).find? fun n => name n = upper

/-- Signals that do nothing unless they are waited for. -/
def idle : List Nat := [17, 18, 23, 28]

/-- What is said of a process that a signal has ended. -/
def description (n : Nat) : String :=
  ["Hangup", "Interrupt", "Quit", "Illegal instruction", "Trace/breakpoint trap", "Aborted", "Bus error",
    "Floating point exception", "Killed", "User defined signal 1", "Segmentation fault",
    "User defined signal 2", "Broken pipe", "Alarm clock", "Terminated", "Stack fault", "Child exited",
    "Continued", "Stopped (signal)", "Stopped", "Stopped (tty input)", "Stopped (tty output)",
    "Urgent I/O condition", "CPU time limit exceeded", "File size limit exceeded", "Virtual timer expired",
    "Profiling timer expired", "Window changed", "I/O possible", "Power failure", "Bad system call"].getD (n - 1)
    ("Unknown signal " ++ toString n)

/-- Signals that stop a process. -/
def halting : List Nat := [19, 20, 21, 22]

end Signal

/-- How long something takes that never ends. -/
def forever : Nat := 1000000000000

namespace Action

/-- Waits without end. -/
def hang {α : Type} : Action α := do
  modify fun m => { m with time := m.time + forever }
  throw .ended

/-- Sends the script a signal. -/
def signal (n : Nat) : Action Unit := do
  let m ← get
  if n = 0 then return
  else
    let traps := m.outerTraps.getD m.traps
    match traps.find? fun t => t.1 = n with
    | some (_, "") => if n = 9 ∨ n = 19 then throw (.killed n)
    | some _ => if n = 9 then throw (.killed n) else set { m with pending := n :: m.pending }
    | none =>
      if Signal.idle.contains n then return
      else if Signal.halting.contains n then hang
      else throw (.killed n)

end Action

namespace Builtin

open Shell.Action

/-! ## Options of commands -/

/-- The options at the start of arguments, each with what belongs to it, and the other arguments. `known` has
the letters, with a colon behind those that something belongs to. -/
def options (known : List Char) : (fuel : Nat) → List String → Action (List (Char × String) × List String)
  | 0, arguments => return ([], arguments)
  | _ + 1, [] => return ([], [])
  | fuel + 1, a :: rest => do
    match a.toList with
    | ['-', '-'] => return ([], rest)
    | '-' :: c :: letters => go fuel (c :: letters) rest
    | _ => return ([], a :: rest)
where
  /-- Goes through the letters of one argument. -/
  go : (fuel : Nat) → List Char → List String → Action (List (Char × String) × List String)
    | 0, _, arguments => return ([], arguments)
    | fuel + 1, [], arguments => options known fuel arguments
    | fuel + 1, c :: letters, arguments => do
      match known.dropWhile (· != c) with
      | [] => fail ("Illegal option -" ++ String.ofList [c])
      | _ :: ':' :: _ =>
        if !letters.isEmpty then
          let (found, arguments) ← options known fuel arguments
          return ((c, String.ofList letters) :: found, arguments)
        else
          match arguments with
          | [] => fail ("No arg for -" ++ String.ofList [c] ++ " option")
          | a :: arguments =>
            let (found, arguments) ← options known fuel arguments
            return ((c, a) :: found, arguments)
      | _ =>
        let (found, arguments) ← go fuel letters arguments
        return ((c, "") :: found, arguments)

/-- The options at the start of arguments. -/
def optionsOf (known : String) (arguments : List String) :
    Action (List (Char × String) × List String) :=
  options known.toList ((arguments.map String.length).sum + 2 * arguments.length + 2) arguments

/-! ## Variables -/

/-- A text in quotes that keep everything in it. -/
def quoted (s : String) : String :=
  String.ofList (go (s.length + 1) s.toList)
where
  /-- Puts apostrophes into quotes of the other kind. -/
  go : (fuel : Nat) → List Char → List Char
    | 0, _ => []
    | fuel + 1, cs =>
      let plain := cs.takeWhile (· != '\'')
      let rest := cs.drop plain.length
      let apostrophes := rest.takeWhile (· == '\'')
      ('\'' :: plain ++ ['\'']) ++
        (if apostrophes.isEmpty then []
        else
          let after := rest.drop apostrophes.length
          ('"' :: apostrophes ++ ['"']) ++ (if after.isEmpty then [] else go fuel after))

/-- The variables that satisfy a condition, each on a line of its own behind a word. -/
def listed (m : Machine) (word : String) (p : Variable → Bool) : String :=
  let chosen := (m.bindings.filter fun v => p v.2).mergeSort fun a b => decide (a.1 ≤ b.1)
  String.join (chosen.map fun (name, v) =>
    word ++ name ++ (match v.value with
      | some s => "=" ++ quoted s
      | none => "") ++ "\n")

/-- The name, and the value if there is one, of an argument. -/
def assignment (a : String) : String × Option String :=
  let name := a.toList.takeWhile (· != '=')
  match a.toList.drop name.length with
  | [] => (a, none)
  | _ :: value => (String.ofList name, some (String.ofList value))

/-- Gives variables a mark, and some of them values. -/
def mark (word : String) (change : Variable → Variable) (has : Variable → Bool) (arguments : List String) :
    Action Nat := do
  let (found, names) ← optionsOf "p" arguments
  if !found.isEmpty || names.isEmpty then write (listed (← get) (word ++ " ") has).toList
  else
    for a in names do
      let (name, value) := assignment a
      checkName name
      match value with
      | some s => assign name s
      | none => pure ()
      modify fun m =>
        m.setVariable name (change ((m.binding? name).getD Variable.unset))
    return 0

/-- Makes a variable the function's own. -/
def makeOwn (a : String) (isExported : Bool) : Action Unit := do
  let (name, value) := assignment a
  let m ← get
  match m.frames with
  | [] => return
  | frame :: frames =>
    if a = "-" then
      let kept := Variable.of (some (String.ofList m.options)) false false
      set { m with frames := (("-", some kept) :: frame) :: frames }
    else
      if (m.binding? name).isNone then checkName name
      let old := m.binding? name
      set { m with frames := ((name, old) :: frame) :: frames }
      match value with
      | some s => assign name s
      | none =>
        if old.isNone then modify fun m => m.setVariable name Variable.unset
      if isExported then
        modify fun m => m.setVariable name { (m.binding? name).getD Variable.unset with isExported := true }

/-- The machine with its variables as they were before a frame. -/
def leaveFrame (m : Machine) : Machine :=
  match m.frames with
  | [] => m
  | frame :: frames =>
    frame.foldl (fun m (name, old) =>
        match name, old with
        | "-", some v => { m with options := (v.value.getD "").toList }
        | "-", none => m
        | name, some v => m.setVariable name v
        | name, none => m.dropVariable name)
      { m with frames := frames }

def unset (arguments : List String) : Action Nat := do
  let (found, names) ← optionsOf "vf" arguments
  let functions := (found.getLast?.map (·.1)) == some 'f'
  for name in names do
    if functions then
      modify fun m => { m with functions := m.functions.filter fun f => f.1 ≠ name }
    else
      let m ← get
      if (m.binding? name).isNone then checkName name
      unassign name
  return 0

/-! ## Input -/

/-- The fields of a line for a number of names, of which the last one takes the rest. Each character comes
with whether it may divide fields. -/
structure Dividing where
  fields : List (List Char)
  /-- The field that is being read, the last character first. -/
  current : List Char
  /-- How much of the current field stays if nothing but blanks follows. -/
  kept : Option Nat
  names : Nat
  /-- Whether a blank has just divided fields. -/
  passing : Bool

namespace Dividing

/-- Goes on by one character. -/
def step (separators : List Char) (d : Dividing) (c : Char) (divides : Bool) : Dividing :=
  let pushed := { d with current := c :: d.current }
  if !divides then pushed
  else
    let isSeparator := separators.contains c
    let isBlank := isSeparator && Mark.isBlank c
    if d.names = 0 then
      if isBlank then { pushed with kept := some (d.kept.getD d.current.length) }
      else { pushed with kept := if isSeparator && d.passing then d.kept else none, passing := false }
    else if d.passing && isBlank then d
    else if d.passing && isSeparator then { d with passing := false }
    else if isSeparator then
      if isBlank && d.current.isEmpty then { d with passing := false }
      else if d.names = 1 then
        { pushed with names := 0, kept := some d.current.length, passing := isBlank }
      else
        { d with
          fields := d.current.reverse :: d.fields
          current := []
          names := d.names - 1
          passing := isBlank }
    else { pushed with passing := false }

/-- The fields at the end of the line. -/
def finish (d : Dividing) : List (List Char) :=
  let last := d.current.reverse
  let last := match d.kept with
    | some n => last.take n
    | none => last
  (if last.isEmpty then d.fields else last :: d.fields).reverse

end Dividing

/-- A line of input: its characters, each with whether it may divide fields, whether a newline ends it, and
what follows. -/
def inputLine (isRaw : Bool) : (fuel : Nat) → List Char → List (Char × Bool) × Bool × List Char
  | 0, cs => ([], false, cs)
  | _ + 1, [] => ([], false, [])
  | fuel + 1, c :: cs =>
    if c = '\x00' then inputLine isRaw fuel cs
    else if c = '\n' then ([], true, cs)
    else if c = '\\' && !isRaw then
      match cs.dropWhile (· == '\x00') with
      | [] => ([], false, [])
      | '\n' :: cs => inputLine isRaw fuel cs
      | d :: cs =>
        let (line, ended, rest) := inputLine isRaw fuel cs
        ((d, false) :: line, ended, rest)
    else
      let (line, ended, rest) := inputLine isRaw fuel cs
      ((c, true) :: line, ended, rest)

def read (arguments : List String) : Action Nat := do
  let (found, names) ← optionsOf "p:r" arguments
  if names.isEmpty then fail "arg count"
  let isRaw := found.any fun o => o.1 = 'r'
  let m ← get
  let (m, input) := m.takeInput
  let cs := (ofBytes input).toList
  let (line, ended, rest) := inputLine isRaw (cs.length + 1) cs
  set (m.returnInput (input.drop (cs.length - rest.length)))
  let start : Dividing := ⟨[], [], none, names.length, false⟩
  let fields :=
    (line.foldl (fun d (c, divides) => d.step m.separators c divides) start).finish.map String.ofList
  for (name, value) in names.zip (fields ++ List.replicate names.length "") do
    checkName name
    assign name value
  return if ended then 0 else 1

/-! ## Options of the script -/

/-- Switches an option by its letter. -/
def switch (letter : Char) (on : Bool) : Action Unit := do
  if Machine.optionNames.any fun o => o.1 = letter && !isDigit letter then
    modify fun m =>
      let others := m.options.filter (· != letter)
      { m with options := if on then letter :: others else others }
  else fail ("Illegal option -" ++ String.ofList [letter])

/-- Switches an option by its name; without a name lists the options. -/
def switchNamed (name? : Option String) (on : Bool) : Action Unit := do
  let m ← get
  match name? with
  | none =>
    let lines := Machine.optionNames.map fun (letter, name) =>
      let isOn := m.hasOption letter
      if on then
        name ++ String.ofList (List.replicate (16 - name.length) ' ') ++ (if isOn then "on\n" else "off\n")
      else "set " ++ (if isOn then "-" else "+") ++ "o " ++ name ++ "\n"
    let _ ← write (String.join ((if on then ["Current option settings\n"] else []) ++ lines)).toList
  | some name =>
    match Machine.optionNames.find? fun o => o.2 = name with
    | some (letter, _) =>
      modify fun m =>
        let others := m.options.filter (· != letter)
        { m with options := if on then letter :: others else others }
    | none => fail ("Illegal option -o " ++ name)

/-- What switching options leaves. -/
structure Switched where
  /-- The other arguments. -/
  rest : List String
  /-- Whether they are to become the script's even if there are none. -/
  always : Bool
  /-- Whether a text to run is among them. -/
  hasText : Bool

/-- Switches options. Those of a shell that starts may ask for a text to be run. -/
def switches (isStart : Bool) : (fuel : Nat) → List String → Action Switched
  | 0, arguments => return ⟨arguments, false, false⟩
  | _ + 1, [] => return ⟨[], false, false⟩
  | fuel + 1, a :: rest => do
    match a.toList with
    | ['-'] =>
      modify fun m => { m with options := m.options.filter fun c => c != 'x' && c != 'v' }
      return ⟨rest, false, false⟩
    | ['-', '-'] => return ⟨rest, true, false⟩
    | '-' :: letters => go fuel true letters rest
    | '+' :: letters => go fuel false letters rest
    | _ => return ⟨a :: rest, false, false⟩
where
  /-- Goes through the letters of one argument. -/
  go : (fuel : Nat) → Bool → List Char → List String → Action Switched
    | 0, _, _, arguments => return ⟨arguments, false, false⟩
    | fuel + 1, _, [], arguments => switches isStart fuel arguments
    | fuel + 1, on, 'o' :: letters, arguments => do
      switchNamed arguments.head? on
      go fuel on letters (arguments.drop 1)
    | fuel + 1, on, c :: letters, arguments => do
      if isStart && c = 'c' then return { (← go fuel on letters arguments) with hasText := true }
      else
        if !(isStart && c = 'l') then switch c on
        go fuel on letters arguments

/-- Switches the options that arguments name. -/
def switchAll (isStart : Bool) (arguments : List String) : Action Switched :=
  switches isStart ((arguments.map String.length).sum + 2 * arguments.length + 2) arguments

def set (arguments : List String) : Action Nat := do
  if arguments.isEmpty then write (listed (← get) "" fun v => v.value.isSome).toList
  else
    let s ← switchAll false arguments
    if s.always || !s.rest.isEmpty then
      modify fun m => { m with arguments := s.rest, optionPlace := (1, 0) }
    return 0

def shift (arguments : List String) : Action Nat := do
  let n ← match arguments with
    | [] => pure 1
    | a :: _ => number a
  let m ← get
  if m.arguments.length < n then fail "can't shift that many"
  modify fun m => { m with arguments := m.arguments.drop n, optionPlace := (1, 0) }
  return 0

/-- Reads the next option of arguments. -/
def getopts (arguments : List String) : Action Nat := do
  match arguments with
  | known :: name :: given =>
    let m ← get
    let words := if given.isEmpty then m.arguments else given
    let (index, offset) := m.optionPlace
    let (index, offset) := if index < 1 ∨ words.length + 1 < index then (1, 0) else (index, offset)
    let within := if index ≤ 1 then [] else (words.getD (index - 2) "").toList.drop offset
    let (index, letters?) :=
      if offset ≠ 0 && !within.isEmpty then (index, some within)
      else
        match (words.getD (index - 1) "").toList with
        | ['-', '-'] => (index + 1, none)
        | '-' :: c :: cs => (index + 1, some (c :: cs))
        | _ => (index, none)
    let quiet := known.toList.head? = some ':'
    let finish (index : Nat) (rest : List Char) (c : Char) (isOver : Bool) : Action Nat := do
      assign "OPTIND" (toString index)
      checkName name
      assign name (String.ofList [c])
      let word := words.getD (index - 2) ""
      let offset := if rest.isEmpty then 0 else word.length - rest.length
      modify fun m => { m with optionPlace := (index, offset) }
      return if isOver then 1 else 0
    match letters? with
    | none | some [] => finish index [] '?' true
    | some (c :: rest) =>
      match (if c = ':' then [] else known.toList.dropWhile (· != c)) with
      | [] =>
        if quiet then assign "OPTARG" (String.ofList [c])
        else
          say ("Illegal option -" ++ String.ofList [c] ++ "\n")
          unassign "OPTARG"
        finish index rest '?' false
      | _ :: ':' :: _ =>
        if !rest.isEmpty then
          assign "OPTARG" (String.ofList rest)
          finish index [] c false
        else
          match words[index - 1]? with
          | some a =>
            assign "OPTARG" a
            finish (index + 1) [] c false
          | none =>
            if quiet then
              assign "OPTARG" (String.ofList [c])
              finish index [] ':' false
            else
              say ("No arg for -" ++ String.ofList [c] ++ " option\n")
              unassign "OPTARG"
              finish index [] '?' false
      | _ =>
        assign "OPTARG" ""
        finish index rest c false
  | _ => fail "Usage: getopts optstring var [arg...]"

/-! ## The course of the script -/

def exit (arguments : List String) : Action Nat := do
  match arguments with
  | a :: _ =>
    let n ← number a
    modify fun m => { m with finalStatus := some n }
  | [] => pure ()
  throw .exited

def return_ (arguments : List String) : Action Nat := do
  match arguments with
  | a :: _ =>
    let n ← number a
    modify fun m => { m with skip := .function }
    return n
  | [] =>
    modify fun m => { m with skip := .bare }
    return (← get).status

/-- Leaves loops, or goes on with the next turn of one. -/
def leaveLoops (skip : Nat → Skip) (arguments : List String) : Action Nat := do
  let n ← match arguments with
    | a :: _ => do
      let n ← number a
      if n = 0 then fail ("Illegal number: " ++ a)
      pure n
    | [] => pure 1
  modify fun m => if m.loops = 0 then m else { m with skip := skip (min n m.loops) }
  return 0

def trap (arguments : List String) : Action Nat := do
  let (_, arguments) ← optionsOf "" arguments
  let m ← get
  match arguments with
  | [] =>
    let sorted := m.traps.mergeSort fun a b => decide (a.1 ≤ b.1)
    write (String.join (sorted.map fun (n, action) =>
      "trap -- " ++ quoted action ++ " " ++ Signal.name n ++ "\n")).toList
  | first :: rest =>
    let resets := rest.isEmpty || (Signal.ofNumber? first).isSome
    let names := if resets then arguments else rest
    let action? := if resets || first = "-" then none else some first
    go action? names
where
  /-- Sets what is done on each of some signals. -/
  go (action? : Option String) : List String → Action Nat
    | [] => return 0
    | name :: names => do
      match Signal.decode? name 0 with
      | none =>
        say ("trap: " ++ name ++ ": bad trap\n")
        return 1
      | some n =>
        modify fun m =>
          let others := m.traps.filter fun t => t.1 ≠ n
          { m with traps := (action?.map fun a => (n, a)).toList ++ others }
        go action? names

/-- Drops what a job wrote after it was killed. -/
def killJob (m : Machine) (process signal : Nat) : Machine :=
  let still (w : Written) : Bool := w.process != process || w.time ≤ m.time
  { m with
    output := m.output.filter still
    errors := m.errors.filter still
    jobs := m.jobs.map fun j =>
      if j.process = process ∧ m.time < j.finish then { j with status := 128 + signal, finish := m.time } else j }

def killUsage : String :=
  "Usage: kill [-s sigspec | -signum | -sigspec] [pid | job]... or\nkill -l [exitstatus]"

def kill (arguments : List String) : Action Nat := do
  let usage {α : Type} : Action α := fail killUsage
  let (signal?, lists, targets) ←
    match arguments with
    | [] => usage
    | a :: rest =>
      match a.toList with
      | '-' :: name =>
        match Signal.decode? (String.ofList name) 0 with
        | some n => if name.isEmpty then pure (none, false, rest) else pure (some n, false, rest)
        | none => do
          let (found, rest) ← optionsOf "ls:" arguments
          let mut signal? : Option Nat := none
          for (letter, name) in found do
            if letter = 's' then
              match Signal.decode? name 0 with
              | some n => signal? := some n
              | none => fail ("invalid signal number or name: " ++ name)
          pure (signal?, found.any (fun o => o.1 = 'l'), rest)
      | _ => pure (none, false, arguments)
  if lists then
    if signal?.isSome then usage
    match targets with
    | [] => write ("0\n" ++ String.join (Signal.names.map (· ++ "\n"))).toList
    | a :: _ =>
      let n ← number a
      let n := if 128 < n then n - 128 else n
      if 0 < n ∧ n ≤ 64 then write (Signal.name n ++ "\n").toList
      else fail ("invalid signal number or exit status: " ++ a)
  else
    if targets.isEmpty then usage
    go (signal?.getD 15) 0 targets
where
  /-- Sends each of some processes a signal. -/
  go (signal : Nat) (status : Nat) : List String → Action Nat
    | [] => return status
    | target :: targets => do
      let m ← get
      let process ←
        match target.toList with
        | '%' :: _ => fail ("No such job: " ++ target)
        | '-' :: digits => number (String.ofList digits)
        | _ => number target
      if process = m.self || process = 0 then
        Action.signal signal
        go signal status targets
      else if m.jobs.any fun j => j.process = process then
        if signal ≠ 0 then modify fun m => killJob m process signal
        go signal status targets
      else
        complain "No such process\n"
        go signal 1 targets

/-- Waits for the parts that run beside the script. -/
def wait (arguments : List String) : Action Nat := do
  let (_, targets) ← optionsOf "" arguments
  if targets.isEmpty then
    modify fun m => { m with time := (m.jobs.map (·.finish)).foldl max m.time }
    return 0
  else go 0 targets
where
  /-- Waits for each of some processes. -/
  go (status : Nat) : List String → Action Nat
    | [] => return status
    | target :: targets => do
      if target.toList.head? = some '%' then fail ("No such job: " ++ target)
      let process ← number target
      let m ← get
      match m.jobs.find? fun j => j.process = process with
      | none => go 127 targets
      | some j =>
        modify fun m => { m with time := max m.time j.finish }
        go j.status targets

/-! ## The working directory -/

/-- The path of a place. -/
def pathOf (place : Location) : String :=
  match place with
  | "/" :: names => "/" ++ "/".intercalate names
  | names => "/".intercalate (System.workPath :: names)

def changeDirectory (arguments : List String) : Action Nat := do
  let (_, arguments) ← optionsOf "LP" arguments
  let m ← get
  let (target, shows) :=
    match arguments with
    | [] => ((m.value? "HOME").getD "", false)
    | "-" :: _ => ((m.value? "OLDPWD").getD "", true)
    | a :: _ => (a, false)
  let place? :=
    if target = "" then some m.here
    else
      match m.find? target with
      | some (.directory place) => some place
      | _ => none
  match place? with
  | none => fail ("can't cd to " ++ target)
  | some place =>
    modify fun m =>
      { m with here := place, located := m.located.map fun (name, path, _) => (name, path, true) }
    let old := (m.value? "PWD").getD ""
    let path := encode (pathOf place)
    assign "OLDPWD" old
    assign "PWD" path
    if shows then write (path ++ "\n").toList else return 0

/-! ## Masks and limits -/

/-- Shows the mask of permissions, or sets it. -/
def umask (arguments : List String) : Action Nat := do
  let (found, arguments) ← optionsOf "S" arguments
  let m ← get
  match arguments with
  | [] =>
    write (if found.isEmpty then octalMode m.mask 4 ++ "\n" else PermissionMask.letters m.mask ++ "\n").toList
  | a :: _ =>
    let cs := a.toList
    if cs.head?.any isDigit then
      if cs.all fun c => '0' ≤ c && c ≤ '7' then
        MonadState.set { m with mask := (Arithmetic.digitsOf 8 cs).1 % 512 }
        return 0
      else fail ("Illegal number: " ++ a)
    else
      match PermissionMask.change? m.mask a with
      | some mask =>
        MonadState.set { m with mask := mask }
        return 0
      | none => fail ("Illegal mode: " ++ a)

/-- Shows limits, or sets one. -/
def ulimit (arguments : List String) : Action Nat := do
  let (found, arguments) ← optionsOf "HSatfdsmcnpvlwr" arguments
  let letters := found.map (·.1)
  let scope := (letters.filter fun c => c = 'H' || c = 'S').getLast?
  let all := letters.contains 'a'
  let r := Resource.ofLetter ((letters.filter fun c => !"HSa".toList.contains c).getLast?.getD 'f')
  let m ← get
  let chosen (limits : Option Nat × Option Nat) : Option Nat :=
    if scope = some 'H' then limits.2 else limits.1
  match arguments with
  | [] =>
    let text :=
      if all then String.join (Resource.all.map fun r => r.listed (chosen (r.limits m.limits)))
      else r.shown (chosen (r.limits m.limits))
    write text.toList
  | a :: rest =>
    if all || !rest.isEmpty then fail "too many arguments"
    else
      let cs := a.toList
      if a ≠ "unlimited" && !cs.all isDigit then fail "bad number"
      else
        let limit :=
          if a = "unlimited" then none else some ((Arithmetic.digitsOf 10 cs).1 * r.step % 2 ^ 64)
        match r.change m.limits (scope ≠ some 'H') (scope ≠ some 'S') limit with
        | .ok limits =>
          MonadState.set { m with limits := limits }
          return 0
        | .error reason => fail ("error setting limit (" ++ reason ++ ")")

/-! ## Aliases -/

/-- Shows aliases, or sets them. -/
def alias_ (arguments : List String) : Action Nat := do
  let line (a : String × String) : String := a.1 ++ "=" ++ quoted a.2 ++ "\n"
  if arguments.isEmpty then write (String.join ((← get).aliases.map line)).toList
  else
    let mut status := 0
    for a in arguments do
      match assignment a with
      | (name, some text) =>
        modify fun m => { m with aliases := m.aliases.filter (fun x => x.1 ≠ name) ++ [(name, text)] }
      | (name, none) =>
        match (← get).aliases.find? fun x => x.1 = name with
        | some found => let _ ← write (line found).toList
        | none =>
          say ("alias: " ++ name ++ " not found\n")
          status := 1
    return status

def unalias (arguments : List String) : Action Nat := do
  let (found, names) ← optionsOf "a" arguments
  if !found.isEmpty then
    modify fun m => { m with aliases := [] }
    return 0
  else
    let mut status := 0
    for name in names do
      if (← get).aliases.any fun x => x.1 = name then
        modify fun m => { m with aliases := m.aliases.filter fun x => x.1 ≠ name }
      else
        say ("unalias: " ++ name ++ " not found\n")
        status := 1
    return status

/-! ## All commands -/

/-- The line that tells of an interrupted program's times. -/
def times : String :=
  "0m0.000000s 0m0.000000s\n0m0.000000s 0m0.000000s\n"

/-- Commands that come before functions of their names. -/
def special : List String :=
  Token.specialCommands

/-- Commands whose arguments may be assignments. -/
def assigning : List String :=
  ["alias", "export", "local", "readonly"]

/-- Commands found wherever programs are looked for. -/
def regular : List String :=
  ["alias", "bg", "cd", "chdir", "command", "echo", "false", "fg", "getopts", "hash", "jobs", "kill", "printf",
    "pwd", "read", "test", "[", "true", "type", "ulimit", "umask", "unalias", "wait"]

def isBuiltin (name : String) : Bool :=
  special.contains name || regular.contains name

/-- Carries out a command that runs no other ones. -/
def run (name : String) (arguments : List String) : Action Nat := do
  match name with
  | ":" | "true" => return 0
  | "alias" => alias_ arguments
  | "unalias" => unalias arguments
  | "false" => return 1
  | "break" => leaveLoops .loops arguments
  | "continue" => leaveLoops .turns arguments
  | "cd" | "chdir" => changeDirectory arguments
  | "echo" => write (Format.echo arguments)
  | "printf" =>
    let (_, arguments) ← optionsOf "" arguments
    match arguments with
    | [] => fail "usage: printf format [arg ...]"
    | format :: rest =>
      let p := Format.printf format rest
      for s in p.complaints do complain s
      match p.failure with
      | some s =>
        complain s
        let _ ← write p.output
        modify fun m => { m with status := 2 }
        throw .failure
      | none =>
        let status ← write p.output
        return if p.complaints.isEmpty then status else 1
  | "exit" => exit arguments
  | "export" => mark "export" (fun v => { v with isExported := true }) (·.isExported) arguments
  | "readonly" => mark "readonly" (fun v => { v with isFixed := true }) (·.isFixed) arguments
  | "getopts" => getopts arguments
  | "kill" => kill arguments
  | "local" =>
    let m ← get
    if m.frames.isEmpty then fail "not in a function"
    for a in arguments do makeOwn a false
    return 0
  | "pwd" => write (((← get).value? "PWD").getD "/" ++ "\n").toList
  | "read" => read arguments
  | "return" => return_ arguments
  | "set" => set arguments
  | "shift" => shift arguments
  | "test" => return if ← Condition.decide arguments then 0 else 1
  | "[" =>
    if !(arguments.getLast?.any fun a => a.startsWith "]") then fail "missing ]"
    return if ← Condition.decide arguments.dropLast then 0 else 1
  | "times" => write times.toList
  | "trap" => trap arguments
  | "umask" => umask arguments
  | "ulimit" => ulimit arguments
  | "unset" => unset arguments
  | "wait" => wait arguments
  | _ => return 0

end Builtin

end AddonAtlas.Shell
