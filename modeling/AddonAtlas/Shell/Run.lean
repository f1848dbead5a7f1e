import AddonAtlas.Shell.Builtin
import AddonAtlas.Shell.Redirection
import AddonAtlas.Shell.Utility
import AddonAtlas.Shell.Wide.Builtin
import AddonAtlas.Shell.Wide.Starting
import AddonAtlas.Text.Quoted

/-!
# Running scripts

A script is read and run line by line, on a file tree and with arguments and variables; its run is an
`Execution`. Commands that run on their own, such as those of a pipe, start from a copy of the state, of
which they leave behind what they did to files and what they wrote. The stages of a pipe run one after the
other. A bound on the turns of all loops and on their time stands in for scripts that never end, and a bound
on the depth of commands for the memory that a script may use.
-/

namespace AddonAtlas.Shell

open Shell.Action

/-- The turns that all loops of a script may take. -/
def maxTurns : Nat := 200000

/-- The time, in thousandths of a second, after which no loop takes another turn. -/
def maxTime : Nat := 600000

/-- The depth to which commands may run other commands. -/
def maxDepth : Nat := 30000

/-- How many functions may run at a time. -/
def maxCalls : Nat := 1000

namespace Machine

/-- The state in which a part of the script starts that runs on its own. -/
def child (m : Machine) : Machine :=
  { m with
    traps := m.traps.filter fun t => t.2 = ""
    outerTraps := some (m.outerTraps.getD m.traps)
    skip := .nothing
    finalStatus := none
    jobs := [] }

/-- The state after a part of the script that ran on its own. -/
def after (m : Machine) (child : Machine) : Machine :=
  { m with
    tree := child.tree
    files := child.files
    documents := child.documents
    output := child.output
    errors := child.errors
    time := child.time
    processes := child.processes
    turns := child.turns
    pending := child.pending }

end Machine

/-- How the name of a command is understood. -/
inductive Callee
  | function (body : Command)
  | builtin (name : String)
  | program (name : String)

/-- The words of a command before it is run. -/
structure Call where
  words : List String
  /-- Whether functions do not count. -/
  noFunctions : Bool
  /-- Whether the name was that of a command before which assignments stay. -/
  isSpecial : Option Bool
  /-- The lists of values that belong to words, by their places. -/
  lists : List (Nat × Bool × List Wide.ListItem) := []

namespace Call

/-- The callee that a name stands for. -/
def callee (m : Machine) (noFunctions : Bool) (name : String) : Callee :=
  match if noFunctions then none else m.functions.find? fun f => f.1 = name with
  | some (_, body) => .function body
  | none =>
    if if m.isWide then Wide.isBuiltin name else Builtin.isBuiltin name then .builtin name else .program name

/-- Expands words until there are texts. -/
def someTexts (capture : Capture) : List Word → Action (List String × List Word)
  | [] => return ([], [])
  | w :: rest => do
    match ← Expansion.texts capture w with
    | [] => someTexts capture rest
    | texts => return (texts, rest)

/-- The values that a word in a list stands for, perhaps with their place. -/
def listItems (capture : Capture) (w : Word) : Action (List Wide.ListItem) := do
  let plain : Action (List Wide.ListItem) := do
    return (← Expansion.texts capture w).map fun s => ⟨none, false, s⟩
  let placed (index value : List (Char ⊕ Piece)) (appends : Bool) : Action (List Wide.ListItem) := do
    let place ← Expansion.text capture (Word.ofUnits index)
    return [⟨some place, appends, ← Expansion.assigned capture (Word.ofUnits value)⟩]
  match w.units with
  | .inl '[' :: rest =>
    match Word.splitAt? (· == ']') '[' ']' 0 rest with
    | some (index, .inl '=' :: value) => placed index value false
    | some (index, .inl '+' :: .inl '=' :: value) => placed index value true
    | _ => plain
  | _ => plain

/-- The values of a list. -/
def allItems (capture : Capture) (items : List Word) : Action (List Wide.ListItem) := do
  return (← items.mapM (listItems capture)).flatten

/-- The text of an index as it is written in front of an assignment. -/
def indexText (capture : Capture) (index : Option Word) : Action String := do
  match index with
  | some w => return "[" ++ (← Expansion.text capture w) ++ "]"
  | none => return ""

/-- Expands the other words of a command, of which some may be assignments. The lists among them come by their
places. -/
def others (capture : Capture) (assigns : Bool) : (place : Nat) → List Word →
    Action (List String × List (Nat × Bool × List Wide.ListItem))
  | _, [] => return ([], [])
  | place, w :: rest => do
    let wide := (← get).isWide
    let (texts, lists) ←
      match if assigns && wide then Assigning.ofWord? w else none with
      | some a =>
        let front := a.name ++ (← indexText capture a.index)
        match a.value with
        | [.list items] => do pure ([front], [(place, a.appends, ← allItems capture items)])
        | value => do
          pure ([front ++ (if a.appends then "+=" else "=") ++ (← Expansion.assigned capture value)], [])
      | none =>
        match if assigns && !wide then w.assignment? else none with
        | some (name, value) => do pure ([name ++ "=" ++ (← Expansion.assigned capture value)], [])
        | none => do pure (← Expansion.texts capture w, [])
    let (more, moreLists) ← others capture assigns (place + texts.length) rest
    return (texts ++ more, lists ++ moreLists)

/-- The words of a command. The name `command` in front, with options that do not ask for a description, is
taken off. -/
def ofWords (capture : Capture) : (fuel : Nat) → (shown : List String) →
    (noFunctions : Bool) → (isSpecial : Option Bool) → List String → List Word →
    Action (Call × List String)
  | 0, shown, noFunctions, isSpecial, texts, _ => return (⟨texts, noFunctions, isSpecial, []⟩, shown ++ texts)
  | fuel + 1, shown, noFunctions, isSpecial, texts, words => do
    let (texts, words) ← if texts.isEmpty then someTexts capture words else pure (texts, words)
    match texts with
    | [] => return (⟨[], noFunctions, isSpecial, []⟩, shown)
    | name :: rest =>
      let m ← get
      let finish (isSpecial : Option Bool) (assigns : Bool) : Action (Call × List String) := do
        let (more, lists) ← others capture assigns texts.length words
        return (⟨texts ++ more, noFunctions, isSpecial, lists⟩, shown ++ texts ++ more)
      match callee m noFunctions name with
      | .builtin name =>
        let isSpecial := some (isSpecial.getD (Builtin.special.contains name && !m.isWide))
        if name = "command" then
          let (rest, words) ← if rest.isEmpty then someTexts capture words else pure (rest, words)
          match rest with
          | [] => return (⟨[name], noFunctions, isSpecial, []⟩, shown ++ [name])
          | option :: after =>
            let letters := option.toList
            if letters.head? ≠ some '-' || letters.length = 1 then
              ofWords capture fuel (shown ++ [name]) true isSpecial rest words
            else if letters.all fun c => c = 'p' || c = '-' then
              let (after, words) ← if after.isEmpty then someTexts capture words else pure (after, words)
              if after.isEmpty then return (⟨[name], noFunctions, isSpecial, []⟩, shown ++ [name, option])
              else ofWords capture fuel (shown ++ [name, option]) true isSpecial after words
            else
              let (more, _) ← others capture false 0 words
              return (⟨name :: rest ++ more, noFunctions, isSpecial, []⟩, shown ++ name :: rest ++ more)
        else finish isSpecial (if m.isWide then Wide.declaring.contains name else Builtin.assigning.contains name)
      | _ => finish isSpecial false

end Call

/-- Words that only begin or end commands. -/
def isKeyword (m : Machine) (name : String) : Bool :=
  Token.keywords.contains name || (m.isWide && (Token.wideKeywords.contains name || ["]]", "time", "select",
    "coproc"].contains name))

/-- What is known of a program from then on. -/
def remember (m : Machine) (name path : String) : Machine :=
  if name.toList.contains '/' then m else m.withLocated name path

/-- Says what a name stands for, in a word or in a sentence. -/
def describe (m : Machine) (isBrief : Bool) (name : String) : Option String × Machine :=
  let alias? := (m.aliases.find? fun a => a.1 = name).map (·.2)
  if isKeyword m name then (some (if isBrief then name else name ++ " is a shell keyword"), m)
  else
    match alias? with
    | some text =>
      (some (if isBrief then "alias " ++ name ++ "=" ++ Builtin.quoted text
        else name ++ " is an alias for " ++ text), m)
    | none =>
      match Call.callee m false name with
      | .function _ => (some (if isBrief then name else name ++ " is a shell function"), m)
      | .builtin _ =>
        (some (if isBrief then name
          else if Builtin.special.contains name then name ++ " is a special shell builtin"
          else name ++ " is a shell builtin"), m)
      | .program _ =>
        match Utility.locate m name with
        | .ok path =>
          let isKnown := m.located.any fun l => l.1 = name
          let relation := if isKnown then " is a tracked alias for " else " is "
          (some (if isBrief then path else name ++ relation ++ path), if isKnown then m else remember m name path)
        | .error _ => (none, m)

/-- Writes what names stand for. -/
def describeAll (isBrief : Bool) (names : List String) : Action Nat := do
  let mut status := 0
  let mut text := ""
  for name in names do
    match describe (← get) isBrief name with
    | (some line, m) =>
      set m
      text := text ++ line ++ "\n"
    | (none, _) =>
      if !isBrief then text := text ++ name ++ ": not found\n"
      status := 127
  return max status (← Action.write text.toList)

/-- The list in which the place of a program is kept. -/
def locationList (name : String) : Nat :=
  let codes := name.toList.map Char.toNat
  ((codes.head?.getD 0) * 16 + codes.sum) % 32768 % 31

/-- Shows which programs were found, forgets them, or looks for some. -/
def rehash (arguments : List String) : Action Nat := do
  let (found, names) ← Builtin.optionsOf "r" arguments
  let m ← get
  if !found.isEmpty then
    set { m with located := [] }
    return 0
  else if names.isEmpty then
    let lines := (List.range 31).flatMap fun i =>
      (m.located.filter fun l => locationList l.1 = i).map fun (_, path, isOld) =>
        path ++ (if isOld then "*" else "") ++ "\n"
    Action.write (String.join lines).toList
  else
    let mut status := 0
    for name in names do
      let m ← get
      match Call.callee m false name with
      | .program _ =>
        if !name.toList.contains '/' then
          match Utility.locate m name with
          | .ok path => set (remember m name path)
          | .error e =>
            complain (name ++ ": " ++ (if e = .noEntry ∨ e = .notDirectory then "not found" else e.description))
            status := 1
      | _ => pure ()
    return status

/-- How names are described in the wide dialect. -/
inductive Describing
  | brief
  | sentence
  /-- One word for what it is. -/
  | kind
  /-- The path of a program. -/
  | path
  /-- The path of a program, be there something else of its name. -/
  | forcedPath
deriving DecidableEq

/-- The descriptions of what a name stands for, the one that counts first. -/
def descriptions (m : Machine) (style : Describing) (name : String) : List String :=
  let say (kind sentence : String) : List String :=
    match style with
    | .brief => [name]
    | .sentence => [name ++ " is " ++ sentence]
    | .kind => [kind]
    | .path | .forcedPath => []
  let aliased := (m.aliases.filter fun a => a.1 = name && m.hasChoice "expand_aliases").flatMap fun a =>
    match style with
    | .brief => ["alias " ++ name ++ "=" ++ Wide.apostrophed a.2]
    | .sentence => [name ++ " is aliased to " ++ ScriptReader.named a.2]
    | .kind => ["alias"]
    | _ => []
  let keyword := if isKeyword m name then say "keyword" "a shell keyword" else []
  let function := if m.functions.any fun f => f.1 = name then say "function" "a function" else []
  let builtin := if Wide.isBuiltin name then say "builtin" "a shell builtin" else []
  let file :=
    match Utility.locate m name with
    | .ok path =>
      match style with
      | .sentence =>
        let isKnown := m.located.any fun l => l.1 = name
        [name ++ " is " ++ (if isKnown then "hashed (" ++ path ++ ")" else path)]
      | .kind => ["file"]
      | _ => [path]
    | .error _ => []
  aliased ++ keyword ++ function ++ builtin ++ file

/-- Writes what names stand for, in the wide dialect. -/
def describeWide (style : Describing) (all : Bool) (names : List String) : Action Nat := do
  let m ← get
  let mut status := 0
  for name in names do
    let isHidden := style = .path && (isKeyword m name || Wide.isBuiltin name ||
      m.functions.any fun f => f.1 = name)
    match descriptions m style name with
    | [] =>
      if !isHidden then
        if style = .sentence then complain (name ++ ": not found")
        status := 1
    | found =>
      if !isHidden then
        let _ ← Action.write (String.join ((if all then found else found.take 1).map (· ++ "\n"))).toList
  return status

/-- Shows which programs were found, forgets them, or looks for some, in the wide dialect. -/
def rehashWide (arguments : List String) : Action Nat := do
  let (found, names) ← Wide.optionsOf "lrp:dt" arguments
  let has (c : Char) : Bool := found.any fun o => o.1 = c
  let m ← get
  if has 'r' then
    set { m with located := [] }
    return 0
  else if names.isEmpty then
    if m.located.isEmpty then
      Action.write "hash: hash table empty\n".toList
    else
      Action.write ("hits\tcommand\n" ++ String.join (m.located.map fun l => "   1\t" ++ l.2.1 ++ "\n")).toList
  else
    let mut status := 0
    for name in names do
      let m ← get
      if has 't' then
        match m.located.find? fun l => l.1 = name with
        | some l => let _ ← Action.write (l.2.1 ++ "\n").toList
        | none =>
          complain (name ++ ": not found")
          status := 1
      else
        match Call.callee m false name with
        | .program _ =>
          match Utility.locate m name with
          | .ok path => set (remember m name path)
          | .error _ =>
            complain (name ++ ": not found")
            status := 1
        | _ => pure ()
    return status

/-- The place of the file behind a descriptor. -/
def channelPlace (number : Nat) : Location :=
  ["/", "dev", "fd", toString number]

/-- What is left of the loops that are being left, at the end of a turn of one: whether this loop ends. -/
def endsLoop : Action Bool := do
  let m ← get
  match m.skip with
  | .nothing => return false
  | .loops n =>
    set { m with skip := if n ≤ 1 then .nothing else .loops (n - 1) }
    return true
  | .turns n =>
    set { m with skip := if n ≤ 1 then .nothing else .turns (n - 1) }
    return 1 < n
  | _ => return true

/-- Uses up one turn of a loop; a loop that has no turn left is taken to go on for ever. -/
def takeTurn : Action Unit := do
  let m ← get
  if m.turns = 0 || maxTime < m.time then hang else set { m with turns := m.turns - 1 }

/-- Repeats an action that tells whether it is the last time. -/
def repeatTurns (turn : Nat → Action (Nat × Bool)) : (count : Nat) → (status : Nat) → Action Nat
  | 0, _ => hang
  | count + 1, status => do
    takeTurn
    let (status, isLast) ← turn status
    if isLast then return status else repeatTurns turn count status

/-- Repeats an action that tells whether it is the last time and whether the choices are shown again. -/
def menuTurns (turn : (shows : Bool) → (status : Nat) → Action (Nat × Bool × Bool)) : (count : Nat) →
    (shows : Bool) → (status : Nat) → Action Nat
  | 0, _, _ => hang
  | count + 1, shows, status => do
    takeTurn
    let (status, isLast, shows) ← turn shows status
    if isLast then return status else menuTurns turn count shows status

/-- Takes turns for values, until a turn was the last one. -/
def turnsFor (turn : String → Action (Nat × Bool)) : (status : Nat) → List String → Action Nat
  | status, [] => return status
  | _, s :: rest => do
    takeTurn
    let (status, isLast) ← turn s
    if isLast then return status else turnsFor turn status rest

/-- Complains of a fault in a script. `context` names the text of the script, if it is not that of a file. -/
def refuseScript {α : Type} (context : String) (f : SyntaxFault) : Action α := do
  modify fun m => { m with line := f.line }
  if (← get).isWide then
    let m ← get
    for message in f.messages do
      say (m.name ++ ": " ++ context ++ "line " ++ toString f.line ++ ": " ++ message ++ "\n")
    modify fun m => { m with status := 2 }
    throw .failure
  else fail (f.messages.headD "")

/-- How a text is run as a script. -/
structure Reading where
  /-- Whether it is the content of a file. -/
  isFile : Bool
  /-- Whether a command that is given up ends only the line it is in. -/
  isMain : Bool
  /-- What stands in messages for the text. -/
  context : String

/-- Runs the lines of a text. Nothing follows a line that leaves something. The lines of files are shown if an
option asks for it. -/
def runLines (evaluate : Command → Action Nat) (r : Reading) : (lines : Nat) → Place → (status : Nat) →
    Action Nat
  | 0, _, status => return status
  | lines + 1, place, status => do
    let m ← get
    let aliases := if m.isWide && !m.hasChoice "expand_aliases" then [] else m.aliases
    match { place with
      documents := m.documents, aliases := aliases, hasGroups := m.hasChoice "extglob" }.nextLine with
    | .error f => refuseScript r.context f
    | .ok none => return status
    | .ok (some (c, after)) =>
      set { m with documents := after.documents, readLine := after.line }
      if r.isFile && m.hasOption 'v' then
        say (String.ofList (place.rest.take (place.rest.length - after.rest.length)))
      let (status, after) ←
        if r.isMain then
          match ← observe (evaluate c) with
          | .ok status => pure (status, after)
          | .error .abandoned =>
            modify fun m => { m with loops := 0, skip := .nothing, command := none }
            let m ← get
            pure (m.status, { after with line := min after.line (m.line + 1) })
          | .error stop => throw stop
        else do pure (← evaluate c, after)
      if (← get).skip = .nothing then runLines evaluate r lines after status else return status

/-- Runs a text as a script of its own. -/
def runReading (evaluate : Command → Action Nat) (r : Reading) (firstLine : Nat) (text : String) :
    Action Nat := do
  let m ← get
  let text := if m.isWide && !text.isEmpty && !text.endsWith "\n" then text ++ "\n" else text
  let start := { Place.start m.dialect text.toList m.documents with line := firstLine }
  ensuring (runLines evaluate r (text.length + 1) start 0) fun after => { after with readLine := m.readLine }

/-- Runs a text as a part of a script. -/
def runText (evaluate : Command → Action Nat) (isFile : Bool) (text : String) : Action Nat :=
  runReading evaluate ⟨isFile, false, ""⟩ 1 text

/-- Attends to the signals that have come. -/
def attend (evaluate : Command → Action Nat) : Action Unit := do
  let m ← get
  if m.pending.isEmpty || m.outerTraps.isSome then return
  else
    let status := m.finalStatus.getD m.status
    set { m with finalStatus := some status }
    for n in [1:65] do
      let m ← get
      if m.pending.contains n && m.skip = .nothing then
        set { m with pending := m.pending.filter (· != n) }
        match m.traps.find? fun t => t.1 = n with
        | some (_, action) =>
          let _ ← runReading evaluate ⟨false, false, "trap: "⟩ 1 action
          modify fun after => if after.skip = .function then after else { after with status := status }
        | none => pure ()
    modify fun after => { after with finalStatus := m.finalStatus }

/-- Runs a script, or a part of it that runs on its own, to its end, and what is to be done at its end; the
status with which it ends. -/
def runToEnd (evaluate : Command → Action Nat) (body : Action Unit) : Action Nat := do
  settle (← observe body)
  let m ← get
  match m.traps.find? fun t => t.1 = 0 with
  | none => return m.status
  | some (_, action) =>
    let status := m.status
    set
      { m with
        traps := m.traps.filter fun t => t.1 ≠ 0
        skip := .nothing
        finalStatus := some status }
    match ← observe (runReading evaluate ⟨false, false, "exit trap: "⟩ 1 action) with
    | .ok _ =>
      modify fun m => { m with status := status }
    | .error .failure => modify fun m => if m.isWide then { m with status := status } else m
    | r => settle (r.map fun _ => ())
    return (← get).status
where
  /-- The state at the end, by the way it came about. -/
  settle : Except Stop Unit → Action Unit
    | .ok () | .error .ended | .error .failure | .error .abandoned => return
    | .error .exited => modify fun m => { m with status := m.finalStatus.getD m.status }
    | .error (.killed n) => throw (.killed n)

/-- Runs a part of the script on its own; its status. -/
def onItsOwn (evaluate : Command → Action Nat) (body : Action Unit) : Action Nat := do
  let m ← get
  set m.child
  let status ← ensuring (runToEnd evaluate body) fun child => m.after child
  return status % 256

/-- Runs a part of the script with its output kept. -/
def withOutputKept {α : Type} (body : Action α) : Action (α × Bytes) := do
  let m ← get
  let (m₁, number) := m.withFile (OpenFile.writing .kept)
  set (m₁.point 1 (some number))
  let a ← ensuring body fun after => { after with descriptors := m.descriptors }
  let m ← get
  let kept := (m.files[number]?.map (·.kept)).getD []
  set { m with files := m.files.modify number fun f => { f with kept := [] } }
  return (a, Bytes.concat kept.reverse)

/-- A text without the newlines at its end. -/
def withoutLastNewlines (cs : List Char) : List Char :=
  (cs.reverse.dropWhile (· == '\n')).reverse

/-- The text of a trace. -/
def traced (prompt : String) (parts : List String) : String :=
  prompt ++ " ".intercalate parts ++ "\n"

/-- What a shell of the wide dialect does that is started with arguments. -/
def runWideShell (evaluate : Command → Action Nat) (arguments : List String) : Action Unit := do
  let m ← get
  set { m with
    dialect := .wide
    options := ['h', 'B']
    choices := Wide.startChoices
    bindings := Wide.startVariables m.bindings
    name := m.name }
  let s ← Wide.start arguments
  let run (isFile : Bool) (context name : String) (arguments : List String) (text : String) : Action Unit := do
    modify fun m => { m with name := name, arguments := arguments }
    let status ← runReading evaluate ⟨isFile, true, context⟩ 1 text
    modify fun m => { m with status := status }
  match s with
  | .told text status =>
    let _ ← Action.write text.toList
    modify fun m => { m with status := status }
  | .text text arguments =>
    modify fun m => { m with options := 'c' :: m.options }
    run false "-c: " (arguments.headD m.name) (arguments.drop 1) text
  | .input arguments =>
    modify fun m => { m with options := 's' :: m.options }
    run true "" m.name arguments (ofBytes (← Utility.input))
  | .file path arguments =>
    match Utility.contentOf m path with
    | .ok b => run true "" path arguments (ofBytes b)
    | .error u =>
      let isDirectory := u.errno = .isDirectory
      say ((if isDirectory then path else m.name) ++ ": " ++ path ++ ": " ++
        (if isDirectory then "Is a directory" else u.description) ++ "\n")
      modify fun m => { m with status := if isDirectory then 126 else 127 }

/-- What a shell of the plain dialect does that is started with arguments: options, and the name of a script or
the script itself. -/
def runPlainShell (evaluate : Command → Action Nat) (arguments : List String) : Action Unit := do
  let s ← Builtin.switchAll true arguments
  let run (isFile : Bool) (name : String) (arguments : List String) (text : String) : Action Unit := do
    modify fun m => { m with name := name, arguments := arguments }
    let _ ← runText evaluate isFile text
  let m ← get
  match s.rest with
  | [] =>
    if s.hasText then fail "-c requires an argument"
    else run true m.name [] (ofBytes (← Utility.input))
  | first :: rest =>
    if s.hasText then run false (rest.headD m.name) (rest.drop 1) first
    else if m.hasOption 's' then run true m.name s.rest (ofBytes (← Utility.input))
    else
      match Utility.contentOf m first with
      | .ok b => run true first rest (ofBytes b)
      | .error u => fail ("cannot open " ++ first ++ ": " ++ Opening.reason false u.errno)

/-- The variables that a shell is started with, of which one tells the directory it is in. -/
def knowingPlace (m : Machine) (known : List (String × Variable)) : List (String × Variable) :=
  let isRight (v : Variable) : Bool :=
    (v.value.bind fun path => if path.startsWith "/" then m.find? path else none).any fun e =>
      match e with
      | .directory place => place = m.here
      | _ => false
  let right := Variable.of (some (Builtin.pathOf m.here)) true false
  match known.lookup "PWD" with
  | some v => if isRight v then known else known.map fun (name, v) => (name, if name = "PWD" then right else v)
  | none => if m.here = [] then known else known ++ [("PWD", right)]

/-- Runs an action as a process of its own, which starts with what this one exports, unless it takes the place
of this one; its status. A shell tells of a process that was killed. -/
def asProcess (evaluate : Command → Action Nat) (takesPlace tells : Bool) (name : String) (body : Action Unit) :
    Action Nat := do
  let m ← get
  set
    { m with
      name := name
      arguments := []
      bindings := Utility.startVariables (knowingPlace m (m.bindings.filter fun v => v.2.isExported))
      functions := []
      aliases := []
      frames := []
      options := []
      traps := m.traps.filter fun t => t.2 = ""
      outerTraps := none
      pending := []
      status := 0
      finalStatus := none
      line := 0
      readLine := 1
      command := none
      loops := 0
      calls := 0
      skip := .nothing
      jobs := []
      located := []
      dialect := .plain
      statuses := []
      choices := []
      running := []
      visited := []
      optionPlace := (1, 0)
      self := if takesPlace then m.self else firstProcess + m.processes + 1
      processes := m.processes + 1 }
  let r ← ensuring (observe (runToEnd evaluate body)) fun child =>
    { (m.after child) with pending := m.pending }
  match r with
  | .ok status => return status % 256
  | .error (.killed n) =>
    if takesPlace then throw (.killed n)
    else
      if tells ∧ n ≠ 2 ∧ n ≠ 13 then say (Signal.description n ++ "\n")
      return 128 + n
  | .error stop => throw stop

/-- What is started for the file at a path. A file in no known format is taken for a script. -/
def invocation (m : Machine) (path : String) : Except Errno Invocation :=
  match Invocation.atPath m.tree m.here Invocation.maxScripts (decode path) with
  | .error .badFormat => if m.isWide then .ok ⟨"bash", "/bin/bash", [decode path]⟩ else .ok ⟨"sh", "/bin/sh", [decode path]⟩
  | r => r

/-- Whether a program is not found, for a reason. -/
def isAbsence (e : Errno) : Bool :=
  e == .noEntry || e == .notDirectory || e == .nameTooLong || e == .tooManyLinks

/-- What is started for a name, in the shell's own text. What cannot be started is complained of if that is
asked for. -/
def findProgram (complains : Bool) (name : String) : Action (Except Errno Invocation) := do
  let m ← get
  match (Utility.locate m name).bind fun path => (invocation m path).map fun c => (path, c) with
  | .error e =>
    if complains then
      if m.isWide then
        if name.toList.contains '/' then
          let isDirectory := (m.find? name).any Found.isDirectory
          let isScript := (m.find? name).any fun f => f.isFile && f.isExecutable
          complain (name ++ ": " ++
            (if isDirectory then "Is a directory"
            else if isScript && e = .noEntry then "cannot execute: required file not found"
            else e.description))
        else complain (name ++ (if e = .notPermitted then ": " ++ e.description else ": command not found"))
      else complain (name ++ ": " ++ (if e = .noEntry ∨ e = .notDirectory then "not found" else e.description))
    return .error e
  | .ok (path, c) =>
    if complains then set (remember m name path)
    let shown := if c.name = decode path && c.isRenamed then name else encode c.name
    return .ok { c with name := shown, front := c.front.map encode }

mutual

/-- Runs a command, unless its status is tested by another one; the status. -/
def evaluate : (depth : Nat) → (tested : Bool) → Command → Action Nat
  | 0, _, _ => throw (.killed 11)
  | depth + 1, tested, c => do
    if (← get).hasOption 'n' then return (← get).status
    let again := evaluate depth
    attend (again false)
    let (status, checks) ←
      match c with
      | .simple line assignments words redirections => do
        pure (← simple depth tested line assignments words redirections, true)
      | .pipeline commands => do pure (← stages depth tested none [] commands, true)
      | .background line body redirections => do
        modify fun m => { m with line := line }
        pure (← background depth body redirections, true)
      | .subshell line body redirections => do
        modify fun m => { m with line := line }
        let capture : Capture := ⟨output depth, channel depth⟩
        let openings ← redirections.mapM (Opening.ofRedirection capture)
        pure (← onItsOwn (again false) (do
          modify fun m => { m with nesting := (m.nesting.1, m.nesting.2 + 1) }
          Opening.performAll capture openings
          let _ ← again tested body), true)
      | .redirected line body redirections => do
        let m ← get
        let isAtOnce := m.isWide && m.running.isEmpty
        set { m with line := if isAtOnce then m.readLine - 1 else line }
        let capture : Capture := ⟨output depth, channel depth⟩
        match ← observe (redirections.mapM (Opening.ofRedirection capture)) with
        | .error .failure =>
          if m.isWide then pure (1, false) else throw .failure
        | .error stop => throw stop
        | .ok openings =>
          let descriptors := (← get).descriptors
          let status ← ensuring (do
              match ← observe (Opening.performAll capture openings) with
              | .error .failure => return if m.isWide then 1 else 2
              | .error stop => throw stop
              | .ok () => again tested body)
            fun m => { m with descriptors := descriptors }
          closeChannels depth m.channels.length
          pure (status, false)
      | .sequence first second => do
        let status ← again tested first
        if (← get).skip = .nothing then pure (← again tested second, false) else pure (status, false)
      | .andThen first second => do
        let status ← again true first
        if status ≠ 0 || (← get).skip ≠ .nothing then pure (status, false)
        else pure (← again tested second, false)
      | .orElse first second => do
        let status ← again true first
        if status = 0 || (← get).skip ≠ .nothing then pure (status, false)
        else pure (← again tested second, false)
      | .negation body => do pure (if (← again true body) = 0 then 1 else 0, false)
      | .conditional condition yes no => do
        let status ← again true condition
        if (← get).skip ≠ .nothing then pure (status, false)
        else if status = 0 then pure (← again tested yes, false)
        else
          match no with
          | some no => pure (← again tested no, false)
          | none => pure (0, false)
      | .loop succeeding condition body => do
        modify fun m => { m with loops := m.loops + 1 }
        let turn (status : Nat) : Action (Nat × Bool) := do
          let i ← again true condition
          let isReturn := (← get).skip = .function || (← get).skip = .bare
          let m ← get
          let wasSkipping := m.skip ≠ .nothing
          let ends ← endsLoop
          if isReturn then return (i, true)
          else if ends then return (status, true)
          else if wasSkipping then return (status, false)
          else if (i = 0) ≠ succeeding then return (status, true)
          else
            let status ← again tested body
            return (status, ← endsLoop)
        let status ← repeatTurns turn (maxTurns + 1) 0
        modify fun m => { m with loops := m.loops - 1 }
        pure (status, false)
      | .forEach line name items body => do
        modify fun m => { m with line := line }
        let texts ← items.mapM (Expansion.texts ⟨output depth, channel depth⟩)
        modify fun m => { m with loops := m.loops + 1 }
        let turn (s : String) : Action (Nat × Bool) := do
          match ← observe (assign name s) with
          | .ok () =>
            let status ← again tested body
            return (status, ← endsLoop)
          | .error .abandoned => return (1, true)
          | .error stop => throw stop
        let status ← turnsFor turn 0 texts.flatten
        modify fun m => { m with loops := m.loops - 1 }
        pure (status, false)
      | .menu line name items body => do
        modify fun m => { m with line := line }
        let texts := (← items.mapM (Expansion.texts ⟨output depth, channel depth⟩)).flatten
        modify fun m => { m with loops := m.loops + 1 }
        let turn (shows : Bool) (status : Nat) : Action (Nat × Bool × Bool) := do
          let m ← get
          if shows then
            say (String.join (texts.zipIdx.map fun (t, i) => toString (i + 1) ++ ") " ++ t ++ "\n"))
          say ((m.value? "PS3").getD "#? ")
          let more ← Wide.read ["-r"]
          if more ≠ 0 then
            let _ ← Action.write ['\n']
            return (1, true, false)
          else
            let reply := ((← get).value? "REPLY").getD ""
            if reply.isEmpty then return (status, false, true)
            else
              let chosen := reply.toNat?.bind fun n => if n = 0 then none else texts[n - 1]?
              assign name (chosen.getD "")
              let status ← again tested body
              return (status, ← endsLoop, false)
        let status ← menuTurns turn (maxTurns + 1) true 0
        modify fun m => { m with loops := m.loops - 1 }
        pure (status, false)
      | .choice line subject clauses => do
        modify fun m => { m with line := line }
        let text ← Expansion.text ⟨output depth, channel depth⟩ subject
        pure (← choose depth tested text clauses, false)
      | .define name body => do
        modify fun m =>
          { m with functions := (name, body) :: m.functions.filter fun f => f.1 ≠ name }
        pure (0, false)
      | .test line t => do
        modify fun m => { m with line := line }
        match ← observe (Wide.decideTest ⟨output depth, channel depth⟩ t) with
        | .ok b => pure (if b then 0 else 1, true)
        | .error .failure => do pure ((← get).status, true)
        | .error stop => throw stop
      | .reckon line expression => do
        modify fun m => { m with line := line }
        let n? ← sum depth expression
        pure (if n?.any (· ≠ 0) then 0 else 1, true)
      | .counting line first condition step body => do
        modify fun m => { m with line := line }
        match ← sum depth first with
        | none => pure (1, false)
        | some _ =>
          modify fun m => { m with loops := m.loops + 1 }
          let turn (status : Nat) : Action (Nat × Bool) := do
            let isBlank := Word.isBlank condition
            let n? ← if isBlank then pure (some 1) else sum depth condition
            match n? with
            | none => return (1, true)
            | some n =>
              if n = 0 then return (status, true)
              else
                let status ← again tested body
                if ← endsLoop then return (status, true)
                else
                  match ← sum depth step with
                  | none => return (1, true)
                  | some _ => return (status, false)
          let status ← repeatTurns turn (maxTurns + 1) 0
          modify fun m => { m with loops := m.loops - 1 }
          pure (status, false)
    let isPipeline := c matches .pipeline _
    modify fun m => { m with status := status, statuses := if checks && !isPipeline then [status] else m.statuses }
    attend (again false)
    let m ← get
    if checks && !tested && m.status ≠ 0 then
      if m.running.isEmpty || m.hasOption 'E' then
        match m.traps.find? fun t => t.1 = 66 with
        | some (_, action) =>
          set { m with traps := m.traps.filter fun t => t.1 ≠ 66 }
          let _ ← runReading (again true) ⟨false, false, "trap: "⟩ m.line action
          modify fun after => { after with status := m.status, traps := m.traps }
        | none => pure ()
      if m.hasOption 'e' then throw .ended
    return m.status

/-- The value of an arithmetic expression between double parentheses, unless it has none. -/
def sum : (depth : Nat) → Word → Action (Option Int)
  | 0, _ => throw (.killed 11)
  | depth + 1, expression => do
    let source ← Expansion.text ⟨output depth, channel depth⟩ expression
    let refuse (message : String) : Action (Option Int) := do
      modify fun m => { m with command := some "((" }
      complain message
      modify fun m => { m with command := none }
      return none
    match ← observe (reckon? source) with
    | .ok (.ok n) => return some n
    | .ok (.error message) => refuse message
    | .error .abandoned => return none
    | .error stop => throw stop

/-- Removes the files that words have put paths in the place of, but for the first ones; what was written to them
is read by the commands that were to do so. -/
def closeChannels : (depth : Nat) → (kept : Nat) → Action Unit
  | 0, _ => throw (.killed 11)
  | depth + 1, kept => do
    let m ← get
    let closed := m.channels.take (m.channels.length - kept)
    set { m with channels := m.channels.drop (m.channels.length - kept) }
    for (number, body?) in closed.reverse do
      let place := channelPlace number
      let content :=
        match (← get).tree.find? place with
        | some (.file content _) => content
        | _ => Bytes.empty
      modify fun m => { m with tree := m.tree.remove place }
      match body? with
      | some body =>
        let _ ← onItsOwn (evaluate depth false) (do
          let (m, number) := (← get).withFile (OpenFile.reading content)
          set (m.point 0 (some number))
          let _ ← evaluate depth false body)
      | none => pure ()

/-- The path of a file that a command writes, or that a command reads when the one with the path has ended. -/
def channel : (depth : Nat) → (isInput : Bool) → Option Command → Action String
  | 0, _, _ => throw (.killed 11)
  | depth + 1, isInput, body => do
    let content ←
      match isInput, body with
      | true, some body => do
        let (_, bytes) ← withOutputKept (onItsOwn (evaluate depth false) (do
          let _ ← evaluate depth false body))
        pure bytes
      | _, _ => pure Bytes.empty
    modify fun m =>
      let number := 63 - m.channels.length
      let tree := (m.tree.put ["/", "dev", "fd"] .directory).put (channelPlace number) (.file content false)
      { m with tree := tree, channels := (number, if isInput then none else body) :: m.channels }
    return "/dev/fd/" ++ toString (64 - (← get).channels.length)

/-- The output of a command, as it is put into a word. -/
def output : (depth : Nat) → Option Command → Action String
  | 0, _ => throw (.killed 11)
  | _ + 1, none => do
    modify fun m => { m with innerStatus := 0 }
    return ""
  | depth + 1, some body => do
    let (status, bytes) ← withOutputKept (onItsOwn (evaluate depth false) (do
      modify fun m =>
        let keeps := !m.isWide || m.hasChoice "inherit_errexit"
        { m with
          options := if keeps then m.options else m.options.filter (· ≠ 'e')
          nesting := (m.nesting.1 + 1, m.nesting.2 + 1) }
      let _ ← evaluate depth false body))
    modify fun m => { m with innerStatus := status }
    return String.ofList (withoutLastNewlines ((ofBytes bytes).toList.filter (· != '\x00')))

/-- Runs the clause that matches a text. -/
def choose : (depth : Nat) → (tested : Bool) → (text : String) → List (List Word × Option Command) →
    Action Nat
  | 0, _, _, _ => throw (.killed 11)
  | _ + 1, _, _, [] => return 0
  | depth + 1, tested, text, (patterns, body) :: rest => do
    if ← matchesAny depth text patterns then
      match body with
      | some body => if (← get).skip = .nothing then evaluate depth tested body else return 0
      | none => return 0
    else choose depth tested text rest

/-- Whether any of some patterns matches a text. -/
def matchesAny : (depth : Nat) → (text : String) → List Word → Action Bool
  | 0, _, _ => throw (.killed 11)
  | _ + 1, _, [] => return false
  | depth + 1, text, w :: rest => do
    let field ← Expansion.field ⟨output depth, channel depth⟩ w
    let m ← get
    if m.matchesPattern false (m.hasChoice "nocasematch") field.pattern text.toList then return true
    else matchesAny depth text rest

/-- Runs the stages of a pipe, each with what the one before has written; the status of the last one. The
statuses of those before are given, the last one first. -/
def stages : (depth : Nat) → (tested : Bool) → (input : Option Bytes) → (statuses : List Nat) → List Command →
    Action Nat
  | 0, _, _, _, _ => throw (.killed 11)
  | _ + 1, _, _, _, [] => return 0
  | depth + 1, tested, input, statuses, c :: rest => do
    let m ← get
    let body : Action Unit := do
      match input with
      | some b =>
        let (m, number) := (← get).withFile (OpenFile.reading b)
        set (m.point 0 (some number))
      | none => pure ()
      let _ ← evaluate depth tested c
    let alone := onItsOwn (evaluate depth false) (do
      modify fun m => { m with nesting := (m.nesting.1, m.nesting.2 + 1) }
      body)
    if rest.isEmpty then
      let last ←
        if m.hasChoice "lastpipe" then
          ensuring body fun after => { after with descriptors := m.descriptors }
          pure (← get).status
        else alone
      let all := last :: statuses
      modify fun m => { m with statuses := all.reverse }
      return if m.hasChoice "pipefail" then (all.find? (· ≠ 0)).getD 0 else last
    else
      let (status, bytes) ← withOutputKept alone
      stages depth tested (some bytes) (status :: statuses) rest

/-- Runs a command beside the script. -/
def background : (depth : Nat) → Command → List Redirection → Action Nat
  | 0, _, _ => throw (.killed 11)
  | depth + 1, body, redirections => do
    let capture : Capture := ⟨output depth, channel depth⟩
    let openings ← redirections.mapM (Opening.ofRedirection capture)
    let m ← get
    let process := firstProcess + m.processes + 1
    set { m with processes := m.processes + 1, process := process }
    let status ← onItsOwn (evaluate depth false) (do
      let (m, number) := (← get).withFile (OpenFile.reading Bytes.empty)
      set (m.point 0 (some number))
      Opening.performAll capture openings
      let _ ← evaluate depth false body)
    modify fun after =>
      { after with
        time := m.time
        process := m.process
        jobs := ⟨process, status, after.time⟩ :: after.jobs }
    return 0

/-- Runs a simple command. -/
def simple : (depth : Nat) → (tested : Bool) → (line : Nat) → (assignments words : List Word) →
    List Redirection → Action Nat
  | 0, _, _, _, _, _ => throw (.killed 11)
  | depth + 1, tested, line, assignments, words, redirections => do
    modify fun m => { m with line := line, innerStatus := 0 }
    let capture : Capture := ⟨output depth, channel depth⟩
    let channels := (← get).channels.length
    let (call, shown) ← Call.ofWords capture (words.length + 16) [] false none [] words
    let m ← get
    let callee? := call.words.head?.map (Call.callee m call.noFunctions)
    let isExec := call.words.head? = some "exec" && (callee? matches some (.builtin _))
    let isFunction := callee? matches some (.function _)
    let isDeclaring := (callee? matches some (.builtin _)) && Wide.declaring.contains (call.words.headD "")
    let isOwn :=
      if m.isWide then isFunction || (!call.words.isEmpty && !assignments.isEmpty && !isDeclaring)
      else !call.words.isEmpty && call.isSpecial ≠ some true
    let descriptors := m.descriptors
    let outer := m.fileNumber? 2
    if isOwn then modify fun m => { m with frames := [] :: m.frames }
    let keepsDescriptors := isExec && call.words.length ≤ 1
    let body : Action Nat := do
      let opened ← observe (do
        let openings ← redirections.mapM (Opening.ofRedirection capture)
        match ← observe (Opening.performAll capture openings) with
        | .error .failure =>
          if !m.isWide then
            modify fun m => { m with status := 2, descriptors := descriptors }
            if call.isSpecial = some true then throw .failure
          return false
        | .error stop => throw stop
        | .ok () => return true)
      let isOpen ← match opened with
        | .ok isOpen => pure isOpen
        | .error .failure => if m.isWide then pure false else throw .failure
        | .error stop => throw stop
      if !isOpen then
        modify fun m => { m with descriptors := descriptors }
        return if m.isWide then 1 else 2
      else
        let mut shownAssignments : List String := []
        for w in assignments do
          if m.isWide then
            match ← observe (assignWide depth isOwn w) with
            | .ok text => shownAssignments := shownAssignments ++ [text]
            | .error .abandoned => if !isOwn then throw .abandoned
            | .error stop => throw stop
          else
            match w.assignment? with
            | some (name, value) =>
              let text ← Expansion.assigned capture value
              shownAssignments := shownAssignments ++ [name ++ "=" ++ text]
              if isOwn then Builtin.makeOwn (name ++ "=" ++ text) true
              else
                assign name text
                if isExec && 1 < call.words.length then
                  modify fun m =>
                    m.setVariable name { (m.binding? name).getD Variable.unset with isExported := true }
            | none => pure ()
        let m ← get
        if m.hasOption 'x' then
          let prompt := (m.value? "PS4").getD ""
          let text :=
            if m.isWide then
              let prompt := String.ofList (List.replicate m.nesting.1 (prompt.toList.headD '+')) ++ prompt
              String.join (shownAssignments.map fun a => traced prompt [a]) ++
                (if shown.isEmpty then "" else traced prompt (shown.map Wide.tracedWord))
            else traced prompt (shownAssignments ++ shown)
          match outer with
          | some n => set ((m.writeFile n (toBytes text.toList)).getD m)
          | none => pure ()
        let status ←
          match call.words, callee? with
          | name :: arguments, some (.function f) => function depth tested name f arguments
          | _ :: arguments, some (.builtin name) =>
            let lists := call.lists.map fun (i, l) => (i - 1, l)
            builtin depth tested (call.isSpecial = some true) name arguments lists
          | name :: arguments, some (.program _) =>
            match ← program depth false true name arguments with
            | .ok status => pure status
            | .error e => pure (if isAbsence e || (!name.toList.contains '/' && !m.isWide) then 127 else 126)
          | _, _ => do pure (← get).innerStatus
        if m.isWide && !call.words.isEmpty then
          modify fun m => m.setVariable "_" (Variable.of (some (call.words.getLastD "")) false false)
        return status
    let status ← ensuring body fun after =>
      let after := if isOwn then Builtin.leaveFrame after else after
      if keepsDescriptors then after else { after with descriptors := descriptors }
    if (← get).channels.length ≠ channels then closeChannels depth channels
    return status

/-- Carries out an assignment of the wide dialect; the text that shows it. -/
def assignWide : (depth : Nat) → (isOwn : Bool) → Word → Action String
  | 0, _, _ => throw (.killed 11)
  | depth + 1, isOwn, w => do
    let capture : Capture := ⟨output depth, channel depth⟩
    match Assigning.ofWord? w with
    | none => return ""
    | some a =>
      let m ← get
      let place? ← match a.index with
        | some index => do
          let text ← Expansion.text capture index
          if (m.elements? (m.aim a.name)).any (·.isNamed) then pure (some text)
          else do pure (some (toString (← reckon text)))
        | none => pure none
      let front := a.name ++ (match place? with
        | some p => "[" ++ p ++ "]"
        | none => "") ++ (if a.appends then "+=" else "=")
      match a.value with
      | [.list items] =>
        let items ← Call.allItems capture items
        Wide.assignList a.name a.appends items
        return front ++ "(" ++ " ".intercalate (items.map fun i => Wide.tracedWord i.value) ++ ")"
      | value =>
        let text ← Expansion.assigned capture value
        if isOwn then
          match m.frames with
          | frame :: frames => set { m with frames := ((a.name, m.binding? a.name) :: frame) :: frames }
          | [] => pure ()
        Wide.assignValue a.name place? a.appends text
        if isOwn then
          modify fun m =>
            m.setVariable a.name { (m.binding? a.name).getD Variable.unset with isExported := true }
        return front ++ Wide.tracedWord text

/-- Runs a function. -/
def function : (depth : Nat) → (tested : Bool) → (name : String) → Command → List String → Action Nat
  | 0, _, _, _, _ => throw (.killed 11)
  | depth + 1, tested, name, body, arguments => do
    let m ← get
    if maxCalls ≤ m.calls && !m.isWide then
      set { m with calls := m.calls + 1 }
      fail ("Maximum function recursion depth (" ++ toString maxCalls ++ ") reached")
    set
      { m with
        arguments := arguments
        optionPlace := if m.isWide then m.optionPlace else (1, 0)
        loops := 0
        calls := m.calls + 1
        running := (name, m.line) :: m.running }
    ensuring (evaluate depth tested body) fun after =>
      { after with
        arguments := m.arguments
        optionPlace := if m.isWide then after.optionPlace else m.optionPlace
        running := m.running
        loops := m.loops
        calls := after.calls - 1
        skip := if after.skip = .function || after.skip = .bare then .nothing else after.skip }

/-- Carries out a command of the shell. Errors in most of them do not end the script. The lists among the
arguments come by their places. -/
def builtin : (depth : Nat) → (tested isSpecial : Bool) → (name : String) → List String →
    (lists : List (Nat × Bool × List Wide.ListItem)) → Action Nat
  | 0, _, _, _, _, _ => throw (.killed 11)
  | depth + 1, tested, isSpecial, name, arguments, lists => do
    let m ← get
    set { m with command := some name }
    let evaluateText (text : String) : Action Nat := do
      modify fun m => { m with command := none }
      runReading (evaluate depth tested) ⟨false, false, "eval: "⟩ (if m.isWide then m.line else 1) text
    let body : Action Nat := do
      match name with
      | "eval" =>
        if m.isWide then
          let (_, arguments) ← Wide.optionsOf "" arguments
          if arguments.isEmpty then return 0 else evaluateText (" ".intercalate arguments)
        else if arguments.isEmpty then return 0
        else runText (evaluate depth tested) false (" ".intercalate arguments)
      | "." | "source" => if m.isWide then wideSource depth arguments else source depth arguments
      | "exec" =>
        let arguments ← if m.isWide then do pure (← Wide.optionsOf "cla:" arguments).2 else pure arguments
        if arguments.isEmpty then return 0
        else
          match ← program depth true (!m.isWide) (arguments.headD "") (arguments.drop 1) with
          | .ok status => modify fun m => { m with status := status, traps := [] }
          | .error e =>
            if m.isWide then
              complain (arguments.headD "" ++ ": " ++
                (if isAbsence e then "not found" else "cannot execute: " ++ e.description))
            modify fun m => { m with status := if isAbsence e then 127 else 126 }
          throw .ended
      | "command" =>
        let (found, names) ←
          if m.isWide then Wide.optionsOf "pvV" arguments else Builtin.optionsOf "pvV" arguments
        match found.find? fun o => o.1 ≠ 'p' with
        | none => return 0
        | some (letter, _) =>
          if m.isWide then
            let status ← describeWide (if letter = 'v' then .brief else .sentence) false names
            let m ← get
            return if status ≠ 0 && names.any fun n => !(descriptions m .brief n).isEmpty then 0 else status
          else describeAll (letter = 'v') (names.take 1)
      | "type" =>
        if m.isWide then
          let (found, names) ← Wide.optionsOf "afptP" arguments
          let has (c : Char) : Bool := found.any fun o => o.1 = c
          let style : Describing :=
            if has 't' then .kind else if has 'P' then .forcedPath else if has 'p' then .path else .sentence
          describeWide style (has 'a') names
        else describeAll false arguments
      | "hash" => if m.isWide then rehashWide arguments else rehash arguments
      | "builtin" =>
        match arguments with
        | [] => return 0
        | name :: rest =>
          if Wide.isBuiltin name then builtin depth tested isSpecial name rest []
          else
            complain (name ++ ": not a shell builtin")
            return 1
      | "mapfile" | "readarray" =>
        Wide.mapfile (fun text => do let _ ← evaluateText text) arguments
      | name =>
        if !m.isWide then Builtin.run name arguments
        else if Wide.declaring.contains name then
          Wide.declare name (arguments.zipIdx.map fun (text, i) =>
            ⟨text, (lists.find? fun l => l.1 = i).map (·.2)⟩)
        else Wide.run name arguments
    let r ← observe (ensuring body fun after => { after with command := m.command })
    match r with
    | .ok status => return status
    | .error .failure => if isSpecial then throw .failure else return (← get).status
    | .error .abandoned =>
      if name = "eval" || name = "." || name = "source" then throw .abandoned else return 1
    | .error stop => throw stop

/-- Runs the script in a file as a part of one in the wide dialect. -/
def wideSource : (depth : Nat) → List String → Action Nat
  | 0, _ => throw (.killed 11)
  | depth + 1, arguments => do
    let (_, arguments) ← Wide.optionsOf "" arguments
    match arguments with
    | [] =>
      complain "filename argument required"
      Wide.misuse
    | name :: rest =>
      let m ← get
      let path := if name.toList.contains '/' then name else (Utility.inPath m name).getD name
      match Utility.contentOf m path with
      | .ok content =>
        set
          { m with
            command := none
            arguments := if rest.isEmpty then m.arguments else rest
            running := ("source", m.line) :: m.running }
        let status ← ensuring (runReading (evaluate depth false) ⟨true, false, ""⟩ 1 (ofBytes content)) fun after =>
          { after with
            running := m.running
            arguments := if rest.isEmpty then after.arguments else m.arguments
            skip := if after.skip = .function || after.skip = .bare then .nothing else after.skip }
        return status
      | .error u =>
        if u.errno = .isDirectory then complain (path ++ ": is a directory")
        else complainPlainly (path ++ ": " ++ u.description)
        return 1

/-- Runs the script in a file as a part of this one. -/
def source : (depth : Nat) → List String → Action Nat
  | 0, _ => throw (.killed 11)
  | depth + 1, arguments => do
    let (_, arguments) ← Builtin.optionsOf "" arguments
    match arguments with
    | [] => return 0
    | name :: _ =>
      let m ← get
      let path ←
        if name.toList.contains '/' then pure name
        else
          match Utility.inPath m name with
          | some path => pure path
          | none => fail (name ++ ": not found")
      match Opening.source m path with
      | .ok (_, some (content, _)) =>
        set { m with command := some path }
        let status ← runText (evaluate depth false) true (ofBytes content)
        modify fun m =>
          { m with skip := if m.skip = .function || m.skip = .bare then .nothing else m.skip }
        return status
      | .ok (_, none) | .error .noEntry | .error .notDirectory =>
        fail ("cannot open " ++ path ++ ": No such file")
      | .error e => fail ("cannot open " ++ path ++ ": " ++ e.description)

/-- Runs another program, in the place of this one or beside it. -/
def program : (depth : Nat) → (takesPlace complains : Bool) → (name : String) → List String →
    Action (Except Errno Nat)
  | 0, _, _, _, _ => throw (.killed 11)
  | depth + 1, takesPlace, complains, name, arguments => do
    match ← findProgram complains name with
    | .ok c => return .ok (← invoke depth takesPlace complains { c with front := c.front ++ arguments })
    | .error e => return .error e

/-- Runs a program that was found. -/
def invoke : (depth : Nat) → (takesPlace tells : Bool) → Invocation → Action Nat
  | 0, _, _, _ => throw (.killed 11)
  | depth + 1, takesPlace, tells, c => do
    let evaluate := evaluate depth false
    let shell (program name : String) (arguments : List String) : Action Nat :=
      asProcess evaluate takesPlace tells name
        (if program = "bash" then runWideShell evaluate arguments else runPlainShell evaluate arguments)
    let command (words : List String) : Action (Except Errno Nat) :=
      match words with
      | [] => return .ok 0
      | name :: arguments => program depth takesPlace false name arguments
    match ← observe (Utility.run shell command c.name c.program c.front) with
    | .ok status => return status
    | .error (.killed n) =>
      if takesPlace || n = 11 then throw (.killed n)
      else
        if tells ∧ n ≠ 2 ∧ n ≠ 13 then say (Signal.description n ++ "\n")
        return 128 + n
    | .error stop => throw stop

end

/-- What was written, in the order of the times at which it was. -/
def inOrder (l : List Written) : List Bytes :=
  (l.reverse.mergeSort fun a b => decide (a.time ≤ b.time)).map (·.bytes)

/-- The state in which a program starts. -/
def Machine.start (t : FileTree) (name : String) (environment : List (String × String)) : Machine :=
  let exported := environment.map fun (name, value) =>
    (encode name, Variable.of (some (encode value)) true false)
  { tree := t
    here := []
    name := name
    arguments := []
    bindings := Utility.startVariables exported
    functions := []
    aliases := []
    frames := []
    options := []
    traps := []
    outerTraps := none
    pending := []
    status := 0
    finalStatus := none
    innerStatus := 0
    line := 0
    readLine := 1
    command := none
    loops := 0
    calls := 0
    skip := .nothing
    files := #[OpenFile.reading Bytes.empty, OpenFile.writing .output, OpenFile.writing .errors]
    descriptors := [(0, 0), (1, 1), (2, 2)]
    documents := #[]
    output := []
    errors := []
    time := 0
    self := firstProcess
    process := firstProcess
    jobs := []
    processes := 0
    optionPlace := (1, 0)
    turns := maxTurns
    mask := 0o022
    limits := []
    located := []
    dialect := .plain
    statuses := []
    choices := []
    running := []
    visited := []
    channels := []
    nesting := (0, 0) }

/-- What is seen of a program that is run on a file tree. -/
def execute (t : FileTree) (c : Invocation) (environment : List (String × String))
    (arguments : List String) : Execution :=
  let evaluate := evaluate maxDepth false
  let c := ⟨c.program, encode c.name, (c.front ++ arguments).map encode⟩
  let (result, m) := (runToEnd evaluate do
    let status ← invoke maxDepth true false c
    modify fun m => { m with status := status }) (Machine.start t c.name environment)
  let ending :=
    match result with
    | .error (.killed n) => Ending.killed n
    | .error _ => Ending.exited (m.status % 256)
    | .ok status => Ending.exited (status % 256)
  ⟨inOrder m.output, Bytes.concat (inOrder m.errors), (m.jobs.map (·.finish)).foldl max m.time, ending,
    some m.tree⟩

end AddonAtlas.Shell
