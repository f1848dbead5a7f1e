import AddonAtlas.Shell.Wide.Condition
import AddonAtlas.Shell.Wide.Input
import AddonAtlas.Shell.Wide.Printing

/-!
# Commands of the wide dialect

The commands that the shell itself carries out in the wide dialect, as far as they differ from those of the plain
one, except for those that run other commands.
-/

namespace AddonAtlas.Shell.Wide

open Shell.Action

/-! ## Writing -/

/-- Writes texts, in which options may ask for escapes to be replaced. -/
def echo (arguments : List String) : Action Nat := do
  let m ← get
  let isOption (a : String) : Bool :=
    match a.toList with
    | '-' :: c :: cs => (c :: cs).all fun c => "neE".toList.contains c
    | _ => false
  let letters := (arguments.takeWhile isOption).flatMap fun a => a.toList.drop 1
  let text := " ".intercalate (arguments.dropWhile isOption)
  let escapes : Bool := match (letters.filter (· ≠ 'n')).getLast? with
    | some c => c = 'e'
    | none => m.hasChoice "xpg_echo"
  let ending := if letters.contains 'n' then [] else ['\n']
  if escapes then
    let (cs, stops) := Escaped.echoed text
    write (if stops then cs else cs ++ ending)
  else write (text.toList ++ ending)

/-- Writes a format with arguments, or gives the text to a variable. -/
def printf (arguments : List String) : Action Nat := do
  let (found, rest) ← optionsOf "v:" arguments
  let target? := (found.getLast?).map (·.2)
  if let some target := target? then
    if !isReference target then
      refuseName target
      endWith 2
  match rest with
  | [] => misuse
  | format :: values =>
    let p := printed format values
    for s in p.complaints.reverse do complain s
    for (name, n) in p.counted.reverse do assign name (toString n)
    let text := p.written.reverse
    match target? with
    | some target =>
      if !p.hasFailed || !p.isOver then
        assign target (String.ofList (text.takeWhile (· ≠ '\x00')))
      return if p.hasFailed then 1 else 0
    | none =>
      let status ← write text
      return if p.hasFailed then 1 else status

/-! ## Sums -/

/-- Works out sums; the last one tells the status. -/
def letSums (arguments : List String) : Action Nat := do
  let arguments := if arguments.head? = some "--" then arguments.drop 1 else arguments
  if arguments.isEmpty then
    complain "expression expected"
    return 1
  let mut value : Int := 0
  for a in arguments do
    match ← reckon? a with
    | .ok n => value := n
    | .error message =>
      complain message
      endWith 1
  return if value = 0 then 1 else 0

/-! ## Options -/

/-- The further options, with those that are on from the start. -/
def choiceNames : List (String × Bool) :=
  [("autocd", false), ("assoc_expand_once", false), ("cdable_vars", false), ("cdspell", false),
    ("checkhash", false), ("checkjobs", false), ("checkwinsize", true), ("cmdhist", true), ("compat31", false),
    ("compat32", false), ("compat40", false), ("compat41", false), ("compat42", false), ("compat43", false),
    ("compat44", false), ("complete_fullquote", true), ("direxpand", false), ("dirspell", false),
    ("dotglob", false), ("execfail", false), ("expand_aliases", false), ("extdebug", false), ("extglob", false),
    ("extquote", true), ("failglob", false), ("force_fignore", true), ("globasciiranges", true),
    ("globskipdots", true), ("globstar", false), ("gnu_errfmt", false), ("histappend", false),
    ("histreedit", false), ("histverify", false), ("hostcomplete", true), ("huponexit", false),
    ("inherit_errexit", false), ("interactive_comments", true), ("lastpipe", false), ("lithist", false),
    ("localvar_inherit", false), ("localvar_unset", false), ("login_shell", false), ("mailwarn", false),
    ("no_empty_cmd_completion", false), ("nocaseglob", false), ("nocasematch", false),
    ("noexpand_translation", false), ("nullglob", false), ("patsub_replacement", true), ("progcomp", true),
    ("progcomp_alias", false), ("promptvars", true), ("restricted_shell", false), ("shift_verbose", false),
    ("sourcepath", true), ("varredir_close", false), ("xpg_echo", false)]

/-- The further options that are on from the start. -/
def startChoices : List String :=
  (choiceNames.filter (·.2)).map (·.1)

/-- A line of a list of options. -/
def optionLine (name : String) (isOn : Bool) : String :=
  name ++ String.ofList (List.replicate (15 - name.length) ' ') ++ "\t" ++ (if isOn then "on\n" else "off\n")

/-- Whether an option with a letter, or one of those listed with them, is on. -/
def isOn (m : Machine) (o : Char × String) : Bool :=
  if o.2 = "pipefail" then m.hasChoice "pipefail"
  else if o.2 = "interactive-comments" then true
  else !isDigit o.1 && m.hasOption o.1

/-- Switches one of the further options. -/
def switchChoice (name : String) (on : Bool) : Action Unit :=
  modify fun m =>
    let others := m.choices.filter (· ≠ name)
    { m with choices := if on then name :: others else others }

/-- Switches an option by its letter. -/
def switchLetter (letter : Char) (on : Bool) : Action Unit :=
  modify fun m =>
    let others := m.options.filter (· ≠ letter)
    { m with options := if on then letter :: others else others }

/-- Switches one of the options that are listed with those with letters; whether there is one. -/
def switchNamed (name : String) (on : Bool) : Action Bool := do
  match Machine.wideOptionNames.find? fun o => o.2 = name with
  | none => return false
  | some (letter, name) =>
    if isDigit letter then switchChoice name on else switchLetter letter on
    return true

/-- The lines that list options, plainly or as commands. -/
def optionList (m : Machine) (asCommands : Bool) : String :=
  String.join (Machine.wideOptionNames.map fun o =>
    if asCommands then "set " ++ (if isOn m o then "-o " else "+o ") ++ o.2 ++ "\n" else optionLine o.2 (isOn m o))

/-- What is set by arguments: the options, and the arguments of the script if there are any. -/
def setOptions : (fuel : Nat) → List String → Action (Option (List String))
  | 0, _ => return none
  | _ + 1, [] => return none
  | fuel + 1, a :: rest => do
    match a.toList with
    | ['-', '-'] => return some rest
    | ['-'] =>
      modify fun m => { m with options := m.options.filter fun c => c ≠ 'x' && c ≠ 'v' }
      return if rest.isEmpty then none else some rest
    | sign :: c :: letters =>
      if sign ≠ '-' && sign ≠ '+' then return some (a :: rest)
      else
        let mut rest := rest
        for l in c :: letters do
          if l = 'o' then
            match rest with
            | name :: after =>
              rest := after
              if !(← switchNamed name (sign = '-')) then
                complain (name ++ ": invalid option name")
                endWith 2
            | [] =>
              let _ ← write (optionList (← get) (sign = '+')).toList
          else if "abefhkmnptuvxBCEHPT".toList.contains l then switchLetter l (sign = '-')
          else refuseOption (String.ofList [sign, l])
        setOptions fuel rest
    | _ => return some (a :: rest)

def set (arguments : List String) : Action Nat := do
  if arguments.isEmpty then write (listing (← get)).toList
  else
    match ← setOptions (arguments.length + 1) arguments with
    | some rest => modify fun m => { m with arguments := rest, optionPlace := (1, 0) }
    | none => pure ()
    return 0

/-- Shows the further options, or switches them. -/
def shopt (arguments : List String) : Action Nat := do
  let (found, names) ← optionsOf "psuqo" arguments
  let has (c : Char) : Bool := found.any fun o => o.1 = c
  let m ← get
  let all : List (String × Bool) :=
    if has 'o' then Machine.wideOptionNames.map fun o => (o.2, isOn m o)
    else choiceNames.map fun c => (c.1, m.hasChoice c.1)
  let line (o : String × Bool) : String :=
    if has 'p' then
      (if has 'o' then "set " ++ (if o.2 then "-o " else "+o ") else "shopt " ++ (if o.2 then "-s " else "-u ")) ++
        o.1 ++ "\n"
    else optionLine o.1 o.2
  if has 's' && has 'u' then giveUp "cannot set and unset shell options simultaneously" 1
  if names.isEmpty then
    let chosen := all.filter fun o => if has 's' then o.2 else if has 'u' then !o.2 else true
    if has 'q' then return 0 else write (String.join (chosen.map line)).toList
  else
    let mut status := 0
    for name in names do
      match all.find? fun o => o.1 = name with
      | none =>
        complain (name ++ (if has 'o' then ": invalid option name" else ": invalid shell option name"))
        status := 1
      | some o =>
        if has 's' || has 'u' then
          if has 'o' then let _ ← switchNamed name (has 's') else switchChoice name (has 's')
        else
          if !o.2 then status := 1
          if !has 'q' then let _ ← write (line o).toList
    return status

/-! ## The course of the script -/

/-- The number that an argument of a command is, if there is one; more than one argument ends the script. -/
def countOf (arguments : List String) : Action (Option Int) := do
  let arguments := if arguments.head? = some "--" then arguments.drop 1 else arguments
  match arguments with
  | [] => return none
  | a :: rest =>
    match Arithmetic.readInteger? (some 10) a with
    | none =>
      complain (a ++ ": numeric argument required")
      endWith 2
    | some n =>
      if !rest.isEmpty then
        complain "too many arguments"
        modify fun m => { m with status := 1 }
        throw .ended
      return some n

def exit (arguments : List String) : Action Nat := do
  let n? ← match ← observe (countOf arguments) with
    | .ok n? => pure n?
    | .error .failure => pure (some 2)
    | .error stop => throw stop
  match n? with
  | some n => modify fun m => { m with finalStatus := some (n % 256).toNat }
  | none => pure ()
  throw .exited

def return_ (arguments : List String) : Action Nat := do
  let n? ← match ← observe (countOf arguments) with
    | .ok n? => pure n?
    | .error .failure => pure (some 2)
    | .error stop => throw stop
  let m ← get
  if m.running.isEmpty && m.calls = 0 then
    complain ("can only " ++ ScriptReader.named "return" ++ " from a function or sourced script")
    return 2
  match n? with
  | some n =>
    modify fun m => { m with skip := .function }
    return (n % 256).toNat
  | none =>
    modify fun m => { m with skip := .bare }
    return m.status

/-- Leaves loops, or goes on with the next turn of one. -/
def leaveLoops (skip : Nat → Skip) (arguments : List String) : Action Nat := do
  let m ← get
  if m.loops = 0 then
    complain ("only meaningful in a " ++ ScriptReader.named "for" ++ ", " ++ ScriptReader.named "while" ++ ", or " ++
      ScriptReader.named "until" ++ " loop")
    return 0
  else
    match ← observe (countOf arguments) with
    | .error .failure =>
      modify fun m => { m with status := 128 }
      throw .ended
    | .error stop => throw stop
    | .ok n? =>
      let n := n?.getD 1
      if n ≤ 0 then
        complain (toString n ++ ": loop count out of range")
        modify fun m => { m with skip := .loops m.loops }
        return 1
      else
        modify fun m => { m with skip := skip (min n.toNat m.loops) }
        return 0

def shift (arguments : List String) : Action Nat := do
  let n? ← match ← observe (countOf arguments) with
    | .ok n? => pure n?
    | .error .failure => endWith 1
    | .error stop => throw stop
  let n := n?.getD 1
  let m ← get
  if n < 0 then
    complain (toString n ++ ": shift count out of range")
    return 1
  else if m.arguments.length < n.toNat then return 1
  else
    modify fun m => { m with arguments := m.arguments.drop n.toNat, optionPlace := (1, 0) }
    return 0

/-! ## Signals -/

/-- Conditions that are treated as signals, by the numbers behind those of the signals. -/
def furtherSignals : List (Nat × String) :=
  [(65, "DEBUG"), (66, "ERR"), (67, "RETURN")]

/-- The name of a signal. -/
def signalName (n : Nat) : String :=
  if n = 0 then "EXIT"
  else
    match furtherSignals.find? fun s => s.1 = n with
    | some s => s.2
    | none => "SIG" ++ (if n = 16 then "STKFLT" else Signal.name n)

/-- The signal that a text names. -/
def signal? (s : String) : Option Nat :=
  let upper := String.ofList (s.toList.map Char.toUpper)
  let bare := if upper.startsWith "SIG" then (upper.drop 3).toString else upper
  match furtherSignals.find? fun f => f.2 = upper with
  | some f => some f.1
  | none => if bare = "STKFLT" then some 16 else Signal.decode? bare 0

/-- The numbers and names of the signals in rows. -/
def signalTable : String :=
  let numbers := ((List.range 65).drop 1).filter fun n => n ≠ 32 && n ≠ 33
  String.join (numbers.zipIdx.map fun (n, i) =>
    (if n < 10 then " " else "") ++ toString n ++ ") " ++ signalName n ++
      (if (i + 1) % 5 = 0 || i + 1 = numbers.length then "\n" else "\t"))

def trap (arguments : List String) : Action Nat := do
  let (found, arguments) ← optionsOf "lp" arguments
  let m ← get
  let line (t : Nat × String) : String := "trap -- " ++ apostrophed t.2 ++ " " ++ signalName t.1 ++ "\n"
  if found.any fun o => o.1 = 'l' then write signalTable.toList
  else if arguments.isEmpty || found.any fun o => o.1 = 'p' then
    let wanted := arguments.filterMap signal?
    let chosen := if arguments.isEmpty then m.traps else m.traps.filter fun t => wanted.contains t.1
    write (String.join ((chosen.mergeSort fun a b => decide (a.1 ≤ b.1)).map line)).toList
  else
    let first := arguments.headD ""
    let rest := arguments.drop 1
    let resets := first ≠ "-" && (rest.isEmpty || (Signal.ofNumber? first).isSome)
    if resets && rest.isEmpty && (signal? first).isNone then misuse
    if first = "-" && rest.isEmpty then misuse
    let action? := if resets || first = "-" then none else some first
    let mut status := 0
    for name in if resets then arguments else rest do
      match signal? name with
      | none =>
        complain (name ++ ": invalid signal specification")
        status := 1
      | some n =>
        modify fun m =>
          let others := m.traps.filter fun t => t.1 ≠ n
          { m with traps := (action?.map fun a => (n, a)).toList ++ others }
    return status

def kill (arguments : List String) : Action Nat := do
  let refuse {α : Type} (s : String) : Action α := giveUp (s ++ ": invalid signal specification") 1
  match arguments with
  | [] => misuse
  | "-l" :: names | "-L" :: names =>
    if names.isEmpty then write signalTable.toList
    else
      let mut status := 0
      for name in names do
        match (Signal.ofNumber? (toString ((name.toNat?.map fun n => if 128 < n then n - 128 else n).getD 999))).filter (· ≠ 0) with
        | some n => let _ ← write ((signalName n).toList.drop 3 ++ ['\n'])
        | none =>
          match signal? name with
          | some n => let _ ← write (toString n ++ "\n").toList
          | none =>
            complain (name ++ ": invalid signal specification")
            status := 1
      return status
  | a :: rest =>
    let (number, targets) ←
      if a = "-s" || a = "-n" then
        match rest with
        | [] => giveUp (a ++ ": option requires an argument") 1
        | name :: rest =>
          match signal? name with
          | some n => pure (n, rest)
          | none => refuse name
      else if a = "--" then pure (15, rest)
      else if a.startsWith "-" then
        match signal? (a.drop 1).toString with
        | some n => pure (n, rest)
        | none => refuse (a.drop 1).toString
      else pure (15, arguments)
    if targets.isEmpty then misuse
    let mut status := 0
    for target in targets do
      let m ← get
      match target.toInt? with
      | none =>
        complain (target ++ (if target.startsWith "%" then ": no such job"
          else ": arguments must be process or job IDs"))
        status := 1
      | some n =>
        if n = m.self || n = 0 then Action.signal number
        else if m.jobs.any fun j => (j.process : Int) = n then
          if number ≠ 0 then modify fun m => Builtin.killJob m n.toNat number
        else
          complain ("(" ++ toString n ++ ") - No such process")
          status := 1
    return status

/-- Waits for the parts that run beside the script. -/
def wait (arguments : List String) : Action Nat := do
  let (_, targets) ← optionsOf "fnp:" arguments
  if targets.isEmpty then
    modify fun m => { m with time := (m.jobs.map (·.finish)).foldl max m.time }
    return 0
  else
    let mut status := 0
    for target in targets do
      let m ← get
      match target.toNat? with
      | none =>
        complain (target ++ (if target.startsWith "%" then ": no such job"
          else ": not a pid or valid job spec"))
        status := 127
      | some n =>
        match m.jobs.find? fun j => j.process = n with
        | none =>
          complain ("pid " ++ target ++ " is not a child of this shell")
          status := 127
        | some j =>
          modify fun m => { m with time := max m.time j.finish }
          status := j.status
    return status

/-! ## Directories -/

/-- A directory as it is shown, with a tilde for the home directory. -/
def shownDirectory (m : Machine) (place : Location) : String :=
  let path := encode (Builtin.pathOf place)
  match m.value? "HOME" with
  | some home =>
    if home = "" || home = "/" then path
    else if path = home then "~"
    else if path.startsWith (home ++ "/") then "~" ++ (path.drop home.length).toString
    else path
  | none => path

/-- Makes a place the working directory. -/
def enter (place : Location) : Action Unit := do
  let m ← get
  MonadState.set
    { m with here := place, located := m.located.map fun (name, path, _) => (name, path, true) }
  assign "OLDPWD" ((m.value? "PWD").getD "")
  assign "PWD" (encode (Builtin.pathOf place))

/-- The place of a directory. -/
def directoryAt (path : String) : Action Location := do
  let m ← get
  match m.find? path with
  | some (.directory place) => return place
  | some _ => giveUp (path ++ ": Not a directory") 1
  | none => giveUp (path ++ ": " ++ (m.absence path).description) 1

def changeDirectory (arguments : List String) : Action Nat := do
  let (_, arguments) ← optionsOf "LPe@" arguments
  let m ← get
  match arguments with
  | _ :: _ :: _ => giveUp "too many arguments" 1
  | [] =>
    match m.value? "HOME" with
    | none => giveUp "HOME not set" 1
    | some "" => return 0
    | some home =>
      enter (← directoryAt home)
      return 0
  | ["-"] =>
    match m.value? "OLDPWD" with
    | none => giveUp "OLDPWD not set" 1
    | some old =>
      let place ← directoryAt old
      enter place
      write (encode (Builtin.pathOf place) ++ "\n").toList
  | [target] =>
    if target.isEmpty then return 0
    let isOwn := target.startsWith "/" || target.startsWith "./" || target.startsWith "../" || target = "." || target = ".."
    let listed := if isOwn then [] else ((m.value? "CDPATH").getD "").splitOn ":"
    let candidates := (listed.filter (· ≠ "")).map fun d => if d.endsWith "/" then d ++ target else d ++ "/" ++ target
    match candidates.findSome? fun path => match m.find? path with
        | some (.directory place) => some place
        | _ => none with
    | some place =>
      enter place
      write (encode (Builtin.pathOf place) ++ "\n").toList
    | none =>
      enter (← directoryAt target)
      return 0

/-- Shows the directories to go back to. -/
def showDirectories (arguments : List String) : Action Nat := do
  let m ← get
  let all := (m.here :: m.visited).map (shownDirectory m)
  if arguments = ["-c"] then
    MonadState.set { m with visited := [] }
    return 0
  else if arguments = ["-p"] then write (String.join (all.map (· ++ "\n"))).toList
  else if arguments = ["-l"] then
    write (" ".intercalate ((m.here :: m.visited).map fun p => encode (Builtin.pathOf p)) ++ "\n").toList
  else if arguments = ["-v"] then
    write (String.join (all.zipIdx.map fun (d, i) => (if i < 10 then " " else "") ++ toString i ++ "  " ++ d ++ "\n")).toList
  else write (" ".intercalate all ++ "\n").toList

/-- Enters a directory that can be left again. -/
def pushDirectory (arguments : List String) : Action Nat := do
  let m ← get
  let arguments := if arguments.head? = some "--" then arguments.drop 1 else arguments
  match arguments with
  | [] =>
    match m.visited with
    | [] => giveUp "no other directory" 1
    | place :: rest =>
      enter place
      modify fun after => { after with visited := m.here :: rest }
      showDirectories []
  | target :: _ =>
    let place ← directoryAt target
    enter place
    modify fun after => { after with visited := m.here :: m.visited }
    showDirectories []

/-- Goes back to the directory before. -/
def popDirectory : Action Nat := do
  let m ← get
  match m.visited with
  | [] => giveUp "directory stack empty" 1
  | place :: rest =>
    enter place
    modify fun after => { after with visited := rest }
    showDirectories []

/-! ## Further commands -/

/-- Shows aliases, or sets them. -/
def alias_ (arguments : List String) : Action Nat := do
  let (_, names) ← optionsOf "p" arguments
  let line (a : String × String) : String := "alias " ++ a.1 ++ "=" ++ apostrophed a.2 ++ "\n"
  if names.isEmpty then
    write (String.join (((← get).aliases.mergeSort fun a b => decide (a.1 ≤ b.1)).map line)).toList
  else
    let mut status := 0
    for a in names do
      match Builtin.assignment a with
      | (name, some text) =>
        modify fun m => { m with aliases := m.aliases.filter (fun x => x.1 ≠ name) ++ [(name, text)] }
      | (name, none) =>
        match (← get).aliases.find? fun x => x.1 = name with
        | some found => let _ ← write (line found).toList
        | none =>
          complain (name ++ ": not found")
          status := 1
    return status

def unalias (arguments : List String) : Action Nat := do
  let (found, names) ← optionsOf "a" arguments
  if !found.isEmpty then
    modify fun m => { m with aliases := [] }
    return 0
  else if names.isEmpty then misuse
  else
    let mut status := 0
    for name in names do
      if (← get).aliases.any fun x => x.1 = name then
        modify fun m => { m with aliases := m.aliases.filter fun x => x.1 ≠ name }
      else
        complain (name ++ ": not found")
        status := 1
    return status

def umask (arguments : List String) : Action Nat := do
  let (found, rest) ← optionsOf "pS" arguments
  let has (c : Char) : Bool := found.any fun o => o.1 = c
  let m ← get
  match rest with
  | [] =>
    let text := if has 'S' then PermissionMask.letters m.mask else octalMode m.mask 4
    write ((if has 'p' then "umask " ++ (if has 'S' then "-S " else "") else "") ++ text ++ "\n").toList
  | a :: _ =>
    let cs := a.toList
    if cs.head?.any isDigit then
      if cs.all fun c => '0' ≤ c && c ≤ '7' then
        MonadState.set { m with mask := (Arithmetic.digitsOf 8 cs).1 % 512 }
        return 0
      else giveUp (a ++ ": octal number out of range") 1
    else
      match PermissionMask.change? m.mask a with
      | some mask =>
        MonadState.set { m with mask := mask }
        return 0
      | none =>
        let sign := (cs.filter fun c => !"ugoa=+-,rwxXst".toList.contains c).headD (cs.headD ' ')
        giveUp (ScriptReader.named (String.ofList [sign]) ++ ": invalid symbolic mode character") 1

/-- Reads the next option of arguments. -/
def getopts (arguments : List String) : Action Nat := do
  let arguments := if arguments.head? = some "--" then arguments.drop 1 else arguments
  match arguments with
  | known :: name :: given =>
    let m ← get
    let quiet := known.startsWith ":" || m.value? "OPTERR" = some "0"
    let words := if given.isEmpty then m.arguments else given
    let (index, offset) := m.optionPlace
    let index := max index 1
    let word := (words.getD (index - 1) "").toList
    let finish (index offset : Nat) (found : String) (isOver : Bool) : Action Nat := do
      assign "OPTIND" (toString index)
      modify fun m => { m with optionPlace := (index, offset) }
      if !isName name then
        refuseName name
        return 1
      assign name found
      return if isOver then 1 else 0
    let letters := if offset = 0 then word.drop 1 else word.drop offset
    let isOption := offset ≠ 0 || (word.head? = some '-' && !letters.isEmpty)
    if !isOption then
      unassign "OPTARG"
      finish index 0 "?" true
    else if offset = 0 && word = ['-', '-'] then
      unassign "OPTARG"
      finish (index + 1) 0 "?" true
    else
      let place := if offset = 0 then 1 else offset
      let c := letters.headD '?'
      let rest := letters.drop 1
      let (next, nextOffset) := if rest.isEmpty then (index + 1, 0) else (index, place + 1)
      let letter := String.ofList [c]
      let tell (what : String) : Action Unit := do
        if !quiet then say (m.name ++ ": " ++ what ++ " -- " ++ letter ++ "\n")
      match if c = ':' then [] else known.toList.dropWhile (· != c) with
      | [] =>
        if known.startsWith ":" then assign "OPTARG" letter
        else
          tell "illegal option"
          unassign "OPTARG"
        finish next nextOffset "?" false
      | _ :: ':' :: _ =>
        if !rest.isEmpty then
          assign "OPTARG" (String.ofList rest)
          finish (index + 1) 0 letter false
        else
          match words[index]? with
          | some a =>
            assign "OPTARG" a
            finish (index + 2) 0 letter false
          | none =>
            if known.startsWith ":" then
              assign "OPTARG" letter
              finish (index + 1) 0 ":" false
            else
              tell "option requires an argument"
              unassign "OPTARG"
              finish (index + 1) 0 "?" false
      | _ =>
        unassign "OPTARG"
        finish next nextOffset letter false
  | _ => misuse

/-- Tells from where the function was called. -/
def caller (arguments : List String) : Action Nat := do
  let m ← get
  if m.running.isEmpty then
    if arguments.isEmpty then write "0 NULL\n".toList else return 1
  else
    let line := toString ((m.running.head?.map (·.2)).getD 0)
    if arguments.isEmpty then write (line ++ " " ++ m.name ++ "\n").toList
    else write (line ++ " " ++ ((m.running[1]?).map (·.1)).getD "main" ++ " " ++ m.name ++ "\n").toList

/-- Commands whose arguments may be assignments. -/
def declaring : List String :=
  ["declare", "typeset", "local", "export", "readonly"]

/-- The commands of the wide dialect that the plain one does not have. -/
def furtherCommands : List String :=
  ["declare", "typeset", "let", "mapfile", "readarray", "shopt", "builtin", "source", "enable", "caller", "dirs",
    "pushd", "popd", "disown", "logout", "history", "help", "suspend", "compgen", "complete", "compopt", "bind",
    "fc"]

def isBuiltin (name : String) : Bool :=
  furtherCommands.contains name || (Builtin.isBuiltin name && name ≠ "chdir")

/-- Carries out a command that runs no other ones. -/
def run (name : String) (arguments : List String) : Action Nat := do
  match name with
  | "echo" => echo arguments
  | "printf" => printf arguments
  | "let" => letSums arguments
  | "read" => read arguments
  | "set" => set arguments
  | "shopt" => shopt arguments
  | "unset" => unset arguments
  | "exit" | "logout" => exit arguments
  | "return" => return_ arguments
  | "break" => leaveLoops .loops arguments
  | "continue" => leaveLoops .turns arguments
  | "shift" => shift arguments
  | "trap" => trap arguments
  | "kill" => kill arguments
  | "wait" => wait arguments
  | "cd" => changeDirectory arguments
  | "dirs" => showDirectories arguments
  | "pushd" => pushDirectory arguments
  | "popd" => popDirectory
  | "pwd" =>
    let _ ← optionsOf "LP" arguments
    Builtin.run name []
  | "alias" => alias_ arguments
  | "unalias" => unalias arguments
  | "umask" => umask arguments
  | "getopts" => getopts arguments
  | "caller" => caller arguments
  | "times" => write "0m0.000s 0m0.000s\n0m0.000s 0m0.000s\n".toList
  | "test" => return if ← decideArguments "" arguments then 0 else 1
  | "[" =>
    if arguments.getLast? ≠ some "]" then
      refuseCondition ("missing " ++ ScriptReader.named "]")
    else return if ← decideArguments "]" arguments.dropLast then 0 else 1
  | "bg" | "fg" =>
    complain "no job control"
    return 1
  | "suspend" =>
    complain "cannot suspend: no job control"
    return 1
  | "disown" => if (← get).jobs.isEmpty then giveUp "current: no such job" 1 else return 0
  | "jobs" | "history" | "enable" | "bind" | "fc" | "complete" | "compopt" | "compgen" | "help" => return 0
  | _ => Builtin.run name arguments

end AddonAtlas.Shell.Wide
