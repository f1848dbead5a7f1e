import AddonAtlas.Shell.Utility.Basic

/-!
# Programs that start others

Programs that run a command in another environment, with a limit on its time, or with arguments that are read
from standard input. They look for the command themselves and tell if it is not found.
-/

namespace AddonAtlas.Shell

namespace Utility

open Shell.Action

/-- How a command is run: its status, or why it cannot be started. -/
abbrev Starter := List String → Action (Except Errno Nat)

/-- The status for a command that cannot be started. -/
def unstarted (e : Errno) : Nat :=
  if e = .noEntry then 127 else 126

/-- Runs a command, or complains that it cannot be started. -/
def startOr (command : Starter) (refuse : Errno → Action Unit) (words : List String) : Action Nat := do
  match ← command words with
  | .ok status => return status
  | .error e =>
    refuse e
    return unstarted e

/-- Runs a command line as the shell does, and keeps what is written to standard output. -/
def outputOf (command : Starter) (line : List Char) : Action (List Char × Nat) := do
  let m ← get
  let (m', number) := m.withFile (OpenFile.writing .kept)
  set (m'.point 1 (some number))
  let status ← startOr command (fun _ => pure ()) ["sh", "-c", String.ofList line]
  let kept := (((← get).files[number]?).map (·.kept)).getD []
  modify fun after => { after with descriptors := m.descriptors }
  return (charactersOf (Bytes.concat kept.reverse), status)

/-! ## Environments -/

/-- The words of a text, with quotes and escapes taken away. -/
def splitWords : (fuel : Nat) → (current : Option (List Char)) → (quote : Option Char) → List Char → List String
  | 0, _, _, _ => []
  | _ + 1, current, _, [] => (current.map fun cs => String.ofList cs.reverse).toList
  | fuel + 1, current, quote, c :: rest =>
    let more (d : Char) (rest : List Char) : List String := splitWords fuel (some (d :: current.getD [])) quote rest
    match quote, c with
    | none, ' ' | none, '\t' | none, '\n' =>
      (current.map fun cs => String.ofList cs.reverse).toList ++ splitWords fuel none none rest
    | none, '\'' | none, '"' => splitWords fuel (some (current.getD [])) (some c) rest
    | some q, _ =>
      if c = q then splitWords fuel current none rest
      else
        match c, rest with
        | '\\', d :: rest => if d = q ∨ d = '\\' ∨ (q = '"' ∧ d = '$') then more d rest else more c (d :: rest)
        | _, _ => more c rest
    | none, '\\' =>
      match rest with
      | '_' :: rest => splitWords fuel current none (' ' :: rest)
      | 'n' :: rest => more '\n' rest
      | 't' :: rest => more '\t' rest
      | d :: rest => more d rest
      | [] => more c []
    | none, _ => more c rest

def environmentOptions : Options.Table :=
  .of "C:iS:u:v0" [("ignore-environment", "i"), ("null", "0"), ("unset=", "u"), ("chdir=", "C"),
    ("default-signal?", "default"), ("ignore-signal?", "ignore"), ("block-signal?", "block"),
    ("list-signal-handling", "list"), ("debug", "v"), ("split-string=", "S"), ("help", "help"),
    ("version", "version")]

/-- The arguments with the text of the option that splits a text taken apart. -/
def withSplitText (arguments : List String) : List String :=
  match arguments with
  | a :: rest =>
    let split (s : String) (rest : List String) : List String := splitWords (s.length + 2) none none s.toList ++ rest
    if a = "-S" then
      match rest with
      | s :: rest => split s rest
      | [] => arguments
    else if a.startsWith "-S" then split (a.drop 2).toString rest
    else if a.startsWith "-vS" then split (a.drop 3).toString rest
    else if a.startsWith "--split-string=" then split (a.drop 15).toString rest
    else arguments
  | [] => []

/-- Gives variables values and runs a command with them, or shows the variables. -/
def runInEnvironment (command : Starter) (name : String) (arguments : List String) : Action Nat :=
  withOptions name environmentOptions false 125 (withSplitText arguments) fun given words => do
    let m ← get
    let isEmpty := has given "i" || words.head? = some "-"
    let words := if words.head? = some "-" then words.drop 1 else words
    if isEmpty then modify fun m => { m with bindings := m.bindings.filter fun v => !v.2.isExported }
    for g in given do
      if g.option = "u" then modify fun m => m.dropVariable (g.value.getD "")
    let settings := words.takeWhile fun w => w.toList.contains '='
    for w in settings do
      let (name, value) := Builtin.assignment w
      modify fun m => m.setVariable name (Variable.of value true false)
    let call := words.drop settings.length
    let status ←
      if call.isEmpty then
        let ending := if has given "0" then "\x00" else "\n"
        let lines := (← get).environment.map fun (name, value) => name ++ "=" ++ value ++ ending
        finish name 125 (String.join lines).toList 0
      else
        if ((← get).value? "PATH").isNone then
          modify fun m => m.setVariable "PATH" (Variable.of (some "/bin:/usr/bin") false false)
        let refuse (e : Errno) : Action Unit := do
          complain name (Quotation.quoted (call.headD "") ++ ": " ++ e.description)
          if e = .noEntry && (call.headD "").toList.contains ' ' then
            complain name "use -[v]S to pass options in shebang lines"
        match value? given "C" with
        | none => startOr command refuse call
        | some directory =>
          match m.find? directory with
          | some (.directory place) =>
            modify fun m => { m with here := place }
            startOr command refuse call
          | some _ => giveUp name ("cannot change directory to " ++ Quotation.inShellQuotes directory ++ ": Not a directory") 125
          | none =>
            giveUp name ("cannot change directory to " ++ Quotation.inShellQuotes directory ++ ": " ++
              (m.absence directory).description) 125
    modify fun after => { after with bindings := m.bindings, here := m.here }
    return status

def showEnvironment (name : String) (arguments : List String) : Action Nat :=
  withOptions name (.of "0" [("null", "0"), ("help", "help"), ("version", "version")]) false 2 arguments
    fun given names => do
      let ending := if has given "0" then "\x00" else "\n"
      let all := (← get).environment
      if names.isEmpty then
        finish name 2 (String.join (all.map fun (name, value) => name ++ "=" ++ value ++ ending)).toList 0
      else
        let found := names.map fun n => if n.toList.contains '=' then none else (all.find? fun v => v.1 = n).map (·.2)
        let text := String.join (found.filterMap fun v => v.map (· ++ ending))
        finish name 2 text.toList (if found.all Option.isSome then 0 else 1)

/-! ## Conditions of running -/

/-- Runs a command with another precedence, which makes no difference here. -/
def runNicely (command : Starter) (name : String) (arguments : List String) : Action Nat :=
  let isNumber (cs : List Char) : Bool := !cs.isEmpty && cs.all isDigit
  let arguments :=
    match arguments with
    | a :: rest =>
      match a.toList with
      | '-' :: '-' :: ds | '-' :: '+' :: ds | '-' :: ds =>
        if isNumber ds then "-n" :: String.ofList (a.toList.drop 1) :: rest else arguments
      | _ => arguments
    | [] => []
  withOptions name (.of "n:" [("adjustment=", "n"), ("help", "help"), ("version", "version")]) false 125 arguments
    fun given call => do
      let adjustment := value? given "n"
      let isBad := adjustment.any fun s =>
        let cs := s.toList
        !isNumber (if cs.head? = some '-' ∨ cs.head? = some '+' then cs.drop 1 else cs)
      if isBad then giveUp name ("invalid adjustment " ++ Quotation.quoted (adjustment.getD "")) 125
      else if call.isEmpty then
        if adjustment.isSome then misuse name "a command must be given with an adjustment" 125
        else finish name 125 ['0', '\n'] 0
      else
        startOr command (fun e => complain name (Quotation.quoted (call.headD "") ++ ": " ++ e.description)) call

/-- Runs a command that signals at the end of a session do not end. -/
def runOn (command : Starter) (name : String) (arguments : List String) : Action Nat :=
  withOptions name (.of "" [("help", "help"), ("version", "version")]) false 125 arguments fun _ call => do
    if call.isEmpty then misuse name "missing operand" 125
    else
      startOr command (fun e =>
        complain name ("failed to run command " ++ Quotation.quoted (call.headD "") ++ ": " ++ e.description)) call

/-! ## Time -/

/-- A duration in seconds, or in a unit at its end, as thousandths of seconds; nothing if it is none. -/
def milliseconds? (s : String) : Option Nat :=
  let whole := s.toList.takeWhile isDigit
  let rest := s.toList.drop whole.length
  let (fraction, rest) :=
    match rest with
    | '.' :: rest => (rest.takeWhile isDigit, rest.dropWhile isDigit)
    | rest => ([], rest)
  let unit? :=
    match rest with
    | [] | ['s'] => some 1
    | ['m'] => some 60
    | ['h'] => some 3600
    | ['d'] => some 86400
    | _ => none
  let value (cs : List Char) : Nat := (Arithmetic.digitsOf 10 cs).1
  if whole.isEmpty && fraction.isEmpty then (if s = "inf" ∨ s = "infinity" then some forever else none)
  else
    unit?.map fun unit => unit * (value whole * 1000 + value ((fraction ++ ['0', '0', '0']).take 3))

def sleep (name : String) (arguments : List String) : Action Nat :=
  withOptions name (.of "" [("help", "help"), ("version", "version")]) true 1 arguments fun _ durations => do
    let bad := durations.filter fun d => (milliseconds? d).isNone
    if durations.isEmpty then misuse name "missing operand" 1
    else if bad.isEmpty then
      modify fun m => { m with time := m.time + (durations.filterMap milliseconds?).sum }
      return 0
    else
      for d in bad do complain name ("invalid time interval " ++ Quotation.quoted d)
      hint name 1

/-- The signal that a name or a number stands for. -/
def signal? (s : String) : Option Nat :=
  let upper := String.ofList (s.toList.map Char.toUpper)
  Signal.decode? (if upper.startsWith "SIG" then (upper.drop 3).toString else upper) 0

/-- Runs a command for so long at most. -/
def runForTime (command : Starter) (name : String) (arguments : List String) : Action Nat :=
  withOptions name (.of "fk:s:v" [("foreground", "f"), ("kill-after=", "k"), ("signal=", "s"),
    ("preserve-status", "preserve"), ("verbose", "v"), ("help", "help"), ("version", "version")]) false 125 arguments
    fun given operands => do
      match operands with
      | [] | [_] => misuse name "missing operand" 125
      | duration :: call =>
        let after := value? given "k"
        let sent := (value? given "s").getD "TERM"
        match if after.any fun s => (milliseconds? s).isNone then none else milliseconds? duration, signal? sent with
        | none, _ =>
          let shown := (after.filter fun s => (milliseconds? s).isNone).getD duration
          misuse name ("invalid time interval " ++ Quotation.quoted shown) 125
        | _, none => misuse name (Quotation.quoted sent ++ ": invalid signal") 125
        | some limit, some signal =>
          let start := (← get).time
          let result ← observe (startOr command (fun e =>
            complain name ("failed to run command " ++ Quotation.quoted (call.headD "") ++ ": " ++ e.description)) call)
          let m ← get
          let status ←
            match result with
            | .ok status => pure status
            | .error stop => if limit ≠ 0 ∧ start + limit < m.time then pure 0 else throw stop
          if limit ≠ 0 ∧ start + limit < m.time then
            MonadState.set { m with
              time := start + limit
              output := m.output.filter fun w => w.time ≤ start + limit
              errors := m.errors.filter fun w => w.time ≤ start + limit }
            if has given "v" then
              complain name ("sending signal " ++ Signal.name signal ++ " to command " ++
                Quotation.quoted (call.headD ""))
            return if signal = 9 then 137 else if has given "preserve" then 128 + signal else 124
          else return status

/-! ## Arguments from standard input -/

namespace Gathering

/-- Why arguments cannot be read. -/
inductive Fault
  | quote (q : Char)

/-- The arguments of each line, with whether a blank stands at the line's end. A fault ends them. -/
structure Lines where
  /-- The lines, the last one first. -/
  done : List (List String × Bool)
  fault? : Option Char

/-- Reads arguments between blanks; quotes and backslashes keep what would divide them. `isWhole` says that only
lines are divided. -/
def read (isWhole : Bool) : (fuel : Nat) → (words : List String) → (word : Option (List Char)) →
    (quote : Option Char) → (previous : Char) → List (List String × Bool) → List Char → Lines
  | 0, _, _, _, _, done, _ => ⟨done, none⟩
  | fuel + 1, words, word, quote, previous, done, cs =>
    let ended (word : Option (List Char)) : List String := (word.map fun w => String.ofList w.reverse).toList
    let isBlank (c : Char) : Bool := c == ' ' || c == '\t'
    match cs with
    | [] =>
      match quote with
      | some q => ⟨done, some q⟩
      | none =>
        let words := words ++ ended word
        ⟨if words.isEmpty then done else (words, false) :: done, none⟩
    | c :: rest =>
      let more (d : Char) (rest : List Char) : Lines :=
        read isWhole fuel words (some (d :: word.getD [])) quote c done rest
      match quote with
      | some q =>
        if c = '\n' then ⟨if words.isEmpty then done else (words, false) :: done, some q⟩
        else if c = q then read isWhole fuel words (some (word.getD [])) none c done rest
        else more c rest
      | none =>
        if c = '\n' then
          let words := words ++ ended word
          read isWhole fuel [] none none c (if words.isEmpty then done else (words, isBlank previous) :: done) rest
        else if (isBlank c || c = '\x0b' || c = '\x0c' || c = '\r') && word.isNone then
          read isWhole fuel words none none c done rest
        else if isBlank c && !isWhole then read isWhole fuel (words ++ ended word) none none c done rest
        else if c = '\'' ∨ c = '"' then read isWhole fuel words (some (word.getD [])) (some c) c done rest
        else if c = '\\' then
          match rest with
          | d :: rest => more d rest
          | [] => read isWhole fuel words word none c done []
        else more c rest

/-- Lines with those joined that a blank at the end continues. -/
def continued : List (List String × Bool) → List (List String)
  | [] => []
  | (words, true) :: rest =>
    match continued rest with
    | next :: others => (words ++ next) :: others
    | [] => [words]
  | (words, false) :: rest => words :: continued rest

/-- The character that divides arguments, as an option writes it. -/
def delimiter? (s : String) : Option Char :=
  match s.toList with
  | [c] => some c
  | '\\' :: rest =>
    match Format.escape rest with
    | (c, []) => some c
    | _ =>
      match rest with
      | 'x' :: ds => if !ds.isEmpty && ds.all (fun c => Arithmetic.digitValue c < 16) then some (Char.ofNat (Arithmetic.digitsOf 16 ds).1) else none
      | _ => none
  | _ => none

/-- The arguments between characters. -/
def between (d : Char) (cs : List Char) : List String :=
  (bareLines d cs).map String.ofList

/-- The calls for arguments: so many of them in each, and so many characters at most. -/
def portions (count : Option Nat) (most : Nat) (initial : Nat) : (fuel : Nat) → List String → List (List String)
  | 0, _ => []
  | _ + 1, [] => []
  | fuel + 1, a :: rest =>
    let rec fitting : (used count : Nat) → List String → Nat
      | _, 0, _ => 0
      | _, _, [] => 0
      | used, count + 1, a :: rest =>
        let used := used + a.utf8ByteSize + 1
        if used ≤ most then 1 + fitting used count rest else 0
    let n := max 1 (fitting initial (count.getD (rest.length + 1)) (a :: rest))
    (a :: rest).take n :: portions count most initial fuel ((a :: rest).drop n)

end Gathering

def gatheringOptions : Options.Table :=
  .of "0a:E:e::i::I:l::L:n:prs:txP:d:o" [("null", "0"), ("arg-file=", "a"), ("delimiter=", "d"), ("eof?", "e"),
    ("replace?", "i"), ("max-lines?", "l"), ("max-args=", "n"), ("open-tty", "o"), ("interactive", "p"),
    ("no-run-if-empty", "r"), ("max-chars=", "s"), ("verbose", "t"), ("show-limits", "show"), ("exit", "x"),
    ("max-procs=", "P"), ("process-slot-var=", "slot"), ("version", "version"), ("help", "help")]

/-- Runs a command for the arguments that are read: all of them at once, so many of them at a time, those of so
many lines, or each in the place of a mark. -/
def runWithInput (command : Starter) (name : String) (arguments : List String) : Action Nat :=
  withOptions name gatheringOptions false 1 arguments fun given call => do
    let call := if call.isEmpty then ["echo"] else call
    let source := value? given "a"
    let found ← match source with
      | some file => readFile file
      | none => readInput
    let numberFault (option : String) (least : Nat) : Option String :=
      (value? given option).bind fun s =>
        match natural? s.toList with
        | some n => if n < least then some ("value " ++ s ++ " for -" ++ option ++ " option should be >= " ++ toString least) else none
        | none => some ("invalid number \"" ++ s ++ "\" for -" ++ option ++ " option")
    match numberFault "n" 1, numberFault "L" 1, found with
    | some e, _, _ | none, some e, _ => giveUp name e 1
    | none, none, .error (.opening e) =>
      giveUp name ("Cannot open input file " ++ Quotation.quoted (source.getD "") ++ ": " ++ e.description) 1
    | none, none, found =>
      let cs := (found.toOption.map charactersOf).getD []
      let mode := last? given ["I", "i", "L", "l", "n"]
      let mark :=
        match mode with
        | some ⟨"I", v, _⟩ => v
        | some ⟨"i", v, _⟩ => some (v.getD "\x7b\x7d")
        | _ => none
      let lineCount : Option Nat :=
        match mode with
        | some ⟨"L", v, _⟩ | some ⟨"l", v, _⟩ => some (((v.getD "1").toNat?).getD 1)
        | _ => none
      let count : Option Nat :=
        match mode with
        | some ⟨"n", some v, _⟩ => v.toNat?
        | _ => none
      let divider :=
        match last? given ["0", "d"] with
        | some ⟨"d", some v, _⟩ => Gathering.delimiter? v
        | some _ => some '\x00'
        | none => none
      let (lines, fault?) : List (List String) × Option Char :=
        match divider with
        | some d => ((Gathering.between d cs).map fun w => [w], none)
        | none =>
          let r := Gathering.read mark.isSome (2 * cs.length + 2) [] none none '\n' [] cs
          (Gathering.continued r.done.reverse, r.fault?)
      let ending := value? given "E" |>.or (value? given "e")
      let lines :=
        match ending with
        | some e =>
          if e.isEmpty then lines
          else
            let kept := lines.takeWhile fun l => !l.contains e
            kept ++ (((lines.drop kept.length).head?.map fun l => l.takeWhile (· ≠ e)).filter (!List.isEmpty ·)).toList
        | none => lines
      let initial := (call.map fun w => w.utf8ByteSize + 1).sum
      let most := ((value? given "s").bind String.toNat?).getD 131072
      let calls : List (List String) :=
        match mark, lineCount with
        | some mark, _ =>
          lines.map fun l => call.map fun w => (" ".intercalate l).intercalate (w.splitOn mark)
        | none, some n => (chunks n lines).map fun ls => call ++ ls.flatten
        | none, none =>
          let words := lines.flatten
          if words.isEmpty then (if has given "r" || fault?.isSome then [] else [call])
          else (Gathering.portions count most initial (words.length + 1) words).map (call ++ ·)
      let calls := if lines.isEmpty && lineCount.isSome && !(has given "r") && fault?.isNone then [call] else calls
      let mut status := 0
      let mut isGoing := true
      for call in calls do
        if isGoing then
          if has given "t" || has given "p" then
            say (" ".intercalate (call.map Quotation.forShell) ++ (if has given "p" then "?..." else "\n"))
          if !has given "p" then
            let m ← get
            if source.isNone then
              let (m', number) := m.withFile (OpenFile.ofContent Bytes.empty)
              set (m'.point 0 (some number))
            let r ← command call
            modify fun after => { after with descriptors := m.descriptors }
            match r with
            | .ok 0 => pure ()
            | .ok 255 =>
              complain name (call.headD "" ++ ": exited with status 255; aborting")
              status := 124
              isGoing := false
            | .ok s =>
              if 128 < s && s < 160 then
                complain name (call.headD "" ++ ": terminated by signal " ++ toString (s - 128))
                status := 125
                isGoing := false
              else status := 123
            | .error e =>
              complain name (call.headD "" ++ ": " ++ e.description)
              status := unstarted e
              isGoing := false
      if isGoing then
        if let some q := fault? then
          complain name ("unmatched " ++ (if q = '"' then "double" else "single") ++
            " quote; by default quotes are special to xargs unless you use the -0 option")
          return 1
      return status

/-! ## Texts over and over -/

/-- The text that is written over and over. -/
def repeated (s : String) : Bytes :=
  Bytes.concat (List.replicate 4096 (toBytes (s ++ "\n").toList))

def repeatText (name : String) (arguments : List String) : Action Nat :=
  withOptions name (.of "" [("help", "help"), ("version", "version")]) false 1 arguments fun _ words => do
    let s := if words.isEmpty then "y" else " ".intercalate words
    let b := repeated s
    for _ in [0:64] do
      let _ ← put b
    throw .ended

end Utility

end AddonAtlas.Shell
