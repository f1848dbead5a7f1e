import AddonAtlas.Shell.Utility.Files
import AddonAtlas.Shell.Utility.Starting

/-!
# Programs that start others in another manner

Buffers, sessions, precedences, processors and locks make no difference to what a command writes here; only
the options of these programs do, and how they tell that a command cannot be started.
-/

namespace AddonAtlas.Shell

namespace Utility

open Shell.Action

/-- Whether a text is a number and nothing else. -/
def isWhole (s : String) : Bool :=
  let cs := s.toList
  let cs := if cs.head? = some '-' ∨ cs.head? = some '+' then cs.drop 1 else cs
  !cs.isEmpty && cs.all isDigit

/-- Runs a command, or complains in few words that it cannot be started. -/
def execute (command : Starter) (name : String) (call : List String) : Action Nat :=
  startOr command (fun e => complain name ("failed to execute " ++ call.headD "" ++ ": " ++ e.description)) call

/-- Runs a command with other buffers. -/
def runBuffered (command : Starter) (name : String) (arguments : List String) : Action Nat :=
  withOptions name (.of "i:o:e:" [("input=", "i"), ("output=", "o"), ("error=", "e"), ("help", "help"),
    ("version", "version")]) false 125 arguments fun given call => do
      let isMode (s : String) : Bool := s = "L" || (amount? s.toList).isSome
      match given.find? fun g => !isMode (g.value.getD ""), given.find? fun g => g.option = "i" ∧ g.value = some "L" with
      | _, some _ => misuse name "line buffering stdin is meaningless" 125
      | some g, none => giveUp name ("invalid mode " ++ Quotation.quoted (g.value.getD "")) 125
      | none, none =>
        if call.isEmpty then misuse name "missing operand" 125
        else if given.isEmpty then misuse name "you must specify a buffering mode option" 125
        else
          startOr command (fun e =>
            complain name ("failed to run command " ++ Quotation.quoted (call.headD "") ++ ": " ++ e.description)) call

/-- Runs a command in a session of its own. -/
def runInSession (command : Starter) (name : String) (arguments : List String) : Action Nat :=
  withOptions name (.of "Vhcfw" [("ctty", "c"), ("fork", "f"), ("wait", "w"), ("version", "V"), ("help", "h")]) false 1
    arguments fun given call => do
      if call.isEmpty then misuse name "no command specified" 1
      else if has given "c" then giveUp name "failed to set the controlling terminal: Inappropriate ioctl for device" 1
      else
        let status ← execute command name call
        return if has given "f" && !has given "w" then 0 else status

/-- Runs a command with another precedence for its reading and writing. -/
def runIdly (command : Starter) (name : String) (arguments : List String) : Action Nat :=
  withOptions name (.of "n:c:p:P:u:tVh" [("classdata=", "n"), ("class=", "c"), ("help", "h"), ("ignore", "t"),
    ("pid=", "p"), ("pgid=", "P"), ("uid=", "u"), ("version", "V")]) false 1 arguments fun given call => do
      let kind := value? given "c"
      let isKind (s : String) : Bool :=
        isWhole s || ["none", "realtime", "best-effort", "idle"].contains (String.ofList (s.toList.map Char.toLower))
      if kind.any fun s => !isKind s then
        giveUp name ("unknown scheduling class: '" ++ kind.getD "" ++ "'") 1
      else if (value? given "n").any fun s => !isWhole s then
        giveUp name ("invalid class data argument: '" ++ (value? given "n").getD "" ++ "'") 1
      else if call.isEmpty then finish name 1 "none: prio 0\n".toList 0
      else
        let isOdd := kind.any fun s => isWhole s && 3 < (natural? s.toList).getD 4
        if isOdd then
          complain name ("unknown prio class " ++ kind.getD "")
          if !has given "t" then return ← giveUp name "ioprio_set failed: Invalid argument" 1
        execute command name call

/-- Runs a command on some processors. -/
def runOnProcessors (command : Starter) (name : String) (arguments : List String) : Action Nat :=
  withOptions name (.of "apchV" [("all-tasks", "a"), ("pid", "p"), ("cpu-list", "c"), ("help", "h"),
    ("version", "V")]) false 1 arguments fun given operands => do
      match operands with
      | [] | [_] => misuse name "bad usage" 1
      | set_ :: call =>
        let cs := set_.toList
        let isSet :=
          if has given "c" then cs.all fun c => isDigit c || c == ',' || c == '-' || c == ':'
          else cs.all fun c => isDigit c || ('a' ≤ c && c ≤ 'f') || ('A' ≤ c && c ≤ 'F') || c == 'x' || c == ','
        if isSet then execute command name call
        else giveUp name ("failed to parse CPU " ++ (if has given "c" then "list" else "mask") ++ ": " ++ set_) 1

/-- Runs a command under another policy, which a number follows. -/
def runScheduled (command : Starter) (name : String) (arguments : List String) : Action Nat :=
  withOptions name (.of "abdD:fiphmoP:T:rRvV" [("batch", "b"), ("fifo", "f"), ("idle", "i"), ("other", "o"),
    ("rr", "r"), ("reset-on-fork", "R"), ("verbose", "v"), ("help", "h"), ("version", "V")]) false 1 arguments
    fun _ operands => do
      match operands with
      | [] | [_] => misuse name "bad usage" 1
      | n :: call =>
        if isWhole n then execute command name call
        else giveUp name ("invalid priority argument: '" ++ n ++ "'") 1

/-- Runs a command, the name of a machine perhaps in front of it. -/
def runOnMachine (command : Starter) (takesMachine : Bool) (name : String) (arguments : List String) : Action Nat :=
  withOptions name (.of "hVv3BFILRSTXZ" [("verbose", "v"), ("addr-no-randomize", "R"), ("help", "h"),
    ("version", "V")]) false 1 arguments fun given operands => do
      let isMachine (s : String) : Bool := ["x86_64", "linux64", "linux32", "i386", "i686", "uname26"].contains s
      let call := if takesMachine && operands.head?.any isMachine then operands.drop 1 else operands
      if takesMachine && given.isEmpty && call.length = operands.length then
        match operands with
        | [] => misuse name "not enough arguments" 1
        | m :: _ => giveUp name (m ++ ": Unrecognized architecture") 1
      else execute command name (if call.isEmpty then ["/bin/sh"] else call)

/-- Runs a command while a file is locked. -/
def runLocked (command : Starter) (name : String) (arguments : List String) : Action Nat := do
  let table := Options.Table.of "sexnoFuw:E:hVc" [("shared", "s"), ("exclusive", "x"), ("unlock", "u"), ("nonblocking", "n"),
    ("nb", "n"), ("timeout=", "w"), ("wait=", "w"), ("conflict-exit-code=", "E"), ("close", "o"), ("no-fork", "F"),
    ("verbose", "verbose"), ("help", "h"), ("version", "V")]
  let r := Options.read table false arguments
  let given := r.options
  let operands := r.operands
  match given.find? fun g => g.option = "E" ∧ !isWhole (g.value.getD ""),
      given.find? fun g => g.option = "w" ∧ (milliseconds? (g.value.getD "")).isNone with
  | some g, _ => giveUp name ("invalid exit code: '" ++ g.value.getD "" ++ "'") 64
  | none, some g => giveUp name ("invalid timeout value: '" ++ g.value.getD "" ++ "'") 64
  | none, none =>
      match r.fault? with
      | some fault => misuse name fault 1
      | none =>
        match operands with
        | [] => misuse name "not enough arguments" 64
        | [number] =>
          match natural? number.toList with
          | none => giveUp name ("bad file descriptor: '" ++ number ++ "'") 64
          | some n =>
            if ((← get).openFile? n).isSome then return 0
            else giveUp name (number ++ ": Bad file descriptor") 65
        | file :: call =>
          let line? :=
            match call with
            | [c, line] => if c = "-c" ∨ c = "--command" then some line else none
            | _ => none
          if line?.isNone && call.head?.any (fun c => c = "-c" ∨ c = "--command") then
            giveUp name (call.headD "" ++ " requires exactly one command argument") 64
          else
            let m ← get
            let fault ← if (m.find? file).isSome then pure none else writeText file []
            match fault with
            | some e => giveUp name ("cannot open lock file " ++ file ++ ": " ++ e.description) 66
            | none =>
              let call := (line?.map fun line => ["/bin/sh", "-c", line]).getD call
              match ← command call with
              | .ok status => return status
              | .error e =>
                giveUp name ("failed to execute " ++ call.headD "" ++ ": " ++ e.description)
                  (if e = .noEntry then 69 else 69)

end Utility

end AddonAtlas.Shell
