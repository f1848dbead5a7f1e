import AddonAtlas.Shell.Utility.Files

/-!
# Programs that tell who and where one is

There is one user, the one who may do everything, on a machine without a terminal. What is asked of programs
is told by where they are found.
-/

namespace AddonAtlas.Shell

namespace Utility

open Shell.Action

/-- The options that ask for help and for the version, and nothing else. -/
def noOptions : Options.Table :=
  .of "" [("help", "help"), ("version", "version")]

/-- Writes a line, if nothing is given but the options of every program. -/
def tellOnly (name text : String) (arguments : List String) : Action Nat :=
  withOptions name noOptions true 1 arguments fun _ operands =>
    match operands with
    | [] => finish name 1 (text ++ "\n").toList 0
    | extra :: _ => misuse name ("extra operand " ++ Quotation.quoted extra) 1

/-- The users that are known, with their groups and the numbers of both. -/
def users : List (String × Nat × String × Nat) :=
  [("root", 0, "root", 0), ("daemon", 1, "daemon", 1), ("bin", 2, "bin", 2), ("sys", 3, "sys", 3),
    ("www-data", 33, "www-data", 33), ("nobody", 65534, "nogroup", 65534)]

/-- Tells the numbers and names of a user and of the groups. -/
def identify (name : String) (arguments : List String) : Action Nat :=
  withOptions name (.of "aZgGnruz" [("context", "Z"), ("group", "g"), ("groups", "G"), ("name", "n"), ("real", "r"),
    ("user", "u"), ("zero", "z"), ("help", "help"), ("version", "version")]) true 1 arguments fun given asked => do
      let kinds := ["u", "g", "G", "Z"].filter (has given)
      let isPlain := kinds.isEmpty
      if has given "Z" then giveUp name "--context (-Z) works only on an SELinux-enabled kernel" 1
      else if 1 < kinds.length then giveUp name "cannot print \"only\" of more than one choice" 1
      else if isPlain && (has given "r" || has given "n") then
        giveUp name "cannot print only names or real IDs in default format" 1
      else if isPlain && has given "z" then giveUp name "option --zero not permitted in default format" 1
      else
        let ending := if has given "z" then "\x00" else "\n"
        let mut text := ""
        let mut status := 0
        for one in if asked.isEmpty then ["root"] else asked do
          match users.find? fun u => u.1 = one ∨ toString u.2.1 = one with
          | none =>
            complain name (Quotation.quoted one ++ ": no such user")
            status := 1
          | some (user, number, group, groupNumber) =>
            let shown :=
              if isPlain then
                let both := toString groupNumber ++ "(" ++ group ++ ")"
                "uid=" ++ toString number ++ "(" ++ user ++ ") gid=" ++ both ++ " groups=" ++ both
              else if has given "u" then (if has given "n" then user else toString number)
              else if has given "n" then group
              else toString groupNumber
            text := text ++ shown ++ ending
        finish name 1 text.toList status

/-- Tells the groups of users. -/
def tellGroups (name : String) (arguments : List String) : Action Nat :=
  withOptions name noOptions true 1 arguments fun _ asked => do
    if asked.isEmpty then finish name 1 "root\n".toList 0
    else
      let mut text := ""
      let mut status := 0
      for one in asked do
        match users.find? fun u => u.1 = one with
        | none =>
          complain name (Quotation.quoted one ++ ": no such user")
          status := 1
        | some (_, _, group, _) => text := text ++ one ++ " : " ++ group ++ "\n"
      finish name 1 text.toList status

/-- Tells of the system. -/
def describeSystem (name : String) (arguments : List String) : Action Nat :=
  withOptions name (.of "asnrvmpio" [("all", "a"), ("kernel-name", "s"), ("nodename", "n"), ("kernel-release", "r"),
    ("kernel-version", "v"), ("machine", "m"), ("processor", "p"), ("hardware-platform", "i"),
    ("operating-system", "o"), ("help", "help"), ("version", "version")]) true 1 arguments fun given operands =>
      match operands with
      | extra :: _ => misuse name ("extra operand " ++ Quotation.quoted extra) 1
      | [] =>
        let parts := [("s", "Linux"), ("n", "localhost"), ("r", "6.1.0"), ("v", "#1 SMP"), ("m", "x86_64"),
          ("p", "unknown"), ("i", "unknown"), ("o", "GNU/Linux")]
        let all := has given "a"
        let shown := parts.filter fun p =>
          if all then p.2 ≠ "unknown" else has given p.1 || (given.isEmpty && p.1 = "s")
        finish name 1 (" ".intercalate (shown.map (·.2)) ++ "\n").toList 0

/-- Tells that there is no terminal. -/
def tellTerminal (name : String) (arguments : List String) : Action Nat :=
  withOptions name (.of "s" [("silent", "s"), ("quiet", "s"), ("help", "help"), ("version", "version")]) true 2
    arguments fun given operands =>
      match operands with
      | extra :: _ => misuse name ("extra operand " ++ Quotation.quoted extra) 2
      | [] => if has given "s" then return 1 else finish name 3 "not a tty\n".toList 1

/-- Tells how many processors there are. -/
def countProcessors (name : String) (arguments : List String) : Action Nat :=
  withOptions name (.of "" [("all", "all"), ("ignore=", "ignore"), ("help", "help"), ("version", "version")]) true 1
    arguments fun given operands =>
      match operands, (value? given "ignore").filter fun s => (natural? s.toList).isNone with
      | _, some bad => giveUp name ("invalid number: " ++ Quotation.quoted bad) 1
      | extra :: _, none => misuse name ("extra operand " ++ Quotation.quoted extra) 1
      | [], none =>
        let left := 4 - ((value? given "ignore").bind fun s => natural? s.toList).getD 0
        finish name 1 (toString (max 1 left) ++ "\n").toList 0

/-- Tells where programs are found. The program goes by its path. -/
def tellPlaces (name : String) (arguments : List String) : Action Nat := do
  let options := arguments.takeWhile fun a => a.startsWith "-" && a ≠ "-" && a ≠ "--"
  let rest := arguments.drop options.length
  let asked := if rest.head? = some "--" then rest.drop 1 else rest
  match (options.flatMap fun a => a.toList.drop 1).find? fun c => !(['a', 's'].contains c) with
  | some c =>
    say ("Illegal option -" ++ String.singleton c ++ "\n")
    finish name 2 ("Usage: " ++ name ++ " [-as] args\n").toList 2
  | none =>
    let has (c : Char) : Bool := options.any fun a => a.toList.contains c
    let m ← get
    let mut status := if asked.isEmpty then 1 else 0
    let mut text := ""
    for one in asked do
      let isProgram (path : String) : Bool := (m.find? path).any fun f => f.isFile && f.isExecutable
      let paths :=
        if one.toList.contains '/' then [one]
        else (directories m).map fun d => (if d.isEmpty then "." else d) ++ "/" ++ one
      let found := paths.filter isProgram
      let found := if has 'a' then found else found.take 1
      if found.isEmpty then status := 1
      if !has 's' then text := text ++ String.join (found.map (· ++ "\n"))
    finish name 1 text.toList status

end Utility

end AddonAtlas.Shell
