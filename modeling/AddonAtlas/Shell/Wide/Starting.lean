import AddonAtlas.Shell.Wide.Builtin

/-!
# How a shell of the wide dialect starts

The arguments with which a shell of the wide dialect is started, and the variables that it has from the start.
-/

namespace AddonAtlas.Shell.Wide

open Shell.Action

/-- What a shell is started to do. -/
inductive Start
  /-- A text was asked for, or the arguments were not understood. -/
  | told (text : String) (status : Nat)
  /-- A text is to be run, with a name and arguments. -/
  | text (script : String) (arguments : List String)
  /-- The script is on standard input. -/
  | input (arguments : List String)
  | file (path : String) (arguments : List String)

def versionNumber : String :=
  "5.2.15(1)-release"

def machineName : String :=
  "x86_64-pc-linux-gnu"

/-- How the shell is used. -/
def usage : String :=
  "Usage:\tbash [GNU long option] [option] ...\n\tbash [GNU long option] [option] script-file ...\n" ++
  "GNU long options:\n" ++
  String.join (["debug", "debugger", "dump-po-strings", "dump-strings", "help", "init-file", "login",
    "noediting", "noprofile", "norc", "posix", "pretty-print", "rcfile", "restricted", "verbose",
    "version"].map fun o => "\t--" ++ o ++ "\n") ++
  "Shell options:\n\t-ilrsD or -c command or -O shopt_option\t\t(invocation only)\n" ++
  "\t-abefhkmnptuvxBCEHPT or -o option\n"

/-- The help on the shell. -/
def help : String :=
  "GNU bash, version " ++ versionNumber ++ "-(" ++ machineName ++ ")\n" ++ usage

/-- Names of variables that the shell has set itself. -/
def startVariables (known : List (String × Variable)) : List (String × Variable) :=
  let plain (s : String) : Variable := Variable.of (some s) false false
  let number (s : String) : Variable := { Variable.of (some s) false true with traits := ['i'] }
  let level := ((known.find? fun v => v.1 = "SHLVL").bind fun v => v.2.value.bind String.toNat?).getD 0
  let own : List (String × Variable) :=
    [("BASH", plain "/bin/bash"), ("BASH_VERSION", plain versionNumber),
      ("BASH_VERSINFO", { Variable.of none false true with
        elements := some (Elements.ofValues ["5", "2", "15", "1", "release", machineName]) }),
      ("EUID", number "0"), ("UID", number "0"), ("HOSTTYPE", plain "x86_64"), ("MACHTYPE", plain machineName),
      ("OSTYPE", plain "linux-gnu"), ("OPTERR", plain "1"), ("OPTIND", plain "1"),
      ("PPID", number "1"), ("SHLVL", Variable.of (some (toString (level + 1))) true false),
      ("SHELLOPTS", { plain "braceexpand:hashall:interactive-comments" with isFixed := true })]
  let isKept (name : String) : Bool :=
    !(own.any fun o => o.1 = name) && !(["PS1", "PS2"].contains name)
  own ++ known.filter fun v => isKept v.1 || v.2.isFixed

/-- What the arguments ask for, behind long options. -/
def startFrom : (fuel : Nat) → (hasText readsInput : Bool) → List String → Action Start
  | 0, _, _, _ => return .told "" 0
  | fuel + 1, hasText, readsInput, arguments => do
    let finish (arguments : List String) : Action Start := do
      if hasText then
        match arguments with
        | [] =>
          say ((← get).name ++ ": -c: option requires an argument\n")
          return .told "" 2
        | script :: rest => return .text script rest
      else
        match readsInput, arguments with
        | false, path :: rest => return .file path rest
        | _, arguments => return .input arguments
    match arguments with
    | [] => finish []
    | a :: rest =>
      match a.toList with
      | ['-'] | ['-', '-'] => finish rest
      | sign :: c :: letters =>
        if sign ≠ '-' && sign ≠ '+' then finish arguments
        else
          let on := sign = '-'
          let mut text := hasText
          let mut input := readsInput
          let mut rest := rest
          for l in c :: letters do
            if l = 'c' then text := true
            else if l = 's' then input := true
            else if l = 'o' || l = 'O' then
              match rest with
              | [] =>
                let m ← get
                let shown :=
                  if l = 'o' then optionList m (!on)
                  else String.join (choiceNames.map fun c =>
                    if on then optionLine c.1 (m.hasChoice c.1)
                    else "shopt " ++ (if m.hasChoice c.1 then "-s " else "-u ") ++ c.1 ++ "\n")
                return .told shown 0
              | name :: after =>
                rest := after
                if l = 'o' then
                  if !(← switchNamed name on) then
                    let m ← get
                    say (m.name ++ ": line 0: " ++ m.name ++ ": " ++ name ++ ": invalid option name\n")
                    return .told "" 2
                else if choiceNames.any fun c => c.1 = name then switchChoice name on
                else
                  say ((← get).name ++ ": line 0: " ++ name ++ ": invalid shell option name\n")
                  return .told "" 2
            else if "abefhkmnptuvxBCEHPT".toList.contains l then switchLetter l on
            else if !("ilrD".toList.contains l) then
              say ((← get).name ++ ": " ++ String.ofList [sign, l] ++ ": invalid option\n" ++ usage)
              return .told "" 2
          startFrom fuel text input rest
      | _ => finish arguments

/-- What the arguments ask for. -/
def startAt : (fuel : Nat) → List String → Action Start
  | 0, _ => return .told "" 0
  | fuel + 1, arguments => do
    match arguments with
    | [] => startFrom 1 false false []
    | a :: rest =>
      let name := if a.startsWith "--" then (a.drop 2).toString else ""
      if name = "help" then return .told help 0
      else if name = "version" then
        return .told ("GNU bash, version " ++ versionNumber ++ " (" ++ machineName ++ ")\n") 0
      else if name = "rcfile" || name = "init-file" then
        match rest with
        | [] =>
          say ((← get).name ++ ": --" ++ name ++ ": option requires an argument\n")
          return .told "" 2
        | _ :: rest => startAt fuel rest
      else if ["debug", "debugger", "dump-po-strings", "dump-strings", "login", "noediting", "noprofile", "norc",
          "posix", "pretty-print", "restricted"].contains name then startAt fuel rest
      else if name = "verbose" then
        switchLetter 'v' true
        startAt fuel rest
      else if !name.isEmpty then
        say ((← get).name ++ ": " ++ a ++ ": invalid option\n" ++ usage)
        return .told "" 2
      else startFrom (arguments.length + 1) false false arguments

/-- What the arguments of a shell ask for. -/
def start (arguments : List String) : Action Start :=
  startAt (arguments.length + 1) arguments

end AddonAtlas.Shell.Wide
