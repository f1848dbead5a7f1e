import AddonAtlas.Shell.Search
import AddonAtlas.Shell.Utility.Packing

/-!
# Looking lines up in files

A search writes what it finds as it goes. A search in packed files is a search in the content of one file after
the other, each under its own name; a file that is not packed stands for itself.
-/

namespace AddonAtlas.Shell

namespace Utility

open Shell.Action

/-- Writes what a search has come to; the status. -/
def report (name : String) (outcome : Search.Outcome) : Action Nat := do
  for w in outcome.writings do
    match w with
    | .message s => say s
    | .output b =>
      if !b.isEmpty then
        if let some e := ← put? b then
          complain name ("write error: " ++ e.description)
          return 2
  return outcome.status

/-- Searches files, or standard input, for lines. -/
def searchLines (name : String) (arguments : List String) : Action Nat := do
  let m ← get
  let input :=
    match inputFault? m with
    | none => .ok m.takeInput.2
    | some e => .error e.description
  let outcome := Search.run m name arguments input
  if let .ok rest := outcome.input then MonadState.set (m.takeInput.1.returnInput rest)
  report name outcome

/-! ## Packed files -/

/-- A search in packed files: what is handed on to the search in each, and what is told of the files. -/
structure PackedSearch where
  arguments : List String := []
  operands : List String := []
  hasPattern : Bool := false
  listsFiles : Bool := false
  listsOthers : Bool := false
  hidesNames : Bool := false
  showsNames : Bool := false

namespace PackedSearch

/-- The letters of options that nothing belongs to. -/
def bareLetters : List Char :=
  "0123456789EFGHIKLPRTUVZabchilnoqrsuvwxyz".toList

/-- The first option of several behind one hyphen, with the digits behind it, and an argument with the others. -/
def split? : List Char → Option (List Char × List Char)
  | '-' :: c :: rest =>
    if bareLetters.contains c && !rest.all isDigit then
      let digits := rest.takeWhile isDigit
      some ('-' :: c :: digits, '-' :: rest.drop digits.length)
    else none
  | _ => none

/-- Whether a text starts with one of some others. -/
def startsWithAny (s : String) (starts : List String) : Bool :=
  starts.any fun start => s.startsWith start

/-- Whether an option is long and has its value behind an equals sign. -/
def hasValue (option : String) : Bool :=
  startsWithAny option ["--binary-", "--la", "--ma", "--reg"] && option.toList.contains '='

/-- Whether the next argument belongs to an option. -/
def needsValue (option : String) : Bool :=
  (["-A", "-B", "-C", "-D", "-X", "-d", "-e", "-f", "-m", "--file"].contains option) ||
    startsWithAny option ["--binary-", "--la", "--ma", "--reg"]

/-- Whether an option is one of searches that cannot be had in packed files. -/
def isRefused (option : String) : Bool :=
  (["-d", "-r", "-R", "-z", "-Z"].contains option) ||
    startsWithAny option ["--di", "--exc", "--inc", "--rec", "--nu"]

/-- The explanation of the program of a name. -/
def help (name : String) : String :=
  "Usage: " ++ name ++ " [OPTION]... [-e] PATTERN [FILE]...\n" ++
    "Look for instances of PATTERN in the input FILEs, using their\n" ++
    "uncompressed contents if they are compressed.\n\n" ++
    "OPTIONs are the same as for 'grep', except that the following 'grep'\n" ++
    "options are not supported: --dereference-recursive (-R), --directories (-d),\n" ++
    "--exclude, --exclude-from, --exclude-dir, --include, --null (-Z),\n" ++
    "--null-data (-z), and --recursive (-r).\n\n" ++
    "Report bugs to <bug-gzip@gnu.org>.\n"

/-- Takes an option with the value that belongs to it. What is told instead of a search, with the status, if
there is anything. -/
def take (s : PackedSearch) (name option : String) (value : List String) :
    Except (Nat × Bool × String) PackedSearch :=
  let isStartOf (least full : String) : Bool := option.startsWith least && full.startsWith option
  if isRefused option then .error (2, true, name ++ ": " ++ option ++ ": option not supported\n")
  else if isStartOf "--h" "--help" then .error (0, false, help name)
  else if option = "-V" || isStartOf "--v" "--version" then .error (0, false, "zgrep (gzip) 1.12\n")
  else if option = "-H" || isStartOf "--wi" "--with-filename" then .ok { s with showsNames := true }
  else
    let s := { s with arguments := s.arguments ++ option :: value }
    if startsWithAny option ["-e", "--reg"] || option = "-f" || option = "--file" then
      .ok { s with hasPattern := true }
    else if option = "-l" || option.startsWith "--files-with-" then .ok { s with listsFiles := true }
    else if option = "-L" || option.startsWith "--files-witho" then .ok { s with listsOthers := true }
    else if option = "-h" || option.startsWith "--no-f" then .ok { s with hidesNames := true }
    else .ok s

/-- Reads arguments. There are no more than `fuel` options among them. -/
def read (name : String) : (fuel : Nat) → PackedSearch → List String → Except (Nat × Bool × String) PackedSearch
  | 0, s, rest => .ok { s with operands := s.operands ++ rest }
  | _ + 1, s, [] => .ok s
  | fuel + 1, s, argument :: rest =>
    match split? argument.toList with
    | some (option, others) => do
      read name fuel (← s.take name (String.ofList option) []) (String.ofList others :: rest)
    | none =>
      if argument = "--" then .ok { s with operands := s.operands ++ rest }
      else if hasValue argument then do read name fuel (← s.take name argument []) rest
      else if needsValue argument then
        match rest with
        | value :: rest => do read name fuel (← s.take name argument [value]) rest
        | [] => .error (2, true, name ++ ": 75: 1: " ++ argument ++ " option requires an argument\n")
      else if argument.startsWith "-f" then do
        read name fuel (← s.take name "-f" [(argument.drop 2).toString]) rest
      else if argument.startsWith "--file=" then do
        read name fuel (← s.take name "--file" [(argument.drop 7).toString]) rest
      else if argument.startsWith "-" && argument ≠ "-" then do read name fuel (← s.take name argument []) rest
      else read name fuel { s with operands := s.operands ++ [argument] } rest

/-- The content of a file, and the status of reading it. -/
def contentOf (file : String) : Action (Bytes × Nat) := do
  let m ← get
  let packed := file ++ ".gz"
  let source := if file ≠ "-" && (m.find? file).isNone && (m.find? packed).isSome then packed else file
  match ← Utility.read source with
  | .ok b => return (Bytes.ofList (Packing.content b.toList), 0)
  | .error (.reading _) => return (Bytes.empty, 0)
  | .error (.opening e) =>
    let isPacked := Packing.suffixes.any fun e => file.endsWith e
    complain "gzip" (file ++ (if e = .noEntry && !isPacked then ".gz" else "") ++ ": " ++ e.description)
    return (Bytes.empty, 2)

/-- Searches one file; the status. -/
def searchFile (s : PackedSearch) (arguments : List String) (file : String) : Action Nat := do
  let (content, readStatus) ← contentOf file
  let label := if file = "-" || s.listsFiles || s.listsOthers then [] else ["--label", file]
  let outcome := Search.run (← get) "grep" (label ++ arguments) (.ok content)
  let silent : Search.Outcome :=
    { outcome with writings := outcome.writings.filter fun w => match w with | .message _ => true | _ => false }
  let status ←
    if s.listsFiles then do
      let _ ← report "grep" silent
      if outcome.status = 0 then finish "printf" 2 (file.toList ++ ['\n']) 0 else pure outcome.status
    else if s.listsOthers then do
      let _ ← report "grep" silent
      if outcome.status = 1 then finish "printf" 2 (file.toList ++ ['\n']) 1 else pure outcome.status
    else report "grep" outcome
  return max status readStatus

end PackedSearch

/-- Searches files for lines, be they packed or not. That something was found outweighs that nothing was. -/
def searchPacked (front : List String) (name : String) (arguments : List String) : Action Nat := do
  let arguments := front ++ arguments
  let size := (arguments.map fun a => a.length + 1).foldl (· + ·) 1
  match PackedSearch.read name size {} arguments with
  | .error (status, isComplaint, text) =>
    if isComplaint then
      say text
      return status
    else finish name 2 text.toList status
  | .ok s =>
    match (if s.hasPattern then some ([], s.operands) else s.operands.head?.map fun p => (["--", p], s.operands.drop 1)) with
    | none =>
      say (name ++ ": 188: 1: missing pattern; try " ++ String.singleton (Char.ofNat 96) ++ name ++
        " --help' for help\n")
      return 2
    | some (pattern, files) =>
      let showsNames := s.showsNames || (files.length > 1 && !s.hidesNames)
      let inner := (if showsNames then ["-H"] else []) ++ s.arguments ++ pattern
      let mut result := 1
      for file in if files.isEmpty then ["-"] else files do
        let status ← s.searchFile inner file
        result := if max status result ≤ 1 then min status result else max status result
      return result

end Utility

end AddonAtlas.Shell
