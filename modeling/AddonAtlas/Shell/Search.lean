import AddonAtlas.Shell.Condition
import AddonAtlas.Shell.Search.Help
import AddonAtlas.Shell.Search.Report
import AddonAtlas.TreeSearch

/-!
# Searching for lines

The program that searches files, directories and standard input for lines. Files are searched one after the
other as they are given; directories are entered if that is asked for. The status is 0 if lines were
selected, 1 if none were, and 2 if anything went wrong.
-/

namespace AddonAtlas.Shell.Search

/-- Something written, to standard output or to standard error. -/
inductive Writing
  | output (b : Bytes)
  | message (s : String)

/-- What a search is run with. -/
structure Scope where
  machine : Machine
  /-- The name by which the program was called. -/
  program : String
  settings : Settings
  target : Target
  /-- The rules for names of files, and for those of directories, the last first: a pattern, and whether it is
  for what is searched. -/
  fileRules : List (List Char × Bool)
  directoryRules : List (List Char × Bool)
  /-- Names of files in the working directory are shown without it. -/
  isUnrooted : Bool

/-- How far a search has come. -/
structure State where
  /-- What was written, the last first. -/
  writings : List Writing
  hasFault : Bool
  hasSelected : Bool
  /-- Whether reports name the file; not known before the first file. -/
  names : Option Bool
  /-- Whether any line was selected. -/
  isUsed : Bool
  /-- What is left of standard input, or why it cannot be read. -/
  input : Except String Bytes
  isOver : Bool

abbrev Searching := ReaderT Scope (StateM State)

/-! ## Names -/

/-- The ends of a name behind its slashes, and the name. -/
def endings (name : List Char) : List (List Char) :=
  match name with
  | [] => [[]]
  | c :: rest =>
    let found := endings rest
    match found with
    | _ :: others => if c = '/' then (c :: rest) :: rest :: others else (c :: rest) :: others
    | [] => [c :: rest]

/-- Whether a name is one that is not searched. Of several rules the last one that fits counts; if none does,
what the first rule is not for. `isGiven` says that a rule may fit a part behind a slash. -/
def isExcluded (rules : List (List Char × Bool)) (isGiven : Bool) (name : List Char) : Bool :=
  let names := if isGiven then endings name else [name]
  match rules.find? fun r => names.any fun n => Shell.Pattern.isMatch r.1 n with
  | some (_, isIncluded) => !isIncluded
  | none => (rules.getLast?.map (·.2)).getD false

namespace Searching

def write (w : Writing) : Searching Unit :=
  modify fun s => { s with writings := w :: s.writings }

/-- Tells of what went wrong. -/
def complain (message : String) : Searching Unit := do
  write (.message ((← read).program ++ ": " ++ message ++ "\n"))

/-- Tells of a file that cannot be read, unless that is hidden. -/
def refuse (name reason : String) : Searching Unit := do
  if !(← read).settings.hidesFaults then complain (name ++ ": " ++ reason)
  modify fun s => { s with hasFault := true }

/-- How the reports on a file are shown; `size` is that of the file. -/
def frame (name : String) (size : Nat) : Searching Frame := do
  let scope ← read
  let s := scope.settings
  let title := if (← get).names.getD false then some (toBytes name.toList) else none
  let width := if s.isAligned then (toString (size + if s.numbers then 1 else 0)).length else 0
  return ⟨s, scope.target, title, width⟩

/-- Reports on a whole file, in which so many lines were selected. -/
def conclude (f : Frame) (name : String) (selected : Nat) : Searching Unit := do
  let s := f.settings
  if s.counts && !s.isBrief then
    write (.output (Bytes.concat (f.heading ':' ++ [Bytes.ofString (toString selected ++ "\n")])))
  let isSelected := 0 < selected
  if !s.isQuiet && s.listing = (if isSelected then .selected else .others) then
    let ending := if s.endsNames then 0 else Bytes.newline
    write (.output (Bytes.concat (coloured s.isColoured "35" (toBytes name.toList) ++ [Bytes.ofList [ending]])))
  modify fun t =>
    { t with hasSelected := t.hasSelected || isSelected, isOver := t.isOver || (s.isQuiet && isSelected) }

/-- Searches a content, and reports on it. Answers what is left behind the last line that may be selected, if
the search ends there. -/
def searchContent (name : String) (size : Nat) (b : Bytes) : Searching Bytes := do
  let f ← frame name size
  let s := f.settings
  let r := searchFile f (← get).isUsed b
  let p := r.progress
  modify fun s => { s with isUsed := p.isUsed }
  write (.output (Bytes.concat p.written.reverse))
  if s.binary = .told && !(s.isBrief || s.counts) && r.beforeNul.any (· < p.selected) then
    complain (name ++ ": binary file matches")
  conclude f name p.selected
  return if p.isFull s then b.drop p.selectedEnd else Bytes.empty

/-- Reports on what can be opened, but not read. -/
def searchNothing (name reason : String) : Searching Unit := do
  refuse name reason
  conclude (← frame name 0) name 0

/-- Whether a file is the one that standard output goes to, which would be read while it is written. -/
def isOutput (place : Location) : Searching Bool := do
  let scope ← read
  let s := scope.settings
  return !s.isBrief && !s.counts && s.limit.all (1 < ·) &&
    match (scope.machine.openFile? 1).bind (·.sink) with
    | some (.file target _) => target = place
    | _ => false

/-- Searches the file at a place. -/
def searchPlace (name : String) (place : Location) (content : Bytes) : Searching Unit := do
  if ← isOutput place then
    if !(← read).settings.hidesFaults then complain (name ++ ": input file is also the output")
    modify fun s => { s with hasFault := true }
  else
    modify fun s => { s with names := s.names.or (some false) }
    let _ ← searchContent name content.size content

/-- The name under which a file is shown. -/
def shownName (path : String) : Searching String := do
  return if (← read).isUnrooted && path.startsWith "./" then (path.drop 2).toString else path

/-- Searches what a name in a directory stands for, in all depth. `above` has the directories around it. -/
def searchBelow : (depth : Nat) → (above : List Location) → (path : String) → Location → Searching Unit
  | 0, _, _, _ => return
  | depth + 1, above, path, here => do
    let scope ← read
    let t := scope.machine.tree
    for name in t.children here do
      if (← get).isOver then return
      let path := TreeSearch.withSlash path ++ encode name
      let skips (isDirectory : Bool) : Bool :=
        isExcluded (if isDirectory then scope.directoryRules else scope.fileRules) false (encode name).toList
      let entry :=
        if scope.settings.followsLinks then t.resolveIn here name
        else
          match t.find? (here ++ [name]) with
          | some e => .ok (here ++ [name], e)
          | none => .error .noEntry
      match entry with
      | .ok (place, .directory) =>
        if !skips true then
          if place ∈ here :: above then
            if !scope.settings.hidesFaults then
              complain ((← shownName path) ++ ": warning: recursive directory loop")
          else searchBelow depth (here :: above) path place
      | .ok (place, .file content _) => if !skips false then searchPlace (← shownName path) place content
      | .ok (_, .link _) => pure ()
      | .error e => if !skips false then refuse (← shownName path) e.description

/-- Searches what was given by a name. -/
def searchGiven (name : String) : Searching Unit := do
  let scope ← read
  let s := scope.settings
  let m := scope.machine
  if name = "-" then
    modify fun s => { s with names := s.names.or (some false) }
    match (← get).input with
    | .ok b =>
      let rest ← searchContent s.label Settings.greatest b
      modify fun t => { t with input := .ok (if m.isInputSeekable then rest else Bytes.empty) }
    | .error reason => searchNothing s.label reason
  else
    match m.tree.resolve (decode name) m.here with
    | .error e => refuse name e.description
    | .ok (place, .directory) =>
      if s.directories ≠ .passedOver &&
          (scope.isUnrooted || !isExcluded scope.directoryRules true name.toList) then
        modify fun s => { s with names := s.names.or (some true) }
        if s.directories = .entered then
          searchBelow (m.tree.entries.length + 2) [] (TreeSearch.trimSlashes name) place
        else searchNothing name Errno.isDirectory.description
    | .ok (place, .file content _) =>
      let isDevice := match place with
        | ["/", "dev", _] => true
        | _ => false
      if !(isDevice && s.skipsDevices) && !isExcluded scope.fileRules true name.toList then
        searchPlace name place content
    | .ok (_, .link _) => pure ()

end Searching

/-! ## The program -/

/-- What a search has come to. -/
structure Outcome where
  writings : List Writing
  status : Nat
  input : Except String Bytes

/-- The content of a file that an option names. -/
def contentOf (m : Machine) (input : Except String Bytes) (name : String) :
    Except String (Bytes × Except String Bytes) :=
  if name = "-" then
    match input with
    | .ok b => .ok (b, .ok Bytes.empty)
    | .error reason => .error (name ++ ": " ++ reason)
  else
    match m.tree.resolve (decode name) m.here with
    | .ok (_, .file content _) => .ok (content, input)
    | .ok _ => .error (name ++ ": " ++ Errno.isDirectory.description)
    | .error e => .error (name ++ ": " ++ e.description)

/-- The patterns of a source. -/
def patternsOf (m : Machine) (input : Except String Bytes) :
    List Source → Except String (List Pattern × Except String Bytes)
  | [] => .ok ([], input)
  | .text s :: rest => do
    let (found, input) ← patternsOf m input rest
    .ok (Pattern.ofLines none s ++ found, input)
  | .file name :: rest => do
    let (b, input) ← contentOf m input name
    let (found, input) ← patternsOf m input rest
    let text := (ofBytes b).toList
    let text := if text.getLast? = some '\n' then text.dropLast else text
    .ok (if b.isEmpty then found else Pattern.ofLines (some name) (String.ofList text) ++ found, input)

/-- The patterns of the rules for names, with those that files list. -/
def rulesOf (m : Machine) : List NameRule → Except String (List (List Char × Bool))
  | [] => .ok []
  | .included p :: rest => (rulesOf m rest).map fun found => (p.toList, true) :: found
  | .excluded p :: rest => (rulesOf m rest).map fun found => (p.toList, false) :: found
  | .listed name :: rest => do
    let (b, _) ← contentOf m (.ok Bytes.empty) name
    let lines := ((ofBytes b).toList.splitOn '\n').map fun l => (l.reverse.dropWhile isSpace).reverse
    let patterns := (lines.filter (!·.isEmpty)).reverse.map fun l => (l, false)
    (rulesOf m rest).map fun found => patterns ++ found
where
  /-- White space at the end of a line does not count. -/
  isSpace (c : Char) : Bool :=
    Arithmetic.isSpace c

/-- The end of a program's path. -/
def shortName (program : String) : String :=
  String.ofList ((program.toList.reverse.takeWhile (· != '/')).reverse)

/-- What is written when the arguments are not understood. -/
def usageText (program : String) : String :=
  "Usage: " ++ shortName program ++ " [OPTION]... PATTERNS [FILE]...\nTry '" ++ shortName program ++
    " --help' for more information.\n"

/-- What is written for a refusal, and the status. -/
def Refusal.outcome (program : String) : Refusal → String × Nat
  | .option message => (program ++ ": " ++ message ++ "\n" ++ usageText program, 2)
  | .usage => (usageText program, 2)
  | .fault message => (program ++ ": " ++ message ++ "\n", 2)
  | .choice isAmbiguous name value choices =>
    (program ++ ": " ++ (if isAmbiguous then "ambiguous" else "invalid") ++ " argument '" ++ value ++ "' for '" ++
      name ++ "'\nValid arguments are:\n" ++
        String.join (choices.map fun c => "  - '" ++ c ++ "'\n") ++ usageText program, 1)

/-- Runs a search for patterns. -/
def runFor (m : Machine) (program : String) (s : Settings) (patterns : List Pattern) (operands : List String)
    (input : Except String Bytes) : Outcome :=
  let nothing (status : Nat) (messages : List String) : Outcome :=
    ⟨messages.map fun s => .message (program ++ ": " ++ s ++ "\n"), status, input⟩
  let isHopeless := s.isInverted && !s.wholeLines && !s.wholeWords && patterns.all fun p => p.text.isEmpty
  if (s.limit = some 0 || (isHopeless && patterns.length = 1)) && (s.isQuiet || s.listing ≠ .others) then
    nothing 1 []
  else
    match Target.ofPatterns s patterns, rulesOf m s.fileRules, rulesOf m s.directoryRules with
    | _, .error fault, _ | _, _, .error fault => nothing 2 [fault]
    | .error faults, _, _ => nothing 2 faults
    | .ok target, .ok fileRules, .ok directoryRules =>
      let isRecursive := s.directories = .entered
      let files :=
        if !operands.isEmpty then operands else if isRecursive then ["."] else ["-"]
      let scope : Scope :=
        ⟨m, program, s, target, fileRules, directoryRules, operands.isEmpty && isRecursive⟩
      let names :=
        match s.names with
        | some b => some b
        | none => if operands.length ≤ 1 then (if isRecursive then none else some false) else some true
      let search : Searching Unit := do
        for w in target.warnings do Searching.complain ("warning: " ++ w)
        for name in files do
          if !(← get).isOver then Searching.searchGiven name
      let (_, state) := (search.run scope).run ⟨[], false, false, names, false, input, false⟩
      let status := if state.isOver then 0 else if state.hasFault then 2 else if state.hasSelected then 0 else 1
      ⟨state.writings.reverse, status, state.input⟩

/-- Runs the search that arguments ask for. -/
def run (m : Machine) (program : String) (arguments : List String) (input : Except String Bytes) : Outcome :=
  let isMixed := (m.environment.find? fun v => v.1 = "POSIXLY_CORRECT").isNone
  let (s, refusal?, operands) := Settings.ofArguments isMixed arguments
  let warned (o : Outcome) : Outcome :=
    { o with writings := (s.warnings.map fun w => .message (program ++ ": warning: " ++ w ++ "\n")) ++ o.writings }
  let refused (r : Refusal) : Outcome :=
    let (message, status) := r.outcome program
    ⟨[.message message], status, input⟩
  warned <|
    match patternsOf m input s.sources, rulesOf m s.fileRules, refusal? with
    | .error fault, _, _ | _, .error fault, _ => refused (.fault fault)
    | _, _, some r => refused r
    | .ok (patterns, input), .ok _, none =>
      if s.telling = .help then ⟨[.output (toBytes (help program).toList)], 0, input⟩
      else if s.telling = .version then ⟨[.output (toBytes version.toList)], 0, input⟩
      else if s.sources.isEmpty then
        match operands with
        | [] => refused .usage
        | pattern :: operands => runFor m program s (Pattern.ofLines none pattern) operands input
      else if patterns.isEmpty then
        let s := { s with isInverted := !s.isInverted, wholeLines := false, wholeWords := false }
        runFor m program s (Pattern.ofLines none "") operands input
      else runFor m program s patterns operands input

end AddonAtlas.Shell.Search
