import AddonAtlas.Shell.Utility.Extraction.Evaluating

/-!
# Starting extraction programs

A program stands in the arguments, in a file or in standard input. Options put a loop over the lines of the files
around it, divide these lines, and tell what ends them. At the end the blocks that were kept for it are run, and
what still waits is written.
-/

namespace AddonAtlas.Shell

namespace Utility

open Shell.Action

namespace Extraction

open AddonAtlas.Shell.Extraction

/-! ## Options -/

/-- What the arguments ask for. -/
structure Request where
  /-- The pieces of the program, the last one first. -/
  pieces : List String := []
  loops : Bool := false
  prints : Bool := false
  divides : Bool := false
  divider : Option String := none
  /-- The end of lines is taken away, and added when something is written. -/
  trims : Bool := false
  separator : Option String := some "\n"
  ending : Option String := none
  backup : Option String := none
  onlyChecks : Bool := false
  showsVersion : Bool := false
  showsUsage : Bool := false
  /-- Arguments with a hyphen in front give names values. -/
  names : Bool := false
  skipsFront : Bool := false

/-- Why the arguments are refused. -/
inductive Misuse
  | unknown (rest : String)
  | noCode (letter : Char)
  | noDirectory
  | noModule (letter : Char)

def Misuse.message : Misuse → String
  | unknown rest => "Unrecognized switch: -" ++ rest ++ "  (-h will show valid options).\n"
  | noCode letter => "No code specified for -" ++ String.singleton letter ++ ".\n"
  | noDirectory => "No directory specified for -I\n"
  | noModule letter => "Missing argument to -" ++ String.singleton letter ++ "\n"

/-- The digits of a number in base 8 at the front of a text. -/
def octalDigits (most : Nat) (cs : List Char) : List Char :=
  (cs.take most).takeWhile fun c => '0' ≤ c && c ≤ '7'

/-- The letters of one argument, with the arguments behind it; what is left of these. -/
def readLetters : (fuel : Nat) → Request → List Char → List String → Except Misuse (Request × List String)
  | 0, r, _, others => .ok (r, others)
  | _ + 1, r, [], others => .ok (r, others)
  | fuel + 1, r, c :: rest, others =>
    let go (r : Request) (rest : List Char) : Except Misuse (Request × List String) := readLetters fuel r rest others
    match c with
    | 'e' | 'E' =>
      if !rest.isEmpty then .ok ({ r with pieces := String.ofList rest :: r.pieces }, others)
      else
        match others with
        | s :: others => .ok ({ r with pieces := s :: r.pieces }, others)
        | [] => .error (.noCode c)
    | 'n' => go { r with loops := true } rest
    | 'p' => go { r with loops := true, prints := true } rest
    | 'a' => go { r with loops := true, divides := true } rest
    | 'F' => .ok ({ r with loops := true, divides := true, divider := some (String.ofList rest) }, others)
    | 'l' =>
      let ds := octalDigits 4 rest
      let ending :=
        if ds.isEmpty then some (if r.separator = some "" then "\n\n" else r.separator.getD "")
        else some (String.singleton (Char.ofNat (Arithmetic.digitsOf 8 ds).1))
      go { r with trims := true, ending := ending } (rest.drop ds.length)
    | '0' =>
      match rest with
      | 'x' :: more =>
        let ds := more.takeWhile fun c => (Arithmetic.digitsOf 16 [c]).2.isEmpty
        go { r with separator := some (String.singleton (Char.ofNat (Arithmetic.digitsOf 16 ds).1)) } (more.drop ds.length)
      | rest =>
        let ds := octalDigits 3 rest
        let n := (Arithmetic.digitsOf 8 ds).1
        let separator :=
          if 255 < n then none
          else if n = 0 && !ds.isEmpty then some ""
          else some (String.singleton (Char.ofNat n))
        go { r with separator := separator } (rest.drop ds.length)
    | 'g' => go { r with separator := none } rest
    | 'i' => .ok ({ r with backup := some (String.ofList (rest.takeWhile fun c => !Arithmetic.isSpace c)) }, others)
    | 'I' =>
      if !rest.isEmpty then .ok (r, others)
      else
        match others with
        | _ :: others => .ok (r, others)
        | [] => .error .noDirectory
    | 'm' | 'M' => if rest.isEmpty then .error (.noModule c) else .ok (r, others)
    | 'c' => go { r with onlyChecks := true } rest
    | 'v' => .ok ({ r with showsVersion := true }, others)
    | 'h' => .ok ({ r with showsUsage := true }, others)
    | 's' => go { r with names := true } rest
    | 'x' => .ok ({ r with skipsFront := true }, others)
    | 'C' => go r (rest.dropWhile fun c => isDigit c || c.isAlpha)
    | 'd' | 'D' | 'V' => .ok (r, others)
    | 'S' | 't' | 'T' | 'u' | 'U' | 'w' | 'W' | 'X' | 'f' => go r rest
    | '-' =>
      if rest.isEmpty then .ok (r, others) else .error (.unknown (String.ofList (c :: rest)))
    | ' ' | '\t' | '\n' | '\r' => go r rest
    | c => .error (.unknown (String.ofList (c :: rest)))

/-- The options of the arguments, and the arguments behind them. -/
def readRequest : (fuel : Nat) → Request → List String → Except Misuse (Request × List String)
  | 0, r, arguments => .ok (r, arguments)
  | fuel + 1, r, arguments =>
    match arguments with
    | [] => .ok (r, [])
    | a :: others =>
      if a = "--" then .ok (r, others)
      else
        match a.toList with
        | '-' :: c :: rest => do
          let (r, others) ← readLetters (rest.length + 2) r (c :: rest) others
          readRequest fuel r others
        | _ => .ok (r, arguments)

/-- The options that the first line of a program gives. -/
def firstLineOptions (r : Request) (cs : List Char) : Request :=
  let first := cs.takeWhile (· ≠ '\n')
  let words := (first.splitOnP Arithmetic.isSpace).filter (!·.isEmpty)
  let isOwn := "#!".toList.isPrefixOf first && words.any fun w => "perl".toList.isSuffixOf w
  if !isOwn then r
  else
    let letters := ((words.dropWhile fun w => !("perl".toList.isSuffixOf w)).drop 1).takeWhile fun w => w.head? = some '-'
    letters.foldl (fun r w =>
      match readLetters (w.length + 1) r (w.drop 1) [] with
      | .ok (r, _) => r
      | .error _ => r) r

/-- The values that the arguments give to names, and the arguments behind them. -/
def namedArguments : List String → List (String × Value) × List String
  | [] => ([], [])
  | a :: rest =>
    if a = "--" then ([], rest)
    else
      match a.toList with
      | '-' :: c :: cs =>
        let name := (c :: cs).takeWhile (· ≠ '=')
        let v := if name.length < (c :: cs).length then Value.text (String.ofList ((c :: cs).drop (name.length + 1))) else .integer 1
        let (found, rest) := namedArguments rest
        ((String.ofList name, v) :: found, rest)
      | _ => ([], a :: rest)

/-- What is said about the use of the program. -/
def usage : List String :=
  ["  -0[octal/hexadecimal] specify record separator (\\0, if no argument)",
    "  -a                    autosplit mode with -n or -p (splits $_ into @F)",
    "  -C[number/list]       enables the listed Unicode features",
    "  -c                    check syntax only (runs BEGIN and CHECK blocks)",
    "  -d[t][:MOD]           run program under debugger or module Devel::MOD",
    "  -D[number/letters]    set debugging flags (argument is a bit mask or alphabets)",
    "  -e commandline        one line of program (several -e's allowed, omit programfile)",
    "  -E commandline        like -e, but enables all optional features",
    "  -f                    don't do $sitelib/sitecustomize.pl at startup",
    "  -F/pattern/           split() pattern for -a switch (//'s are optional)",
    "  -g                    read all input in one go (slurp), rather than line-by-line (alias for -0777)",
    "  -i[extension]         edit <> files in place (makes backup if extension supplied)",
    "  -Idirectory           specify @INC/#include directory (several -I's allowed)",
    "  -l[octnum]            enable line ending processing, specifies line terminator",
    "  -[mM][-]module        execute \"use/no module...\" before executing program",
    "  -n                    assume \"while (<>) \x7b ... \x7d\" loop around program",
    "  -p                    assume loop like -n but print line also, like sed",
    "  -s                    enable rudimentary parsing for switches after programfile",
    "  -S                    look for programfile using PATH environment variable",
    "  -t                    enable tainting warnings",
    "  -T                    enable tainting checks",
    "  -u                    dump core after parsing program",
    "  -U                    allow unsafe operations",
    "  -v                    print version, patchlevel and license",
    "  -V[:configvar]        print configuration summary (or a single Config.pm variable)",
    "  -w                    enable many useful warnings",
    "  -W                    enable all warnings",
    "  -x[directory]         ignore text before #!perl line (optionally cd to directory)",
    "  -X                    disable all warnings",
    "  ",
    "Run 'perldoc perl' for more help with Perl."]

/-- The program with the loop that the options put around it, and the number of its first line. -/
def wrapped (r : Request) (cs : List Char) : List Char × Nat :=
  if !r.loops then (cs, 1)
  else
    let division :=
      if !r.divides then ""
      else
        match r.divider with
        | none => "our @F=split(' ');"
        | some s =>
          if s.startsWith "/" || s.startsWith "\"" || s.startsWith "'" then "our @F=split(" ++ s ++ ");"
          else "our @F=split(q\x00" ++ s ++ "\x00);"
    let front := "LINE: while (<>) \x7b" ++ (if r.trims then "chomp;" else "") ++ division ++ "\n"
    let back := if r.prints then ";\x7dcontinue\x7bprint or die qq(-p destination: $!\\n);\x7d" else ";\x7d"
    (front.toList ++ cs ++ back.toList, 0)

/-! ## Running -/

/-- The session at the start of a program. -/
def initial (m : Machine) (r : Request) (file : String) (operands : List String) (data : Option (List Char)) : Session :=
  let texts : List (String × Value) :=
    [("/", (r.separator.map Value.text).getD .nothing), ("\\", (r.ending.map Value.text).getD .nothing),
      ("\"", .text " "), (";", .text "\x1c"), ("0", .text file), ("@", .text ""), ("?", .integer 0),
      ("^W", .integer 0), ("^O", .text "linux"), ("]", .text "5.036000"), ("^V", .text "v5.36.0"),
      ("^X", .text "/usr/bin/perl"), ("^T", ofInt Dates.present), ("$", ofNat (firstProcess + m.processes + 1)), ("<", .integer 0),
      (">", .integer 0), ("(", .text "0 0"), (")", .text "0 0"), ("|", .integer 0)]
  let (given, operands) := if r.names then namedArguments operands else ([], operands)
  let texts := texts ++ given
  let names := texts.zipIdx.map fun ((name, _), i) => ("$" ++ name, i)
  let environment := m.environment.foldl (fun h (name, v) => h.insert name (.text v)) Hash.empty
  let globals := names ++ [("@ARGV", 0), ("%ENV", 0)]
  { cells := (texts.map (·.2)).toArray
    lists := #[(operands.map Value.text).toArray]
    tables := #[environment]
    procedures := #[]
    globals := Std.HashMap.ofList globals
    names := []
    outer := []
    depth := 0
    saved := []
    found := none
    positions := []
    turns := []
    expressions := {}
    handles := [("STDIN", ⟨.standardInput, 0, 0⟩), ("STDOUT", ⟨.standardOutput, 0, 0⟩),
      ("STDERR", ⟨.standardErrors, 0, 0⟩)] ++ (data.map fun cs => ("DATA", ⟨.input cs, 0, 0⟩)).toList
    reading := none
    ranges := []
    line := 0
    fault := (0, "")
    pending := []
    pendingLength := 0
    wantsList := none
    edited := none
    selected := "STDOUT"
    calls := 0
    opened := 0
    alarm := none
    classes := []
    process := firstProcess + m.processes + 1 }

/-- The status of a program that something has ended, after it has said why. -/
def statusOf (t : Task) : Except Halt Unit → Running Nat
  | .ok () => return 0
  | .error (.exit n) => return n
  | .error (.die v) => giveUp v
  | .error (.jump j label) => do
    let word :=
      match j with
      | .next => "next"
      | .last => "last"
      | .redo => "redo"
    let message := if label.isEmpty then "Can't \"" ++ word ++ "\" outside a loop block"
      else "Label not found for \"" ++ word ++ " " ++ label ++ "\""
    giveUp (.text (message ++ (← here t)))
  | .error (.return_ _) => do giveUp (.text ("Can't return outside a subroutine" ++ (← here t)))
where
  /-- Says the last words of a program; the status that follows from the last fault. -/
  giveUp (v : Value) : Running Nat := do
    doing (say v.toText)
    let number := (← get).fault.1 % 256
    let status := ((← global "?").toInt.toNat / 256) % 256
    return if number ≠ 0 then number else if status ≠ 0 then status else 255

/-- How deep terms and statements may lie in each other. -/
def fuel : Nat := maxDepth

/-- Runs a program, the blocks before it and those at its end; its status. -/
def runAll (t : Task) : Running Nat := do
  let body (b : List Statement) : Running (Except Halt Unit) :=
    outcome (do
      let _ ← statements t fuel none b)
  let begun ← t.program.first.foldlM (fun (r : Except Halt Unit) b =>
    match r with
    | .ok () => outcome (do
      let _ ← block t fuel none false b)
    | r => pure r) (.ok ())
  let result ←
    match begun with
    | .ok () => body t.program.body
    | r => pure r
  let status ← statusOf t result
  if 1000 ≤ status then
    flush
    return status - 1000
  else
    setGlobal "?" (ofNat status)
    for b in t.program.final do
      match ← body b with
      | .ok () => pure ()
      | .error (.exit n) => setGlobal "?" (ofNat n)
      | .error h =>
        let n ← statusOf t (.error h)
        setGlobal "?" (ofNat n)
    for (name, h) in (← get).handles do
      if h.channel matches .command _ _ then
        let kept ← global "?"
        let _ ← withEnvironment (closeHandle t name)
        setGlobal "?" kept
    flush
    finishEdit
    return ((← global "?").toInt % 256 + 256).toNat % 256

/-- Runs a program that was read. -/
def runTask (t : Task) (s : Session) : Action Nat := do
  let (result, _) ← (runAll t).run.run s
  match result with
  | .ok status => return status
  | .error _ => return 255

/-- Runs an extraction program. -/
def run (command : Starter) (name : String) (arguments : List String) : Action Nat := do
  match readRequest (arguments.length + 1) {} arguments with
  | .error fault =>
    say fault.message
    return 29
  | .ok (r, operands) =>
    if r.showsVersion then
      finish name 1 ("\nThis is perl 5, version 36, subversion 0 (v5.36.0) built for x86_64-linux-gnu-thread-multi\n").toList 0
    else if r.showsUsage then
      let first := "\nUsage: " ++ name ++ " [switches] [--] [programfile] [arguments]"
      finish name 1 (String.join ((first :: usage).map (· ++ "\n"))).toList 0
    else
      let fileName := if r.pieces.isEmpty then operands.headD "-" else "-e"
      let operands := if r.pieces.isEmpty then operands.drop 1 else operands
      let found ← (do
        if !r.pieces.isEmpty then return .ok ("\n".intercalate (r.pieces.reverse) ++ "\n").toList
        else
          match ← read fileName with
          | .ok b => return .ok (charactersOf b)
          | .error u => return .error u.errno : Action (Except Errno (List Char)))
      match found with
      | .error e =>
        say ("Can't open perl script \"" ++ fileName ++ "\": " ++ e.description ++ "\n")
        return if e = .isDirectory then 25 else e.number
      | .ok cs =>
        let first := cs.takeWhile (· ≠ '\n')
        let isForeign := r.pieces.isEmpty && "#!".toList.isPrefixOf first && !r.skipsFront &&
          (indexOf first "perl".toList 0).isNone && (indexOf first "indir".toList 0).isNone
        if isForeign then
          let words := ((first.drop 2).splitOnP Arithmetic.isSpace).filter (!·.isEmpty)
          startOr command (fun e => say ("Can't exec " ++ String.ofList (words.headD []) ++ ": " ++ e.description ++ "\n"))
            (words.map String.ofList ++ fileName :: operands)
        else
          let r := if r.pieces.isEmpty then firstLineOptions r cs else r
          let (text, line) := wrapped r cs
          match readProgram fileName line text [] with
          | .error message =>
            say message
            return 255
          | .ok (program, data) =>
            if r.onlyChecks then
              say (fileName ++ " syntax OK\n")
              return 0
            else
              let m ← get
              let t : Task := ⟨name, command, program, fileName, data, r.backup⟩
              let status ← runTask t (initial m r fileName operands data)
              modify fun after => { after with here := m.here, descriptors := m.descriptors }
              return status

end Extraction

end Utility

end AddonAtlas.Shell
