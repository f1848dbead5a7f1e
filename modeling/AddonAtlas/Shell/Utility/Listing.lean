import AddonAtlas.Shell.Utility.Files
import AddonAtlas.Shell.Utility.Sort
import AddonAtlas.Shell.Pattern

/-!
# Programs that tell of files

What is in directories, what belongs to a file, where a path leads, and what its parts are. Files are listed
in the order of their names, byte by byte.
-/

namespace AddonAtlas.Shell

namespace Utility

open Shell.Action

/-! ## Lists of files -/

/-- A file as it is listed. -/
structure Listed where
  name : String
  place : Location
  entry : Entry

/-- How files are listed. -/
structure ListStyle where
  given : List Options.Given
  /-- When the lists are made. -/
  machine : Machine

namespace ListStyle

/-- The bytes that an entry takes. -/
def sizeOf : Entry → Nat
  | .file content _ => content.size
  | .link target => target.utf8ByteSize
  | .directory => 4096

/-- Whether an option is the last one given among those it excludes. -/
def isLast (s : ListStyle) (option : String) (others : List String) : Bool :=
  (last? s.given (option :: others)).any fun g => g.option = option

/-- The sign behind a name that tells what it stands for. -/
def indicator (s : ListStyle) (l : Listed) : String :=
  let isFull := has s.given "F" || (value? s.given "indicator").any (· = "classify")
  let isTyped := has s.given "file-type" || (value? s.given "indicator").any (· = "file-type")
  match l.entry with
  | .directory => if isFull || isTyped || has s.given "p" then "/" else ""
  | .link _ => if (isFull || isTyped) && !has s.given "l" then "@" else ""
  | .file _ executable => if isFull && executable then "*" else ""

/-- A name as it is shown. -/
def shown (s : ListStyle) (l : Listed) : String :=
  let name :=
    if has s.given "Q" then "\"" ++ ((Quotation.quoted l.name).drop 1 |>.dropEnd 1).toString ++ "\""
    else if has s.given "b" then
      String.ofList (l.name.toList.flatMap fun c =>
        match Quotation.escape? c with
        | some e => '\\' :: e
        | none => if c = ' ' || c = '\\' then ['\\', c] else [c])
    else if has s.given "q" then
      String.ofList (l.name.toList.map fun c => if Quotation.isPrintable c then c else '?')
    else l.name
  let target :=
    match l.entry with
    | .link target => if has s.given "l" then " -> " ++ encode target else ""
    | _ => ""
  name ++ target ++ s.indicator l

/-- The part of a name behind its last point. -/
def extension (name : String) : List Char :=
  let cs := name.toList.reverse
  let found := cs.takeWhile (· != '.')
  if found.length = cs.length then [] else '.' :: found.reverse

/-- Files in the order in which they are listed. -/
def ordered (s : ListStyle) (files : List Listed) : List Listed :=
  let byName (a b : Listed) : Ordering := compareCharacters a.name.toList b.name.toList
  let compare (a b : Listed) : Ordering :=
    match last? s.given ["S", "X", "v", "U", "f"] with
    | some ⟨"S", _, _⟩ => orElse (Ord.compare (sizeOf b.entry) (sizeOf a.entry)) (byName a b)
    | some ⟨"X", _, _⟩ => orElse (compareCharacters (extension a.name) (extension b.name)) (byName a b)
    | some ⟨"v", _, _⟩ => orElse (compareVersions a.name.toList b.name.toList) (byName a b)
    | some _ => .eq
    | none => byName a b
  let sorted := files.mergeSort fun a b => compare a b != .gt
  let sorted := if has s.given "r" && !(last? s.given ["U", "f"]).isSome then sorted.reverse else sorted
  if has s.given "first" then
    let isDirectory (l : Listed) : Bool := l.entry matches .directory
    sorted.filter isDirectory ++ sorted.filter (!isDirectory ·)
  else sorted

/-- How many names lead to an entry. -/
def links (s : ListStyle) (l : Listed) : Nat :=
  match l.entry with
  | .directory => 2 + ((below s.machine.tree l.place).filter fun (p, e) => p.length = 1 && e matches .directory).length
  | _ => 1

/-- The blocks that an entry takes on a disk. -/
def blocks (e : Entry) : Nat :=
  match e with
  | .link _ => 0
  | e => 4 * ((sizeOf e + 4095) / 4096)

/-- The columns in front of a name, in a long list. -/
def columns (s : ListStyle) (l : Listed) : List String :=
  let mode := s.machine.tree.mode l.place
  [modeLetters l.entry mode, toString (s.links l)] ++ (if has s.given "g" then [] else [if has s.given "n" then "0" else "root"]) ++
    (if has s.given "o" || has s.given "G" then [] else [if has s.given "n" then "0" else "root"]) ++
    [toString (sizeOf l.entry)]

/-- The lines for files. -/
def lines (s : ListStyle) (files : List Listed) : List String :=
  if has s.given "l" then
    let rows := files.map fun l => (s.columns l, l)
    let width (i : Nat) : Nat := (rows.map fun r => (r.1.getD i "").length).foldl max 0
    rows.map fun (columns, l) =>
      let filledColumns := columns.zipIdx.map fun (c, i) =>
        let blanks := String.ofList (List.replicate (width i - c.length) ' ')
        if i = 1 || i + 1 = columns.length then blanks ++ c else c ++ blanks
      " ".intercalate filledColumns ++ " Jan  1 00:00 " ++ s.shown l
  else if (last? s.given ["m", "1", "C", "x"]).any fun g => g.option = "m" then
    if files.isEmpty then [] else [", ".intercalate (files.map s.shown)]
  else files.map s.shown

end ListStyle

def listOptions : Options.Table :=
  .of "abcdfghiklmnopqrstuvw:xABCDFGHI:LNQRST:UXZ1" [("all", "a"), ("almost-all", "A"), ("escape", "b"),
    ("ignore-backups", "B"), ("directory", "d"), ("classify?", "F"), ("file-type", "file-type"),
    ("group-directories-first", "first"), ("human-readable", "h"), ("si", "si"), ("inode", "i"), ("ignore=", "I"),
    ("hide=", "hide"), ("indicator-style=", "indicator"), ("kibibytes", "k"), ("dereference", "L"),
    ("numeric-uid-gid", "n"), ("literal", "N"), ("no-group", "G"), ("hide-control-chars", "q"),
    ("show-control-chars", "show"), ("quote-name", "Q"), ("quoting-style=", "quoting"), ("reverse", "r"),
    ("recursive", "R"), ("size", "s"), ("sort=", "sort"), ("format=", "format"), ("time=", "time"),
    ("time-style=", "time-style"), ("full-time", "l"), ("color?", "color"), ("width=", "w"), ("tabsize=", "T"),
    ("author", "author"), ("block-size=", "block"), ("zero", "zero"), ("help", "help"), ("version", "version")]

/-- The files in a directory that are listed. -/
def inDirectory (s : ListStyle) (place : Location) : List Listed :=
  let t := s.machine.tree
  let all := (t.children place).filterMap fun n => (t.find? (place ++ [n])).map fun e => (⟨encode n, place ++ [n], e⟩ : Listed)
  let showsAll := (last? s.given ["a", "A", "f"]).any fun g => g.option ≠ "A"
  let isHidden (l : Listed) : Bool :=
    let patterns (option : String) : List String := (s.given.filter fun g => g.option = option).filterMap (·.value)
    let fits (p : String) : Bool := Pattern.isMatch p.toList l.name.toList
    (patterns "I").any fits || (has s.given "B" && l.name.endsWith "~") ||
      (!showsAll && !has s.given "A" && (l.name.startsWith "." || (patterns "hide").any fits))
  let special := if showsAll then [(⟨".", place, .directory⟩ : Listed), ⟨"..", FileTree.parent place, .directory⟩] else []
  s.ordered (special ++ all.filter (!isHidden ·))

/-- The texts for a directory and, if an option asks for it, for those in it. -/
def directoryTexts (s : ListStyle) (hasTitles : Bool) : (fuel : Nat) → (name : String) → Location → List String
  | 0, _, _ => []
  | fuel + 1, name, place =>
    let files := inDirectory s place
    let title := if hasTitles then [name ++ ":"] else []
    let total :=
      if has s.given "l" || has s.given "s" then
        ["total " ++ toString (files.map fun l => ListStyle.blocks l.entry).sum]
      else []
    let text := String.join ((title ++ total ++ s.lines files).map (· ++ "\n"))
    let deeper :=
      if has s.given "R" then
        (files.filter fun l => l.name ≠ "." && l.name ≠ ".." && l.entry matches .directory).flatMap fun l =>
          directoryTexts s true fuel (inside name l.name) l.place
      else []
    text :: deeper

def listFiles (name : String) (arguments : List String) : Action Nat :=
  withOptions name listOptions true 2 arguments fun given operands => do
    let implied (option : String) : List Options.Given := [⟨option, none, 0⟩]
    let given := given.flatMap fun g =>
      match g.option, g.value with
      | "n", _ => [g, ⟨"l", none, 0⟩]
      | "g", _ | "o", _ => [g, ⟨"l", none, 0⟩]
      | "sort", some "none" => implied "U"
      | "sort", some "size" => implied "S"
      | "sort", some "extension" => implied "X"
      | "sort", some "version" => implied "v"
      | "format", some "commas" => implied "m"
      | "format", some "long" | "format", some "verbose" => implied "l"
      | "format", some "single-column" => implied "1"
      | "indicator", some "slash" => implied "p"
      | "indicator", some "none" => []
      | _, _ => [g]
    let m ← get
    let s : ListStyle := ⟨given, m⟩
    let mut status := 0
    let mut files : List Listed := []
    let mut directories : List Listed := []
    for file in if operands.isEmpty then ["."] else operands do
      let follows := has given "L" || has given "H" ||
        !(has given "d" || has given "l" || has given "F")
      let found :=
        if follows then (resolve m file).orElseLazy fun _ => entryOf m file
        else
          match entryOf m file with
          | .ok (place, .link target) => if has given "d" || has given "l" || has given "F" then .ok (place, .link target) else resolve m file
          | r => r
      match found with
      | .error e =>
        complain name ("cannot access " ++ Quotation.inShellQuotes file ++ ": " ++ e.description)
        status := 2
      | .ok (place, .directory) =>
        if has given "d" then files := files ++ [⟨file, place, .directory⟩]
        else directories := directories ++ [⟨file, place, .directory⟩]
      | .ok (place, e) => files := files ++ [⟨file, place, e⟩]
    let hasTitles := operands.length > 1 || has given "R"
    let blocks := (s.ordered directories).flatMap fun l => directoryTexts s hasTitles (m.tree.entries.length + 2) l.name l.place
    let ending := if has given "zero" then '\x00' else '\n'
    let front := if files.isEmpty then [] else [String.join ((s.lines (s.ordered files)).map (· ++ "\n"))]
    let text := ("\n".intercalate (front ++ blocks)).toList
    finish name 2 (if ending = '\n' then text else text.map fun c => if c = '\n' then ending else c) status

/-! ## Properties of a file -/

/-- The words for a kind of file. -/
def kindOf (e : Entry) : String :=
  match e with
  | .directory => "directory"
  | .link _ => "symbolic link"
  | .file content _ => if content.size = 0 then "regular empty file" else "regular file"

/-- What a letter stands for in the format of a file's properties. -/
def property (m : Machine) (file : String) (place : Location) (e : Entry) (letter : Char) : String :=
  let mode := m.tree.mode place
  match letter with
  | 'n' => file
  | 'N' =>
    match e with
    | .link target => Quotation.inShellQuotes file ++ " -> " ++ Quotation.inShellQuotes (encode target)
    | _ => if Quotation.needsQuotes file.toList then Quotation.inShellQuotes file else file
  | 's' => toString (ListStyle.sizeOf e)
  | 'F' => kindOf e
  | 'a' => octalMode mode 1
  | 'A' => modeLetters e mode
  | 'f' =>
    let kind := match e with
      | .directory => 0o40000
      | .link _ => 0o120000
      | .file _ _ => 0o100000
    String.ofList (Nat.toDigits 16 (kind + mode))
  | 'u' | 'g' => "0"
  | 'U' | 'G' => "root"
  | 'h' => toString (ListStyle.links ⟨[], m⟩ ⟨file, place, e⟩)
  | 'b' => toString (2 * ListStyle.blocks e)
  | 'B' => "512"
  | 'o' => "4096"
  | 't' | 'T' => "0"
  | '%' => "%"
  | _ => "?"

/-- A text for a format of letters behind percent signs, which may have flags and a width. -/
def describedBy (property : Char → String) (readsEscapes : Bool) : (fuel : Nat) → List Char → List Char
  | 0, _ => []
  | _ + 1, [] => []
  | fuel + 1, '%' :: rest =>
    let flags := rest.takeWhile fun c => "-0+ #'".toList.contains c
    let rest := rest.drop flags.length
    let width := rest.takeWhile isDigit
    let rest := rest.drop width.length
    let precision :=
      match rest with
      | '.' :: ds => '.' :: ds.takeWhile isDigit
      | _ => []
    match rest.drop precision.length with
    | [] => '%' :: flags ++ width ++ precision
    | c :: rest =>
      let text := (property c).toList
      let text := if precision.isEmpty then text else text.take (Arithmetic.digitsOf 10 (precision.drop 1)).1
      let blanks (c : Char) : List Char := List.replicate ((Arithmetic.digitsOf 10 width).1 - text.length) c
      (if flags.contains '-' then text ++ blanks ' '
      else blanks (if flags.contains '0' && text.all isDigit then '0' else ' ') ++ text) ++
        describedBy property readsEscapes fuel rest
  | fuel + 1, '\\' :: c :: rest =>
    if readsEscapes then
      let (d, after) := Format.escape (c :: rest)
      d :: describedBy property readsEscapes fuel after
    else '\\' :: describedBy property readsEscapes fuel (c :: rest)
  | fuel + 1, c :: rest => c :: describedBy property readsEscapes fuel rest

def fileStatus (name : String) (arguments : List String) : Action Nat :=
  withOptions name (.of "c:fLt" [("dereference", "L"), ("file-system", "f"), ("format=", "c"), ("printf=", "printf"),
    ("terse", "t"), ("cached=", "cached"), ("help", "help"), ("version", "version")]) true 1 arguments
    fun given files => do
      if files.isEmpty then misuse name "missing operand" 1
      else
        let m ← get
        let mut status := 0
        let mut text : List Char := []
        for file in files do
          match if has given "L" then resolve m file else entryOf m file with
          | .error e =>
            complain name ("cannot statx " ++ Quotation.inShellQuotes file ++ ": " ++ e.description)
            status := 1
          | .ok (place, e) =>
            let show_ (escapes : Bool) (format : String) : List Char :=
              describedBy (property m file place e) escapes (format.length + 1) format.toList
            match last? given ["c", "printf"] with
            | some ⟨"printf", some format, _⟩ => text := text ++ show_ true format
            | some ⟨_, some format, _⟩ => text := text ++ show_ false format ++ ['\n']
            | _ =>
              text := text ++ show_ false
                "  File: %N\n  Size: %-10s\tBlocks: %-10b IO Block: %-6o %F\nAccess: (%04a/%A)  Uid: (    0/    root)   Gid: (    0/    root)\n"
        finish name 1 text status

/-! ## Paths -/

/-- The place that a path leads to. `mayMiss` tells how many names at its end need not be there. -/
def canonical (m : Machine) (mayMiss : Option Nat) (file : String) : Except Errno Location := do
  match resolve m file with
  | .ok (place, _) => return place
  | .error e =>
    let names := (FileTree.names (decode file)).filter (· ≠ "")
    match mayMiss with
    | some 0 => throw e
    | some _ =>
      if file.isEmpty then throw e
      else
        let place ← placeOf m file
        match m.tree.find? place with
        | some (.link target) =>
          let next := if FileTree.isAbsolute target then encode target else inside (dirname file) (encode target)
          match placeOf m next with
          | .ok place => return place
          | .error e => throw e
        | some _ => throw e
        | none => return place
    | none =>
      let start := FileTree.origin (decode file) m.here
      return names.foldl (fun here n =>
        if n = "." then here
        else if n = ".." then FileTree.parent here
        else
          match m.tree.resolveIn here n with
          | .ok (place, _) => place
          | .error _ => here ++ [n]) start

def readLinks (name : String) (arguments : List String) : Action Nat :=
  withOptions name (.of "efmnqsvz" [("canonicalize", "f"), ("canonicalize-existing", "e"),
    ("canonicalize-missing", "m"), ("no-newline", "n"), ("quiet", "q"), ("silent", "s"), ("verbose", "v"),
    ("zero", "z"), ("help", "help"), ("version", "version")]) true 1 arguments fun given files => do
    if files.isEmpty then misuse name "missing operand" 1
    else
      let m ← get
      let mut status := 0
      let mut text := ""
      let ending := if has given "z" then "\x00" else if has given "n" && files.length = 1 then "" else "\n"
      for file in files do
        let found : Except Errno String :=
          match last? given ["e", "f", "m"] with
          | some g =>
            (canonical m (if g.option = "e" then some 0 else if g.option = "f" then some 1 else none) file).map fun place => encode (Builtin.pathOf place)
          | none =>
            match entryOf m file with
            | .ok (_, .link target) => .ok (encode target)
            | .ok _ => .error .invalid
            | .error e => .error e
        match found with
        | .ok path => text := text ++ path ++ ending
        | .error e =>
          status := 1
          if (last? given ["v", "q", "s"]).any fun g => g.option = "v" then
            complain name (Quotation.forShell file ++ ": " ++ e.description)
      finish name 1 text.toList status

def realPaths (name : String) (arguments : List String) : Action Nat :=
  withOptions name (.of "eLmPqsz" [("canonicalize-existing", "e"), ("canonicalize-missing", "m"), ("logical", "L"),
    ("physical", "P"), ("quiet", "q"), ("relative-to=", "relative-to"), ("relative-base=", "relative-base"),
    ("strip", "s"), ("no-symlinks", "s"), ("zero", "z"), ("help", "help"), ("version", "version")]) true 1 arguments
    fun given files => do
      if files.isEmpty then misuse name "missing operand" 1
      else
        let m ← get
        let kind := if has given "e" then some 0 else if has given "m" then none else some 1
        let mut status := 0
        let mut text := ""
        for file in files do
          match canonical m kind file with
          | .ok place =>
            let shown :=
              match (value? given "relative-to").map (canonical m kind) with
              | some (.ok base) =>
                let common := ((place.zip base).takeWhile fun (a, b) => a = b).length
                let ups := List.replicate (base.length - common) ".."
                let names := ups ++ (place.drop common).map encode
                if names.isEmpty then "." else "/".intercalate names
              | _ => encode (Builtin.pathOf place)
            text := text ++ shown ++ (if has given "z" then "\x00" else "\n")
          | .error e =>
            status := 1
            if !has given "q" then complain name (Quotation.forShell file ++ ": " ++ e.description)
        finish name 1 text.toList status

def baseNames (name : String) (arguments : List String) : Action Nat :=
  withOptions name (.of "as:z" [("multiple", "a"), ("suffix=", "s"), ("zero", "z"), ("help", "help"),
    ("version", "version")]) false 1 arguments fun given paths => do
    let ending := if has given "z" then "\x00" else "\n"
    let isMultiple := has given "a" || has given "s"
    match paths with
    | [] => misuse name "missing operand" 1
    | path :: rest =>
      if isMultiple then
        let suffix := (value? given "s").getD ""
        finish name 1 (String.join (paths.map fun p => withoutSuffix (basename p) suffix ++ ending)).toList 0
      else
        match rest with
        | _ :: extra :: _ => misuse name ("extra operand " ++ Quotation.quoted extra) 1
        | _ =>
          let base := basename path
          let base := if base = "/" then base else withoutSuffix base (rest.headD "")
          finish name 1 (base ++ ending).toList 0

def directoryNames (name : String) (arguments : List String) : Action Nat :=
  withOptions name (.of "z" [("zero", "z"), ("help", "help"), ("version", "version")]) true 1 arguments
    fun given paths => do
      if paths.isEmpty then misuse name "missing operand" 1
      else
        let ending := if has given "z" then "\x00" else "\n"
        finish name 1 (String.join (paths.map fun p => dirname p ++ ending)).toList 0

end Utility

end AddonAtlas.Shell
