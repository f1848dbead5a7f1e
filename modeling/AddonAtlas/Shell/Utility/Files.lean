import AddonAtlas.Shell.Permission
import AddonAtlas.Shell.Redirection
import AddonAtlas.Shell.Utility.Basic

/-!
# Programs that change the tree of files

Directories are made and removed, files copied, moved, linked and deleted, and permissions changed. What is
refused is told of, and the other files are still attended to.
-/

namespace AddonAtlas.Shell

namespace Utility

open Shell.Action

/-! ## Places -/

/-- The place of what a name stands for, or would stand for, be it a link. -/
def placeOf (m : Machine) (name : String) : Except Errno Location := do
  let path := decode name
  if path = "" then throw .noEntry
  let last := ((FileTree.names path).filter (· ≠ "")).getLastD "."
  if last = "." ∨ last = ".." then return (← m.tree.resolve path m.here).1 else m.tree.entryAt path m.here

/-- What a name stands for, be it a link. A slash at the end asks for a directory. -/
def entryOf (m : Machine) (name : String) : Except Errno (Location × Entry) := do
  if name.endsWith "/" then
    match ← m.tree.resolve (decode name) m.here with
    | (place, .directory) => return (place, .directory)
    | _ => throw .notDirectory
  else
    let place ← placeOf m name
    match m.tree.find? place with
    | some e => return (place, e)
    | none => throw .noEntry

/-- What a name stands for, all links followed. -/
def resolve (m : Machine) (name : String) : Except Errno (Location × Entry) :=
  m.tree.resolve (decode name) m.here

/-- The path of a name in a directory. -/
def inside (directory name : String) : String :=
  if directory.endsWith "/" then directory ++ name else directory ++ "/" ++ name

/-- A path without slashes at its end. -/
def withoutLastSlashes (cs : List Char) : List Char :=
  (cs.reverse.dropWhile (· == '/')).reverse

/-- The last name of a path. -/
def basename (path : String) : String :=
  let cs := withoutLastSlashes path.toList
  if cs.isEmpty then (if path.isEmpty then "" else "/") else String.ofList (cs.reverse.takeWhile (· != '/')).reverse

/-- A name without an ending, unless it is nothing else. -/
def withoutSuffix (name suffix : String) : String :=
  if suffix.length < name.length && name.endsWith suffix then (name.dropEnd suffix.length).toString else name

/-- A path without its last name. -/
def dirname (path : String) : String :=
  let cs := withoutLastSlashes path.toList
  if cs.isEmpty then (if path.isEmpty then "." else "/")
  else
    let front := (cs.reverse.dropWhile (· != '/')).reverse
    if front.isEmpty then "."
    else
      let kept := withoutLastSlashes front
      if kept.isEmpty then "/" else String.ofList kept

/-- What is in a directory, at whatever depth, with the names on the way to it. -/
def below (t : FileTree) (place : Location) : List (Location × Entry) :=
  t.entries.filterMap fun (p, e) =>
    if p.length > place.length ∧ place.isPrefixOf p then some (p.drop place.length, e) else none

/-! ## Writing files -/

/-- Writes bytes to a file; the reason if that cannot be done. -/
def writeFile (file : String) (isExtended : Bool) (b : Bytes) : Action (Option Errno) := do
  let m ← get
  match Opening.special? m file with
  | some (m, number?) =>
    match number?.bind fun n => m.writeFile n b with
    | some m =>
      set m
      return none
    | none => return some (if file = "/dev/full" then .noSpace else .badDescriptor)
  | none =>
    match Opening.target m file with
    | .error e => return some e
    | .ok (place, found) =>
      let (old, executable) := found.getD (Bytes.empty, false)
      set (m.put place (.file (if isExtended then Bytes.concat [old, b] else b) executable))
      return none

/-- Writes characters to a file. -/
def writeText (file : String) (cs : List Char) : Action (Option Errno) :=
  writeFile file false (toBytes cs)

/-- Writes standard input to files too. -/
def tee (name : String) (arguments : List String) : Action Nat :=
  withOptions name (.of "aip" [("append", "a"), ("ignore-interrupts", "i"), ("output-error?", "p"),
    ("help", "help"), ("version", "version")]) true 1 arguments fun given files => do
    let mut status := 0
    let mut taking : List String := []
    for file in files do
      match ← if has given "a" then writeFile file true Bytes.empty else writeFile file false Bytes.empty with
      | none => taking := taking ++ [file]
      | some e =>
        complain name (Quotation.forShell file ++ ": " ++ e.description)
        status := 1
    match ← readInput with
    | .error u => giveUp name ("read error: " ++ u.description) 1
    | .ok b =>
      if !b.isEmpty then
        if let some e := ← put? b then
          complain name ("'standard output': " ++ e.description)
          status := 1
        for file in taking do
          if let some e := ← writeFile file (has given "a") b then
            complain name (Quotation.forShell file ++ ": " ++ e.description)
            status := 1
      return status

/-! ## Permissions -/

/-- Permissions as letters, behind one for the kind of file. -/
def modeLetters (e : Entry) (mode : Nat) : String :=
  let kind :=
    match e with
    | .directory => 'd'
    | .link _ => 'l'
    | .file _ _ => '-'
  let three (n : Nat) (special : Bool) (letter : Char) : List Char :=
    [if n / 4 % 2 = 1 then 'r' else '-', if n / 2 % 2 = 1 then 'w' else '-',
      if special then (if n % 2 = 1 then letter else letter.toUpper) else if n % 2 = 1 then 'x' else '-']
  String.ofList (kind :: three (mode / 64) (mode / 2048 % 2 = 1) 's' ++ three (mode / 8) (mode / 1024 % 2 = 1) 's' ++
    three mode (mode / 512 % 2 = 1) 't')

def changeModes (name : String) (arguments : List String) : Action Nat := do
  let isMode (a : String) : Bool :=
    match a.toList with
    | '-' :: c :: _ => "rwxXstugo,+-=01234567".toList.contains c && a ≠ "--"
    | _ => false
  let found := arguments.find? isMode
  let (mode?, others) :=
    match found with
    | some a => (some a, arguments.erase a)
    | none => (none, arguments)
  withOptions name (.of "Rcfv" [("recursive", "R"), ("changes", "c"), ("quiet", "f"), ("silent", "f"),
    ("verbose", "v"), ("reference=", "reference"), ("preserve-root", "preserve-root"),
    ("no-preserve-root", "no-preserve-root"), ("help", "help"), ("version", "version")]) true 1 others
    fun given operands => do
      let reference := value? given "reference"
      let (mode?, files) :=
        match mode?.or reference with
        | some a => (some a, operands)
        | none => (operands.head?, operands.drop 1)
      match mode? with
      | none => misuse name "missing operand" 1
      | some mode =>
        if files.isEmpty then misuse name ("missing operand after " ++ Quotation.quoted mode) 1
        else
          let m ← get
          let change? : Option (Bool → Nat → Nat → Nat) :=
            match reference with
            | some file => ((resolve m file).toOption).map fun (p, _) => fun _ _ _ => m.tree.mode p
            | none => modeChange? mode
          match change? with
          | none =>
            if reference.isSome then
              giveUp name ("failed to get attributes of " ++ Quotation.inShellQuotes mode ++
                ": No such file or directory") 1
            else misuse name ("invalid mode: " ++ Quotation.quoted mode) 1
          | some change =>
            let mut status := 0
            for file in files do
              match resolve (← get) file with
              | .error e =>
                if !has given "f" then
                  complain name ("cannot access " ++ Quotation.inShellQuotes file ++ ": " ++ e.description)
                status := 1
              | .ok (place, e) =>
                let m ← get
                let all := (place, e) ::
                  (if has given "R" then (below m.tree place).map fun (p, e) => (place ++ p, e) else [])
                let tree := all.foldl (fun (t : FileTree) (p, e) =>
                  match e with
                  | .link _ => t
                  | _ => t.setMode p (change (e matches .directory) m.mask (t.mode p))) m.tree
                let old := m.tree.mode place
                let new := tree.mode place
                set { m with tree := tree }
                let show_ (mode : Nat) : String :=
                  octalMode mode 4 ++ " (" ++ (modeLetters e mode |>.drop 1).toString ++ ")"
                if has given "v" || (has given "c" && old ≠ new) then
                  let text :=
                    if old = new then "mode of " ++ Quotation.inShellQuotes file ++ " retained as " ++ show_ new
                    else "mode of " ++ Quotation.inShellQuotes file ++ " changed from " ++ show_ old ++ " to " ++
                      show_ new
                  let _ ← put (toBytes (text ++ "\n").toList)
            return status

/-! ## Directories -/

/-- The paths of the directories on the way to one, and that one. -/
def pathsTo (name : String) : List String :=
  let cs := name.toList
  ((List.range cs.length).filterMap fun i =>
    let isEnd := cs[i]? != some '/' && (i + 1 = cs.length || cs[i + 1]? == some '/')
    if isEnd then some (String.ofList (cs.take (i + 1))) else none)

def makeDirectories (name : String) (arguments : List String) : Action Nat :=
  withOptions name (.of "pvm:Z" [("parents", "p"), ("verbose", "v"), ("mode=", "m"), ("context?", "Z"),
    ("help", "help"), ("version", "version")]) true 1 arguments fun given directories => do
    if directories.isEmpty then misuse name "missing operand" 1
    else
      match value? given "m", (value? given "m").bind modeChange? with
      | some mode, none => giveUp name ("invalid mode " ++ Quotation.quoted mode) 1
      | _, change? =>
        let make (path shown : String) : Action (Option String) := do
          let m ← get
          match placeOf m path with
          | .error e => return some e.description
          | .ok place =>
            if (m.tree.find? place).isSome then return some Errno.exists_.description
            else
              set (m.put place .directory)
              if has given "v" then
                let _ ← put (toBytes (name ++ ": created directory " ++ Quotation.inShellQuotes shown ++ "\n").toList)
              return none
        let mut status := 0
        for directory in directories do
          let mut fault? : Option (String × String) := none
          let mut isMade := false
          if has given "p" then
            for path in pathsTo directory do
              if fault?.isNone then
                match resolve (← get) path with
                | .ok (_, .directory) => isMade := false
                | .ok _ => fault? := some (path, if path = directory then "File exists" else "Not a directory")
                | .error _ =>
                  isMade := true
                  fault? := (← make path path).map fun e => (path, e)
          else
            isMade := true
            fault? := (← make directory directory).map fun e => (directory, e)
          match fault? with
          | some (path, reason) =>
            complain name ("cannot create directory " ++ Quotation.inShellQuotes path ++ ": " ++ reason)
            status := 1
          | none =>
            let m ← get
            match change?, placeOf m directory with
            | some change, .ok place =>
              if isMade then set { m with tree := m.tree.setMode place (change true m.mask 0o777) }
            | _, _ => pure ()
        return status

def removeDirectories (name : String) (arguments : List String) : Action Nat :=
  withOptions name (.of "pv" [("parents", "p"), ("path", "p"), ("verbose", "v"),
    ("ignore-fail-on-non-empty", "ignore"), ("help", "help"), ("version", "version")]) true 1 arguments
    fun given directories => do
      if directories.isEmpty then misuse name "missing operand" 1
      else
        let removeOne (path : String) : Action (Option Errno) := do
          let m ← get
          match entryOf m path with
          | .error e => return some e
          | .ok (place, .directory) =>
            if (below m.tree place).isEmpty then
              if basename path = "." then return some .invalid
              else
                set { m with tree := m.tree.remove place }
                return none
            else return some .notEmpty
          | .ok _ => return some .notDirectory
        let mut status := 0
        for directory in directories do
          let paths := if has given "p" then (pathsTo directory).reverse else [directory]
          let mut isGoing := true
          for path in paths do
            if isGoing then
              if has given "v" then
                let _ ← put (toBytes (name ++ ": removing directory, " ++ Quotation.inShellQuotes path ++ "\n").toList)
              match ← removeOne path with
              | none => pure ()
              | some e =>
                isGoing := false
                if !(e = .notEmpty ∧ has given "ignore") then
                  complain name ((if path = directory then "failed to remove " else "failed to remove directory ") ++
                    Quotation.inShellQuotes path ++ ": " ++ e.description)
                  status := 1
        return status

/-! ## Removing -/

def remove (name : String) (arguments : List String) : Action Nat :=
  withOptions name (.of "rRfidvI" [("recursive", "r"), ("force", "f"), ("interactive?", "i"), ("dir", "d"),
    ("verbose", "v"), ("one-file-system", "one"), ("preserve-root?", "preserve-root"),
    ("no-preserve-root", "no-preserve-root"), ("help", "help"), ("version", "version")]) true 1 arguments
    fun given files => do
      let isForced := (last? given ["f", "i"]).any fun g => g.option = "f"
      let isDeep := has given "r" || has given "R"
      if files.isEmpty && !isForced then misuse name "missing operand" 1
      else
        let mut status := 0
        for file in files do
          let m ← get
          let refuse (reason : String) : Action Unit :=
            complain name ("cannot remove " ++ Quotation.inShellQuotes file ++ ": " ++ reason)
          let gone (path : String) (isDirectory : Bool) : Action Unit := do
            if has given "v" then
              let what := if isDirectory then "removed directory " else "removed "
              let _ ← put (toBytes (what ++ Quotation.inShellQuotes path ++ "\n").toList)
          match entryOf m file with
          | .error e =>
            if !(isForced && (e = .noEntry || e = .notDirectory)) then
              refuse e.description
              status := 1
          | .ok (place, .directory) =>
            let last := basename file
            if (last = "." || last = "..") && isDeep then
              complain name ("refusing to remove '.' or '..' directory: skipping " ++ Quotation.inShellQuotes file)
              status := 1
            else if isDeep && place = System.root then
              complain name "it is dangerous to operate recursively on '/'"
              complain name "use --no-preserve-root to override this failsafe"
              status := 1
            else
              let inner := below m.tree place
              if isDeep || (has given "d" && inner.isEmpty) then
                set { m with tree := m.tree.remove place }
                for (p, e) in inner.reverse do
                  gone (inside file (encode ("/".intercalate p))) (e matches .directory)
                gone file true
              else
                refuse (if has given "d" then "Directory not empty" else "Is a directory")
                status := 1
          | .ok (place, _) =>
            set { m with tree := m.tree.remove place }
            gone file false
        return status

/-! ## Copying, moving and linking -/

/-- The names to copy, move or link, each with the name that it gets, or the reason why not. `noun` names a
file that is missing among the arguments. -/
def withDestinations (name : String) (given : List Options.Given) (operands : List String)
    (k : List (String × String) → Action Nat) : Action Nat := do
  let m ← get
  let isDirectory (s : String) : Option Errno :=
    match resolve m s with
    | .ok (_, .directory) => none
    | .ok _ => some .notDirectory
    | .error e => some e
  let into (directory : String) (files : List String) : Action Nat :=
    k (files.map fun f => (f, inside directory (basename f)))
  match value? given "t", operands with
  | _, [] => misuse name "missing file operand" 1
  | some directory, files =>
    match isDirectory directory with
    | none => into directory files
    | some e => giveUp name ("target directory " ++ Quotation.inShellQuotes directory ++ ": " ++ e.description) 1
  | none, [file] =>
    if name.endsWith "ln" then into "." [file]
    else misuse name ("missing destination file operand after " ++ Quotation.inShellQuotes file) 1
  | none, files =>
    let destination := files.getLastD ""
    let sources := files.dropLast
    if has given "T" then
      match sources with
      | [source] => k [(source, destination)]
      | _ => misuse name ("extra operand " ++ Quotation.inShellQuotes (files.getD 2 "")) 1
    else
      let isAvoided := has given "n" && name.endsWith "ln" && m.isLink destination
      match if isAvoided then some .notDirectory else isDirectory destination, sources with
      | none, sources => into destination sources
      | some _, [source] => k [(source, destination)]
      | some e, _ => giveUp name ("target " ++ Quotation.inShellQuotes destination ++ ": " ++ e.description) 1

/-- A tree with what is at one place also at another one. -/
def withCopy (m : Machine) (source target : Location) (e : Entry) : Machine :=
  let all := (target, source, e) :: (below m.tree source).map fun (p, e) => (target ++ p, source ++ p, e)
  all.foldl (fun (m' : Machine) (new, old, e) =>
    let isNew := (m'.tree.find? new).isNone
    let m' := { m' with tree := m'.tree.put new e }
    if isNew then
      { m' with tree := m'.tree.setMode new (m.tree.mode old - (m.tree.mode old &&& m.mask)) }
    else m') m

def copy (name : String) (arguments : List String) : Action Nat :=
  withOptions name (.of "abdfHilLnprst:uvxPRS:TZ" [("archive", "a"), ("backup?", "b"), ("force", "f"),
    ("interactive", "i"), ("link", "l"), ("dereference", "L"), ("no-clobber", "n"), ("no-dereference", "P"),
    ("no-target-directory", "T"), ("parents", "parents"), ("preserve?", "p"), ("no-preserve=", "no-preserve"),
    ("recursive", "r"), ("remove-destination", "remove"), ("reflink?", "reflink"), ("sparse=", "sparse"),
    ("strip-trailing-slashes", "strip"), ("symbolic-link", "s"), ("suffix=", "S"), ("target-directory=", "t"),
    ("update?", "u"), ("verbose", "v"), ("attributes-only", "attributes"), ("copy-contents", "contents"),
    ("one-file-system", "x"), ("help", "help"), ("version", "version")]) true 1 arguments fun given operands =>
    withDestinations name given operands fun pairs => do
      let isDeep := ["r", "R", "a"].any (has given)
      let keepsLinks := ["P", "d", "a"].any (has given) || (isDeep && !has given "L")
      let mut status := 0
      for (source, destination) in pairs do
        let m ← get
        let refuse (s : String) : Action Unit := complain name s
        match if keepsLinks then entryOf m source else resolve m source with
        | .error e =>
          refuse ("cannot stat " ++ Quotation.inShellQuotes source ++ ": " ++ e.description)
          status := 1
        | .ok (place, e) =>
          if e matches .directory && !isDeep then
            refuse ("-r not specified; omitting directory " ++ Quotation.inShellQuotes source)
            status := 1
          else
            let old := resolve m destination
            match if destination.endsWith "/" && !(e matches .directory) && old.toOption.isNone then
                .error .notDirectory
              else old.map (·.1) |>.orElseLazy fun _ => placeOf m destination with
            | .error reason =>
              refuse ("cannot create " ++ (if e matches .directory then "directory " else "regular file ") ++
                Quotation.inShellQuotes destination ++ ": " ++ reason.description)
              status := 1
            | .ok target =>
              let there := m.tree.find? target
              if target = place then
                refuse (Quotation.inShellQuotes source ++ " and " ++ Quotation.inShellQuotes destination ++
                  " are the same file")
                status := 1
              else if e matches .directory && place.isPrefixOf target then
                refuse ("cannot copy a directory, " ++ Quotation.inShellQuotes source ++ ", into itself, " ++
                  Quotation.inShellQuotes destination)
                status := 1
              else
                match e, there with
                | .directory, some (.file _ _) | .directory, some (.link _) =>
                  refuse ("cannot overwrite non-directory " ++ Quotation.inShellQuotes destination ++
                    " with directory " ++ Quotation.inShellQuotes source)
                  status := 1
                | .file _ _, some .directory | .link _, some .directory =>
                  refuse ("cannot overwrite directory " ++ Quotation.inShellQuotes destination ++
                    " with non-directory")
                  status := 1
                | e, there =>
                  let isKept := has given "n" && there.isSome && !(e matches .directory)
                  if !isKept then
                    if has given "s" then
                      set { m with tree := m.tree.put target (.link (decode source)) }
                    else
                      match e, there with
                      | .file content executable, some (.file _ old) =>
                        let kept := if ["p", "a"].any (has given) then executable else old
                        set { m with tree := m.tree.put target (.file content kept) }
                      | _, _ => set (withCopy m place target e)
                    if has given "v" then
                      let text := Quotation.inShellQuotes source ++ " -> " ++ Quotation.inShellQuotes destination
                      let _ ← put (toBytes (text ++ "\n").toList)
      return status

def move (name : String) (arguments : List String) : Action Nat :=
  withOptions name (.of "bfint:uvS:TZ" [("backup?", "b"), ("force", "f"), ("interactive", "i"),
    ("no-clobber", "n"), ("no-target-directory", "T"), ("strip-trailing-slashes", "strip"), ("suffix=", "S"),
    ("target-directory=", "t"), ("update?", "u"), ("verbose", "v"), ("help", "help"), ("version", "version")])
    true 1 arguments fun given operands =>
    withDestinations name given operands fun pairs => do
      let mut status := 0
      for (source, destination) in pairs do
        let m ← get
        match entryOf m source with
        | .error e =>
          complain name ("cannot stat " ++ Quotation.inShellQuotes source ++ ": " ++ e.description)
          status := 1
        | .ok (place, e) =>
          match if destination.endsWith "/" && !(e matches .directory) then .error .notDirectory
            else placeOf m destination with
          | .error reason =>
            complain name ("cannot move " ++ Quotation.inShellQuotes source ++ " to " ++
              Quotation.inShellQuotes destination ++ ": " ++ reason.description)
            status := 1
          | .ok target =>
            let there := m.tree.find? target
            if target = place then
              complain name (Quotation.inShellQuotes source ++ " and " ++ Quotation.inShellQuotes destination ++
                " are the same file")
              status := 1
            else if e matches .directory && place.isPrefixOf target then
              complain name ("cannot move " ++ Quotation.inShellQuotes source ++ " to a subdirectory of itself, " ++
                Quotation.inShellQuotes destination)
              status := 1
            else if !(has given "n" && there.isSome) then
              match e, there with
              | .directory, some (.file _ _) | .directory, some (.link _) =>
                complain name ("cannot overwrite non-directory " ++ Quotation.inShellQuotes destination ++
                  " with directory " ++ Quotation.inShellQuotes source)
                status := 1
              | .file _ _, some .directory | .link _, some .directory =>
                complain name ("cannot overwrite directory " ++ Quotation.inShellQuotes destination ++
                  " with non-directory")
                status := 1
              | _, _ =>
                if there matches some .directory && !(below m.tree target).isEmpty then
                  complain name ("cannot move " ++ Quotation.inShellQuotes source ++ " to " ++
                    Quotation.inShellQuotes destination ++ ": Directory not empty")
                  status := 1
                else
                  let all := (target, place, e) ::
                    (below m.tree place).map fun (p, e) => (target ++ p, place ++ p, e)
                  let tree := all.foldl (fun (t : FileTree) (new, old, e) =>
                    (t.put new e).setMode new (m.tree.mode old)) ((m.tree.remove target).remove place)
                  set { m with tree := tree }
                  if has given "v" then
                    let text := "renamed " ++ Quotation.inShellQuotes source ++ " -> " ++
                      Quotation.inShellQuotes destination
                    let _ ← put (toBytes (text ++ "\n").toList)
      return status

def link (name : String) (arguments : List String) : Action Nat :=
  withOptions name (.of "bdfFinLPrst:vS:T" [("backup?", "b"), ("directory", "d"), ("no-dereference", "n"),
    ("no-target-directory", "T"), ("force", "f"), ("interactive", "i"), ("suffix=", "S"),
    ("target-directory=", "t"), ("logical", "L"), ("physical", "P"), ("relative", "r"), ("symbolic", "s"),
    ("verbose", "v"), ("help", "help"), ("version", "version")]) true 1 arguments fun given operands =>
    withDestinations name given operands fun pairs => do
      let isSymbolic := has given "s"
      let kind := if isSymbolic then "symbolic link " else "hard link "
      let mut status := 0
      for (source, destination) in pairs do
        let m ← get
        let refuse (reason : String) : Action Unit :=
          complain name ("failed to create " ++ kind ++ Quotation.inShellQuotes destination ++
            (if isSymbolic then "" else " => " ++ Quotation.inShellQuotes source) ++ ": " ++ reason)
        match if isSymbolic then .ok ([], Entry.link (decode source)) else entryOf m source with
        | .error e =>
          complain name ("failed to access " ++ Quotation.inShellQuotes source ++ ": " ++ e.description)
          status := 1
        | .ok (_, .directory) =>
          complain name (Quotation.inShellQuotes source ++ ": hard link not allowed for directory")
          status := 1
        | .ok (old, e) =>
          match placeOf m destination with
          | .error e =>
            refuse e.description
            status := 1
          | .ok place =>
            match m.tree.find? place with
            | some there =>
              if has given "f" && there matches .directory then
                complain name (Quotation.inShellQuotes destination ++ ": cannot overwrite directory")
                status := 1
              else if has given "f" && (isSymbolic || old ≠ place) then
                set { m with tree := (m.tree.remove place).put place e }
              else
                complain name ("failed to create " ++ kind ++ Quotation.inShellQuotes destination ++ ": File exists")
                status := 1
            | none => set { m with tree := m.tree.put place e }
            if status = 0 && has given "v" then
              let text := Quotation.inShellQuotes destination ++ (if isSymbolic then " -> " else " => ") ++
                Quotation.inShellQuotes source
              let _ ← put (toBytes (text ++ "\n").toList)
      return status

def touch (name : String) (arguments : List String) : Action Nat :=
  withOptions name (.of "acd:fhmr:t:" [("time=", "time"), ("no-create", "c"), ("date=", "d"), ("reference=", "r"),
    ("no-dereference", "h"), ("help", "help"), ("version", "version")]) true 1 arguments fun given files => do
    if files.isEmpty then misuse name "missing file operand" 1
    else
      let mut status := 0
      for file in files do
        let m ← get
        match resolve m file with
        | .ok _ => pure ()
        | .error e =>
          match Opening.target m file with
          | .ok (place, _) =>
            if e = .noEntry then
              if !has given "c" then set (m.put place (.file Bytes.empty false))
            else
              complain name ("cannot touch " ++ Quotation.inShellQuotes file ++ ": " ++ e.description)
              status := 1
          | .error e' =>
            if !(has given "c" && e = .noEntry) then
              let reason := if e' = .isDirectory ∧ !file.endsWith "/" then e else if file.endsWith "/" then .noEntry else e'
              complain name ((if file.endsWith "/" then "setting times of " else "cannot touch ") ++
                Quotation.inShellQuotes file ++ ": " ++ reason.description)
              status := 1
      return status

/-! ## Temporary files -/

/-- The characters that stand in the names of temporary files. -/
def randomLetters : List Char :=
  "abcdefghijklmnopqrstuvwxyzABCDEFGHIJKLMNOPQRSTUVWXYZ0123456789".toList

/-- A name for the place marks of a template, by a number. -/
def spelled : (length n : Nat) → List Char
  | 0, _ => []
  | length + 1, n => randomLetters.getD (n % 62) 'a' :: spelled length (n / 62 + 7 * n + 11)

def makeTemporary (name : String) (arguments : List String) : Action Nat :=
  withOptions name (.of "dp:qtuV" [("directory", "d"), ("quiet", "q"), ("dry-run", "u"), ("suffix=", "suffix"),
    ("tmpdir?", "p"), ("help", "help"), ("version", "version")]) true 1 arguments fun given operands => do
    let m ← get
    let home := ((m.environment.find? fun v => v.1 = "TMPDIR" && v.2 ≠ "").map (·.2)).getD "/tmp"
    match operands with
    | _ :: _ :: _ => misuse name "too many templates" 1
    | _ =>
      let directory? :=
        if has given "t" then some home
        else if has given "p" then some (((value? given "p").filter (· ≠ "")).getD home)
        else if operands.isEmpty then some home
        else none
      let template := operands.headD "tmp.XXXXXXXXXX"
      let cs := template.toList
      let suffix := (value? given "suffix").getD
        (String.ofList (cs.reverse.takeWhile (· != 'X')).reverse)
      let front := if has given "suffix" then cs else cs.take (cs.length - suffix.length)
      let marks := (front.reverse.takeWhile (· == 'X')).length
      if has given "suffix" && front.getLast? ≠ some 'X' then
        giveUp name ("with --suffix, template " ++ Quotation.quoted template ++ " must end in X") 1
      else if marks < 3 then giveUp name ("too few X's in template " ++ Quotation.quoted template) 1
      else if has given "t" && template.toList.contains '/' then
        giveUp name ("invalid template, " ++ Quotation.quoted template ++ ", contains directory separator") 1
      else
        let path (n : Nat) : String :=
          let file := String.ofList (front.take (front.length - marks) ++ spelled marks n) ++ suffix
          match directory? with
          | some d => inside d file
          | none => file
        let n := ((List.range (m.tree.entries.length + 1)).find? fun n => (resolve m (path (m.processes + n))).toOption.isNone).getD 0
        let chosen := path (m.processes + n)
        let shown :=
          match directory? with
          | some d => inside d template
          | none => template
        let refuse (e : Errno) : Action Nat := do
          if has given "q" then return 1
          else
            giveUp name ("failed to create " ++ (if has given "d" then "directory" else "file") ++ " via template " ++
              Quotation.quoted shown ++ ": " ++ e.description) 1
        match placeOf m chosen with
        | .error e => refuse e
        | .ok place =>
          if !has given "u" then
            let e := if has given "d" then Entry.directory else .file Bytes.empty false
            let tree := (m.tree.put place e).setMode place (if has given "d" then 0o700 else 0o600)
            set { m with tree := tree }
          finish name 1 (chosen ++ "\n").toList 0

end Utility

end AddonAtlas.Shell
