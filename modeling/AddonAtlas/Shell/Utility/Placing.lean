import AddonAtlas.Shell.Utility.Files

/-!
# Programs that put files in place

Files are cut off or filled up to a size, get another name or lose one, and are copied with the directories on
the way to them.
-/

namespace AddonAtlas.Shell

namespace Utility

open Shell.Action

/-! ## Sizes -/

/-- A size in relation to another one. -/
structure SizeChange where
  relation : Option Char
  amount : Nat

/-- The change that a text asks for: a number, behind a sign for a relation or not. -/
def sizeChange? (s : String) : Option SizeChange :=
  let cs := s.toList.dropWhile Arithmetic.isSpace
  match cs with
  | c :: rest =>
    if "+-<>/%".toList.contains c then (amount? rest).map fun n => ⟨some c, n⟩
    else (amount? cs).map fun n => ⟨none, n⟩
  | [] => none

/-- The new size of a file, by its size or that of another file. -/
def SizeChange.apply (c : SizeChange) (base : Nat) : Nat :=
  match c.relation with
  | some '+' => base + c.amount
  | some '-' => base - c.amount
  | some '<' => min base c.amount
  | some '>' => max base c.amount
  | some '/' => base / c.amount * c.amount
  | some '%' => (base + c.amount - 1) / c.amount * c.amount
  | _ => c.amount

/-- Cuts files off, or fills them up with NULs. -/
def resize (name : String) (arguments : List String) : Action Nat :=
  withOptions name (.of "cor:s:" [("no-create", "c"), ("io-blocks", "o"), ("reference=", "r"), ("size=", "s"),
    ("help", "help"), ("version", "version")]) true 1 arguments fun given files => do
      let asked := (value? given "s").map fun s => (s, sizeChange? s)
      let reference := value? given "r"
      match asked, reference with
      | some (s, none), _ => giveUp name ("Invalid number: " ++ Quotation.quoted s) 1
      | none, none =>
        misuse name ("you must specify either " ++ Quotation.quoted "--size" ++ " or " ++
          Quotation.quoted "--reference") 1
      | some (_, some ⟨none, _⟩), some _ =>
        misuse name ("you must specify a relative " ++ Quotation.quoted "--size" ++ " with " ++
          Quotation.quoted "--reference") 1
      | _, _ =>
        let change := (asked.bind (·.2)).getD ⟨some '+', 0⟩
        let change := if has given "o" then { change with amount := change.amount * 4096 } else change
        let divides := change.relation = some '/' ∨ change.relation = some '%'
        if divides ∧ change.amount = 0 then giveUp name "division by zero" 1
        else if has given "o" && asked.isNone then
          misuse name (Quotation.quoted "--io-blocks" ++ " was specified but " ++ Quotation.quoted "--size" ++
            " was not") 1
        else if files.isEmpty then misuse name "missing file operand" 1
        else
          let m ← get
          let base? : Except Errno (Option Nat) :=
            match reference with
            | none => .ok none
            | some file =>
              match resolve m file with
              | .ok (_, .file b _) => .ok (some b.size)
              | .ok _ => .ok (some 4096)
              | .error e => .error e
          match base? with
          | .error e =>
            giveUp name ("cannot stat " ++ Quotation.inShellQuotes (reference.getD "") ++ ": " ++ e.description) 1
          | .ok base? =>
            let mut status := 0
            for file in files do
              let m ← get
              let refuse (e : Errno) : Action Unit :=
                complain name ("cannot open " ++ Quotation.inShellQuotes file ++ " for writing: " ++ e.description)
              if !(has given "c" && (resolve m file matches .error .noEntry)) then
                match Opening.target m file with
                | .error e =>
                  refuse e
                  status := 1
                | .ok (_, found) =>
                  let old := (found.map (·.1)).getD Bytes.empty
                  let size := change.apply (base?.getD old.size)
                  let new := Bytes.concat [old.take size, Bytes.ofList (List.replicate (size - old.size) 0)]
                  if let some e := ← writeFile file false new then
                    refuse e
                    status := 1
            return status

/-! ## Names -/

/-- Gives a file a second name. -/
def linkOnce (name : String) (arguments : List String) : Action Nat :=
  withOptions name (.of "" [("help", "help"), ("version", "version")]) true 1 arguments fun _ operands => do
    match operands with
    | [] => misuse name "missing operand" 1
    | [one] => misuse name ("missing operand after " ++ Quotation.quoted one) 1
    | _ :: _ :: extra :: _ => misuse name ("extra operand " ++ Quotation.quoted extra) 1
    | [source, target] =>
      let m ← get
      let refuse (e : Errno) : Action Nat :=
        giveUp name ("cannot create link " ++ Quotation.inShellQuotes target ++ " to " ++
          Quotation.inShellQuotes source ++ ": " ++ e.description) 1
      match entryOf m source, placeOf m target with
      | .error e, _ | _, .error e => refuse e
      | .ok (_, e), .ok place =>
        if (m.tree.find? place).isSome then refuse .exists_
        else if e matches .directory then refuse .notPermitted
        else
          set { m with tree := m.tree.put place e }
          return 0

/-- Takes a file's name away. -/
def unlinkOnce (name : String) (arguments : List String) : Action Nat :=
  withOptions name (.of "" [("help", "help"), ("version", "version")]) true 1 arguments fun _ operands => do
    match operands with
    | [] => misuse name "missing operand" 1
    | _ :: extra :: _ => misuse name ("extra operand " ++ Quotation.quoted extra) 1
    | [file] =>
      let m ← get
      let refuse (e : Errno) : Action Nat :=
        giveUp name ("cannot unlink " ++ Quotation.inShellQuotes file ++ ": " ++ e.description) 1
      match entryOf m file with
      | .error e => refuse e
      | .ok (_, .directory) => refuse .isDirectory
      | .ok (place, _) =>
        set { m with tree := m.tree.remove place }
        return 0

/-- Makes the directories on the way to a path, as far as they are not there. -/
def makeWay (path : String) : Action Unit := do
  for p in pathsTo path do
    let m ← get
    if (m.find? p).isNone then
      if let .ok place := placeOf m p then set { m with tree := m.tree.put place .directory }

/-- Copies files with other permissions, or makes directories. -/
def install (name : String) (arguments : List String) : Action Nat :=
  withOptions name (.of "bcCsDdg:m:o:pt:TvS:Z" [("backup?", "b"), ("compare", "C"), ("directory", "d"), ("group=", "g"),
    ("mode=", "m"), ("owner=", "o"), ("preserve-timestamps", "p"), ("strip", "s"), ("target-directory=", "t"),
    ("no-target-directory", "T"), ("verbose", "v"), ("suffix=", "S"), ("help", "help"), ("version", "version")]) true 1
    arguments fun given operands => do
      let mode := (value? given "m").getD "755"
      match modeChange? mode with
      | none => giveUp name ("invalid mode " ++ Quotation.quoted mode) 1
      | some change =>
        if has given "d" then
          if operands.isEmpty then misuse name "missing file operand" 1
          else
            for d in operands do
              let isNew := ((← get).find? d).isNone
              makeWay d
              if isNew && has given "v" then
                let _ ← put (toBytes ("install: creating directory " ++ Quotation.inShellQuotes d ++ "\n").toList)
            return 0
        else
          if has given "D" then
            match value? given "t", operands with
            | some d, _ => makeWay d
            | none, [_, target] => makeWay (dirname target)
            | none, _ => pure ()
          withDestinations name given operands fun pairs => do
            let mut status := 0
            for (source, target) in pairs do
              let m ← get
              match resolve m source with
              | .error e =>
                complain name ("cannot stat " ++ Quotation.inShellQuotes source ++ ": " ++ e.description)
                status := 1
              | .ok (_, .directory) =>
                complain name ("omitting directory " ++ Quotation.inShellQuotes source)
                status := 1
              | .ok (_, e) =>
                match placeOf m target with
                | .error e =>
                  complain name ("cannot create regular file " ++ Quotation.inShellQuotes target ++ ": " ++
                    e.description)
                  status := 1
                | .ok place =>
                  let tree := (m.tree.remove place).put place e
                  set { m with tree := tree.setMode place (change false 0 0) }
                  if has given "v" then
                    let text := Quotation.inShellQuotes source ++ " -> " ++ Quotation.inShellQuotes target
                    let _ ← put (toBytes (text ++ "\n").toList)
            return status

/-! ## Owners -/

/-- The names of owners. -/
def ownerNames : List String :=
  ["root", "daemon", "bin", "sys", "sync", "games", "man", "lp", "mail", "news", "uucp", "proxy", "www-data", "backup",
    "list", "irc", "_apt", "nobody"]

/-- The names of groups of owners. -/
def groupNames : List String :=
  ["root", "daemon", "bin", "sys", "adm", "tty", "disk", "lp", "mail", "news", "uucp", "man", "proxy", "kmem",
    "dialout", "fax", "voice", "cdrom", "floppy", "tape", "sudo", "audio", "dip", "www-data", "backup", "operator",
    "list", "irc", "src", "shadow", "utmp", "video", "sasl", "plugdev", "staff", "games", "users", "nogroup"]

/-- Gives files an owner or a group. That it is another one is not seen by any program. -/
def changeOwners (program name : String) (arguments : List String) : Action Nat :=
  withOptions name (.of "cfhHLPRv" [("changes", "c"), ("silent", "f"), ("quiet", "f"), ("verbose", "v"),
    ("dereference", "d"), ("no-dereference", "h"), ("from=", "from"), ("no-preserve-root", "root"),
    ("preserve-root", "root"), ("reference=", "reference"), ("recursive", "R"), ("help", "help"), ("version", "version")])
    true 1 arguments fun given operands => do
      let isGroup := program = "chgrp"
      let hasReference := has given "reference"
      let owner := if hasReference then "root" else operands.headD ""
      let files := if hasReference then operands else operands.drop 1
      if files.isEmpty then
        misuse name (if operands.isEmpty then "missing operand" else "missing operand after " ++ Quotation.quoted owner) 1
      else
        let isKnown (names : List String) (s : String) : Bool := s.isEmpty || names.contains s || s.toList.all isDigit
        let parts := owner.splitOn ":"
        let user := if isGroup then "" else parts.headD ""
        let group := if isGroup then owner else ":".intercalate (parts.drop 1)
        if !isKnown ownerNames user then giveUp name ("invalid user: " ++ Quotation.quoted owner) 1
        else if !isKnown groupNames group then giveUp name ("invalid group: " ++ Quotation.quoted owner) 1
        else
          let mut status := 0
          for file in files do
            match resolve (← get) file with
            | .ok _ => pure ()
            | .error e =>
              if !has given "f" then complain name ("cannot access " ++ Quotation.inShellQuotes file ++ ": " ++ e.description)
              status := 1
          return status

end Utility

end AddonAtlas.Shell
