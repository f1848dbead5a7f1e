import AddonAtlas.Shell.Condition
import AddonAtlas.Shell.Expansion

/-!
# Redirections

What redirections do to the descriptors of a command: they open files to read or to write, copy descriptors
and close them. A name may stand for a device or for a descriptor.
-/

namespace AddonAtlas.Shell

open Shell.Action

namespace Machine

/-- The machine with an entry at a place. What is new there gets the permissions that new entries get. -/
def put (m : Machine) (place : Location) (e : Entry) : Machine :=
  let isNew := (m.tree.find? place).isNone
  let tree := m.tree.put place e
  let withheld (mode : Nat) : Nat := mode - (mode &&& m.mask)
  let tree :=
    if isNew then
      match e with
      | .directory => tree.setMode place (withheld 0o777)
      | .file _ executable => tree.setMode place (withheld (if executable then 0o777 else 0o666))
      | .link _ => tree
    else tree
  { m with tree := tree }

end Machine

/-- A file that a redirection is about to open, or another change of a descriptor. -/
inductive Opening
  | input (name : String)
  | create (name : String) (replaces : Bool)
  | extend (name : String)
  | both (name : String)
  | copy (descriptor : Nat)
  | close
  | document (number : Nat)
  /-- A text to be read. -/
  | text (s : String)

namespace Opening

/-- The open file for a name, if the name stands for a device or for a descriptor. -/
def special? (m : Machine) (name : String) : Option (Machine × Option Nat) :=
  let descriptor (n : Nat) : Option (Machine × Option Nat) := some (m, m.fileNumber? n)
  match name with
  | "/dev/null" =>
    let (m, n) := m.withFile ⟨some Bytes.empty, true, some .nowhere, 0, []⟩
    some (m, some n)
  | "/dev/zero" =>
    let (m, n) := m.withFile ⟨some (Bytes.ofList (List.replicate 65536 0)), true, some .nowhere, 0, []⟩
    some (m, some n)
  | "/dev/full" =>
    let (m, n) := m.withFile ⟨some (Bytes.ofList (List.replicate 65536 0)), true, some .full, 0, []⟩
    some (m, some n)
  | "/dev/stdin" | "/dev/fd/0" => descriptor 0
  | "/dev/stdout" | "/dev/fd/1" => descriptor 1
  | "/dev/stderr" | "/dev/fd/2" => descriptor 2
  | _ =>
    let digits := (name.toList.drop "/dev/fd/".length)
    if name.startsWith "/dev/fd/" && !digits.isEmpty && digits.all isDigit then
      (m.fileNumber? (Arithmetic.digitsOf 10 digits).1).map fun n => (m, some n)
    else none

/-- The place of a file that is to be written, and the file there if there is one. -/
def target (m : Machine) (name : String) : Except Errno (Location × Option (Bytes × Bool)) := do
  let path := decode name
  if path = "" then throw .noEntry
  let place ← m.tree.fileAt FileTree.maxLinks (FileTree.origin path m.here) (FileTree.names path)
  match m.tree.find? place with
  | some (.file content executable) => return (place, some (content, executable))
  | _ => return (place, none)

/-- The place of a file that is to be read, and the file. -/
def source (m : Machine) (name : String) : Except Errno (Location × Option (Bytes × Bool)) := do
  match ← m.tree.resolve (decode name) m.here with
  | (place, .file content executable) => return (place, some (content, executable))
  | _ => throw .isDirectory

/-- Why a file cannot be opened or created. -/
def reason (creating : Bool) : Errno → String
  | .noEntry | .notDirectory => if creating then "Directory nonexistent" else "No such file"
  | e => e.description

/-- Refuses a redirection with a message of the script's dialect. -/
def refuse {α : Type} (plainMessage wideMessage : String) : Action α := do
  if (← get).isWide then
    complainPlainly wideMessage
    modify fun m => { m with status := 1 }
    throw .failure
  else fail plainMessage

/-- Opens a file; the number of what was opened. -/
def openNamed (creating : Bool) (name : String) (change : Bytes → Bytes)
    (make : Location → Bytes → OpenFile) : Action (Option Nat) := do
  let m ← get
  match special? m name with
  | some (m, n) =>
    set m
    return n
  | none =>
    match if creating then target m name else source m name with
    | .error e =>
      refuse ((if creating then "cannot create " else "cannot open ") ++ name ++ ": " ++ reason creating e)
        (name ++ ": " ++ e.description)
    | .ok (place, found) =>
      if !creating && found.isNone then
        refuse ("cannot open " ++ name ++ ": No such file") (name ++ ": No such file or directory")
      else
        let (content, executable) := found.getD (Bytes.empty, false)
        let content := change content
        let m := if creating then m.put place (.file content executable) else m
        let (m, n) := m.withFile (make place content)
        set m
        return some n

/-- Opens what a redirection asks for; the number of what was opened, if a descriptor is to lead to it. -/
def perform (capture : Capture) (o : Opening) : Action (Option Nat) := do
  match o with
  | .input name =>
    let m ← get
    match special? m name, m.find? name with
    | none, some (.directory _) =>
      let (m, n) := m.withFile ⟨none, true, none, 0, []⟩
      set m
      return some n
    | _, _ => openNamed false name id fun _ content => OpenFile.ofContent content
  | .create name replaces =>
    let m ← get
    if !replaces && m.hasOption 'C' && (special? m name).isNone && (m.find? name).any Found.isFile then
      refuse ("cannot create " ++ name ++ ": File exists") (name ++ ": cannot overwrite existing file")
    openNamed true name (fun _ => Bytes.empty) fun place _ => OpenFile.writing (.file place false)
  | .extend name => openNamed true name id fun place _ => OpenFile.writing (.file place true)
  | .both name =>
    openNamed true name id fun place content => ⟨some content, true, some (.file place false), 0, []⟩
  | .copy d =>
    match (← get).fileNumber? d with
    | some n => return some n
    | none => refuse (toString d ++ ": Bad file descriptor") (toString d ++ ": Bad file descriptor")
  | .close => return none
  | .document number =>
    let text ← Expansion.document capture ((← get).documents.getD number [])
    let (m, n) := (← get).withFile (OpenFile.reading (toBytes text.toList))
    set m
    return some n
  | .text s =>
    let (m, n) := (← get).withFile (OpenFile.reading (toBytes s.toList))
    set m
    return some n

/-- How a word of a redirection is shown in messages. -/
def shownWord : Word → String
  | [] => ""
  | .parameter name .value _ _ :: rest => "$" ++ name ++ shownWord rest
  | .plain s :: rest | .literal s :: rest => s ++ shownWord rest
  | .double inner :: rest => "\"" ++ shownWord inner ++ "\"" ++ shownWord rest
  | _ :: rest => shownWord rest

/-- What a redirection asks for, its words expanded. -/
def ofRedirection (capture : Capture) : Redirection → Action (Nat × Opening)
  | .make d target => do
    let text (w : Word) : Action String := do
      if (← get).isWide then
        match ← Expansion.texts capture w with
        | [s] => return s
        | _ => refuse "" (shownWord w ++ ": ambiguous redirect")
      else Expansion.text capture w
    match target with
    | .input w => return (d, .input (← text w))
    | .create w replaces => return (d, .create (← text w) replaces)
    | .extend w => return (d, .extend (← text w))
    | .both w => return (d, .both (← text w))
    | .copy n => return (d, .copy n)
    | .close => return (d, .close)
    | .document n => return (d, .document n)
    | .text w => return (d, .text ((← Expansion.text capture w) ++ "\n"))
    | .copyNamed w =>
      let s ← text w
      match s.toList with
      | ['-'] => return (d, .close)
      | c :: cs =>
        if (← get).isWide && (c :: cs).all isDigit then return (d, .copy (Arithmetic.digitsOf 10 (c :: cs)).1)
        else if cs.isEmpty && isDigit c then return (d, .copy (c.toNat - 48))
        else bad w
      | [] => bad w
where
  /-- A descriptor has to be named by a digit. -/
  bad {α : Type} (w : Word) : Action α := do
    if (← get).isWide then refuse "" (shownWord w ++ ": ambiguous redirect")
    modify fun m => { m with line := m.readLine }
    fail "Syntax error: Bad fd number"

/-- Changes descriptors as redirections ask for. -/
def performAll (capture : Capture) (openings : List (Nat × Opening)) :
    Action Unit :=
  openings.forM fun (d, o) => do
    let number? ← perform capture o
    modify fun m => m.point d number?

end Opening

end AddonAtlas.Shell
