import AddonAtlas.Shell.Expansion
import AddonAtlas.Shell.Utility.Extraction.Functions

/-!
# Scopes of extraction programs

At the end of a block its names are forgotten, what it saved comes back, and what was matched before it counts
again. A command that is started knows the table of the environment.
-/

namespace AddonAtlas.Shell

namespace Utility

open Shell.Action

namespace Extraction

open AddonAtlas.Shell.Extraction

/-! ## Blocks -/

/-- Brings back what was saved. -/
def bringBack : Saved → Running Unit
  | .value p (some v) => store p v
  | .value (.entry n key) none => changeTable n fun h => h.erase key
  | .value p none => store p .nothing
  | .list n vs => setList n vs
  | .table n h => setTable n h

/-- Saves something up to the end of the block. -/
def keep (x : Saved) : Running Unit :=
  modify fun s => { s with saved := x :: s.saved }

/-- Runs something in a block of its own, which begins with a change. -/
def inBlockWith {α : Type} (enter : Session → Session) (r : Running α) : Running α := do
  let s ← get
  let names := s.names
  let depth := s.depth
  let saved := s.saved
  let found := s.found
  let calls := s.calls
  let wantsList := s.wantsList
  set (enter { s with depth := depth + 1, saved := [] })
  let result ← outcome r
  for x in (← get).saved do bringBack x
  modify fun s =>
    { s with names := names, depth := depth, saved := saved, found := found, calls := calls, wantsList := wantsList }
  match result with
  | .ok a => return a
  | .error h => throw h

def inBlock {α : Type} (r : Running α) : Running α :=
  inBlockWith (fun s => s) r

/-- Runs something with a value in a place, which gets back what it had. -/
def withCell {α : Type} (n : Nat) (r : Running α) : Running α := do
  let old ← cell n
  let result ← outcome r
  setCell n old
  match result with
  | .ok a => return a
  | .error h => throw h

/-! ## Special names -/

/-- Whether a name may stand for a part of the last match or for the state of the program. -/
def isSpecialName (name : String) : Bool :=
  match name.toList with
  | [] => false
  | [c] => c ≠ '0' && isDigit c || "&'+!.".toList.contains c || c.toNat = 96
  | c :: _ => isDigit c

/-- The value with a name. -/
def namedValue (name : String) : Running Value := do
  if isSpecialName name then
    if let some v ← special? name then return v
  cell (← numberOfName .scalar name)

/-- The number of the place with a name for the whole program. -/
def globalNumber (k : Kind) (name : String) : Running Nat := do
  let names := (← get).names
  modify fun s => { s with names := [] }
  let n ← numberOfName k name
  modify fun s => { s with names := names }
  return n

/-- Where the last match, or one of its groups, begins or ends. -/
def foundBound (atEnd : Bool) (n : Int) : Running Value := do
  match (← get).found with
  | none => return .nothing
  | some f =>
    if n = 0 then return ofNat (if atEnd then f.finish else f.start)
    else
      match f.groups.find? fun g => (g.1 : Int) = n with
      | some (_, i, j) => return ofNat (if atEnd then j else i)
      | none => return .nothing

/-- What the group with a name took. -/
def foundName (name : String) : Running Value := do
  match (← get).found with
  | none => return .nothing
  | some f =>
    for (x, n) in f.names do
      if x = name then
        let v ← group n
        if v.isGiven then return v
    return .nothing

/-! ## Values -/

/-- Whether two values are the same without looking at what they stand for. -/
def isSame : Value → Value → Bool
  | .nothing, .nothing => true
  | .integer m, .integer n => m = n
  | .real x, .real y => x == y
  | .text s, .text u => s = u
  | .place m, .place n | .list m, .list n | .table m, .table n | .procedure m, .procedure n => m = n
  | .handle s, .handle u => s = u
  | _, _ => false

/-- The table of keys and values that follow each other. -/
def hashOf : Hash → List Value → Hash
  | h, [] => h
  | h, [key] => h.insert key.toText .nothing
  | h, key :: v :: rest => hashOf (h.insert key.toText v) rest

/-- The keys and values of a table, one after the other. -/
def flattened (h : Hash) : List Value :=
  h.entries.flatMap fun (key, v) => [.text key, v]

/-- The place of a number in a list; a negative one counts from the end. -/
def settled? (size : Nat) (i : Int) : Option Nat :=
  if 0 ≤ i then some i.toNat else if 0 ≤ (size : Int) + i then some ((size : Int) + i).toNat else none

/-- The name of an open file that a value stands for. -/
def handleOf (v : Value) : String :=
  match v with
  | .handle name => name
  | v =>
    let s := v.toText
    let s := if s.startsWith "*" then (s.drop 1).toString else s
    if s.startsWith "main::" then (s.drop 6).toString else s

/-- A text as a number of a date, with the zone that the machine is in. -/
def presentSeconds : Running Int := do
  return Dates.present + ((← doing MonadState.get).time / 1000 : Nat)

/-- A fault by its number. -/
def faultOf (n : Nat) : Nat × String :=
  let known : List Errno := [.noEntry, .argumentsTooLong, .badFormat, .notPermitted, .exists_, .notDirectory, .isDirectory,
    .nameTooLong, .tooManyLinks, .badDescriptor, .invalid, .noSpace, .notEmpty]
  (n, ((known.find? fun e => e.number = n).elim (if n = 0 then "" else "Unknown error " ++ toString n) (·.description)))

/-- What the program does at a signal, or at a message, of a name. -/
def handlerOf (name : String) : Running Value := do
  match (← get).globals["%SIG"]? with
  | some n => return ((← tableAt n).get? name).getD .nothing
  | none => return .nothing

/-! ## Commands and files -/

/-- Runs something that starts commands, with the environment that the program has made. -/
def withEnvironment {α : Type} (r : Running α) : Running α := do
  match (← get).globals["%ENV"]? with
  | none => r
  | some n =>
    let entries := (← tableAt n).entries
    let bindings := (← doing MonadState.get).bindings
    doing (modify fun m =>
      let m := m.environment.foldl (fun m (name, _) =>
        if entries.any fun e => e.1 = name then m else m.dropVariable name) m
      entries.foldl (fun m (name, v) =>
        if m.environment.any fun e => e.1 = name && e.2 = v.toText then m
        else m.setVariable name (Variable.of (some v.toText) true false)) m)
    let result ← outcome r
    doing (modify fun m => { m with bindings := bindings })
    match result with
    | .ok a => return a
    | .error h => throw h

/-- The paths that the patterns in a text stand for. -/
def pathsOf (m : Machine) (s : String) : List Value :=
  let patterns := (s.toList.splitOnP Arithmetic.isSpace).filter (!·.isEmpty)
  let plain : Machine := { m with options := m.options.filter (· ≠ 'f') }
  (patterns.flatMap alternatives).flatMap fun cs =>
    let f : Field := cs.map fun c => (c, false)
    if Glob.isUnmatched plain f then [] else (Glob.expand plain f).map Value.text
where
  /-- The patterns that one with braces stands for. -/
  alternatives (cs : List Char) : List (List Char) :=
    go (cs.length + 1) cs
  go : (fuel : Nat) → List Char → List (List Char)
    | 0, cs => [cs]
    | fuel + 1, cs =>
      let front := cs.takeWhile (· ≠ '\x7b')
      match cs.drop front.length with
      | [] => [cs]
      | _ :: rest =>
        let inner := rest.takeWhile (· ≠ '\x7d')
        match rest.drop inner.length with
        | [] => [cs]
        | _ :: behind => (inner.splitOn ',').flatMap fun part => go fuel (front ++ part ++ behind)

/-- The names in a directory. -/
def directoryNames (m : Machine) (name : String) : Except Errno (List String) :=
  match resolve m name with
  | .ok (place, .directory) => .ok ([".", ".."] ++ (m.tree.children place).map encode)
  | .ok _ => .error .notDirectory
  | .error e => .error e

/-- What is known about a file: numbers of its device and itself, its mode, its owners, its size and its
times. -/
def fileFacts (m : Machine) (name : String) (follows : Bool) : List Value :=
  match if follows then resolve m name else entryOf m name with
  | .error _ => []
  | .ok (_, e) =>
    let (mode, size) : Nat × Nat :=
      match e with
      | .directory => (0o40755, 4096)
      | .file b isExecutable => (if isExecutable then 0o100755 else 0o100644, b.size)
      | .link target => (0o120777, target.utf8ByteSize)
    [2049, 131072, mode, 1, 0, 0, 0, size, 1767225600, 1767225600, 1767225600, 4096, (size + 511) / 512].map ofNat

/-- Takes options from the arguments: letters, behind which a colon says that a value belongs to them. -/
def takeOptions (letters : List Char) (give : String → Value → Running Unit) : (fuel : Nat) → (isFit : Bool) →
    List String → Running (Bool × List String)
  | 0, isFit, arguments => return (isFit, arguments)
  | fuel + 1, isFit, arguments => do
    match arguments with
    | [] => return (isFit, [])
    | a :: rest =>
      if a = "--" then return (isFit, rest)
      else
        match a.toList with
        | '-' :: c :: more =>
          match letters.idxOf? c with
          | some i =>
            if letters[i + 1]? = some ':' then
              let (v, rest) : Value × List String :=
                if more.isEmpty then ((rest.head?.map Value.text).getD .nothing, rest.drop 1)
                else (.text (String.ofList more), rest)
              give (String.singleton c) v
              takeOptions letters give fuel isFit rest
            else
              give (String.singleton c) (.integer 1)
              takeOptions letters give fuel isFit (if more.isEmpty then rest else String.ofList ('-' :: more) :: rest)
          | none =>
            doing (say ("Unknown option: " ++ String.singleton c ++ "\n"))
            takeOptions letters give fuel false (if more.isEmpty then rest else String.ofList ('-' :: more) :: rest)
        | _ => return (isFit, arguments)

/-- What a procedure of a common module answers: names in paths, the directory of the program, and options. -/
def knownProcedure (name : String) (vs : List Value) : Running (Option Value) := do
  let s := (vs.headD .nothing).toText
  match name with
  | "basename" =>
    let base := Utility.basename s
    let suffix := (vs.drop 1).find? fun v => base.endsWith v.toText && base ≠ v.toText
    return some (.text ((suffix.map fun v => (base.dropEnd v.toText.length).toString).getD base))
  | "dirname" => return some (.text (Utility.dirname s))
  | "getopts" =>
    let l ← globalNumber .list "ARGV"
    let arguments := (← listAt l).toList.map Value.toText
    let size := (arguments.map String.length).sum + arguments.length + 1
    let give (name : String) (v : Value) : Running Unit := do
      match vs.getD 1 Value.nothing with
      | .table n => changeTable n fun h => h.insert name v
      | _ => setGlobal ("opt_" ++ name) v
    let (isFit, rest) ← takeOptions s.toList give size true arguments
    setList l (rest.map Value.text).toArray
    return some (ofBool isFit)
  | "cwd" | "getcwd" => return some (.text (encode (Builtin.pathOf (← doing MonadState.get).here)))
  | _ => return none

end Extraction

end Utility

end AddonAtlas.Shell
