import AddonAtlas.FileTree.ReadBuffer
import AddonAtlas.Shell.Edit.Reading
import AddonAtlas.Shell.Utility.Files
import AddonAtlas.Shell.Utility.Starting

/-!
# Editing files by a script

Files are read line by line, and a script is carried out for each line. What a script writes goes to standard
output, to other files, or to a new content for the file that is read. A line without an end owes its end to
what is written behind it.
-/

namespace AddonAtlas.Shell

namespace Utility

open Shell.Action

namespace EditStream

/-! ## Sessions -/

/-- How files are edited. -/
structure Manner where
  isSilent : Bool
  /-- Whether each file has line numbers and a last line of its own. -/
  isSeparate : Bool
  /-- The ending under which old contents are kept, if files get new contents. -/
  suffix? : Option String
  /-- Whether only what is common to all such programs is done. -/
  isPlain : Bool
  /-- Whether no more is read than is needed. -/
  isSparing : Bool
  /-- The character at the end of lines. -/
  ending : Char
  width : Nat

/-- A text, and whether there is an end of line behind it. -/
structure Space where
  text : List Char
  isEnded : Bool

/-- What is written when the next line is read. -/
inductive Addition
  | text (cs : List Char)
  | file (name : String)

/-- What was written, the last piece first, and whether an end of line is owed. -/
structure Written where
  pieces : List (List Char)
  isOwing : Bool

/-- Adds a text, behind the end of line that is owed. -/
def Written.add (w : Written) (ending : Char) (cs : List Char) (isEnded : Bool) : Written :=
  ⟨cs :: (if w.isOwing then [ending] :: w.pieces else w.pieces), !isEnded⟩

def Written.text (w : Written) : List Char :=
  w.pieces.reverse.flatten

/-- How far lines from one to another have come. -/
inductive Progress
  | before
  /-- They go on, up to a number if one is known. -/
  | within (last : Option Nat)
  | behind

/-- A file that is read. -/
structure Reading where
  name : String
  rest : List Char
  /-- Why it cannot be read, if it cannot. -/
  fault? : Option Errno
  /-- How many characters it had. -/
  size : Nat
  /-- The place that gets a new content. -/
  place? : Option (Location × Bool)

structure Session where
  line : Space
  held : Space
  number : Nat
  /-- Whether something was replaced lately. -/
  isReplaced : Bool
  /-- The expression that was used last. -/
  last? : Option Expression
  additions : List Addition
  progress : Array Progress
  current? : Option Reading
  name : String
  files : List String
  /-- Whether the next file starts anew. -/
  startsAnew : Bool
  standard : Written
  edited : Written
  /-- The files that the script writes, as open files, with whether they are owed an end of line. -/
  outlets : List (String × Nat × Bool)
  /-- The files that are read line by line on their own. -/
  sources : List (String × List Char)
  isBad : Bool

/-- Edits; it may be given up with a status. -/
abbrev Editing := ExceptT Nat (StateT Session Action)

/-- Where something is written. -/
inductive Target
  | main
  | file (name : String)

/-- What the end of a script, or a step of it, leads to. -/
inductive Course
  | onwards
  | at_ (place : Nat)
  /-- The line is finished and written. -/
  | finished
  /-- The line is done away with. -/
  | dropped
  /-- The script begins again without another line. -/
  | again
  | quit (status : Nat)

/-- What an edit consists of. -/
structure Task where
  name : String
  command : Starter
  manner : Manner
  script : Edit.Script

namespace Task

/-- An action of the program. -/
def run {α : Type} (a : Action α) : Editing α :=
  liftM a

/-- Complains and gives up. -/
def abandon {α : Type} (t : Task) (message : String) (status : Nat) : Editing α := do
  run (complain t.name message)
  throw status

/-! ## Writing -/

/-- Writes to one of the files of the script. -/
def writeTo (t : Task) (name : String) (cs : List Char) (isEnded : Bool) : Editing Unit := do
  let s ← get
  match s.outlets.find? fun o => o.1 = name with
  | none => return
  | some (_, number, isOwing) =>
    let text := if isOwing then t.manner.ending :: cs else cs
    let m ← run MonadState.get
    match m.writeFile number (toBytes text) with
    | some m => run (MonadState.set m)
    | none =>
      t.abandon ("couldn't flush " ++ name ++ ": " ++
        ((m.files[number]?).elim Errno.badDescriptor OpenFile.writeFault).description) 4
    modify fun s => { s with outlets := s.outlets.map fun o => if o.1 = name then (name, number, !isEnded) else o }

/-- Writes a text. -/
def write (t : Task) (target : Target) (cs : List Char) (isEnded : Bool) : Editing Unit := do
  let ending := t.manner.ending
  match target with
  | .main =>
    modify fun s =>
      if t.manner.suffix?.isSome && s.current?.isSome then { s with edited := s.edited.add ending cs isEnded }
      else { s with standard := s.standard.add ending cs isEnded }
  | .file "/dev/stdout" =>
    modify fun s =>
      let isOwing := s.outlets.any fun o => o.1 = "/dev/stdout" && o.2.2
      let text := if isOwing then ending :: cs else cs
      { s with
        standard := { s.standard with pieces := text :: s.standard.pieces }
        outlets := s.outlets.map fun o => if o.1 = "/dev/stdout" then (o.1, o.2.1, !isEnded) else o }
  | .file name => t.writeTo name cs isEnded

/-- Writes a line. -/
def writeLine (t : Task) (target : Target) (l : Space) : Editing Unit :=
  t.write target (if l.isEnded then l.text ++ [t.manner.ending] else l.text) l.isEnded

/-- Writes what is to stand behind the last line. -/
def writeAdditions (t : Task) : Editing Unit := do
  let additions := (← get).additions
  modify fun s => { s with additions := [] }
  for a in additions do
    match a with
    | .text cs => t.write .main cs true
    | .file name =>
      let found ← run (readFile name)
      t.write .main ((found.toOption.map charactersOf).getD []) true

/-! ## Reading -/

/-- Puts the new content of a file in its place. -/
def replaceContent (t : Task) (r : Reading) : Editing Unit := do
  match r.place?, t.manner.suffix? with
  | some (place, executable), some suffix =>
    let s ← get
    let m ← run MonadState.get
    let m :=
      if suffix.isEmpty then m
      else
        let base := basename r.name
        let kept := if suffix.toList.contains '*' then base.intercalate (suffix.splitOn "*") else base ++ suffix
        let kept := if kept.toList.contains '/' then kept else inside (dirname r.name) kept
        match placeOf m kept, m.tree.find? place with
        | .ok other, some e => { m with tree := (m.tree.put other e).setMode other (m.tree.mode place) }
        | _, _ => m
    let mode := m.tree.mode place
    let isLink :=
      match m.tree.find? place with
      | some (.link _) => true
      | _ => false
    let tree := m.tree.put place (.file (toBytes s.edited.text) executable)
    run (MonadState.set { m with tree := if isLink then tree else tree.setMode place mode })
    set { s with edited := ⟨[], false⟩ }
  | _, _ => return

/-- Closes the file that is read. What is left of standard input is given back. -/
def close (t : Task) : Editing Unit := do
  let s ← get
  match s.current? with
  | none => return
  | some r =>
    t.replaceContent r
    modify fun s => { s with current? := none, startsAnew := t.manner.isSeparate }
    if r.name = "-" && r.place?.isNone && r.fault?.isNone then
      let m ← run MonadState.get
      let taken := r.size - r.rest.length
      let taken :=
        if m.isInputSeekable || t.manner.isSparing then taken
        else (taken + ReadBuffer.page - 1) / ReadBuffer.page * ReadBuffer.page
      run (MonadState.set (m.returnInput (toBytes (r.rest.drop (taken - (r.size - r.rest.length))))))

/-- Opens the next file, which may fail. -/
def open_ (t : Task) : Editing Unit := do
  match (← get).files with
  | [] => return
  | file :: rest =>
    modify fun s => { s with files := rest, name := file }
    let isInPlace := t.manner.suffix?.isSome
    let m ← run MonadState.get
    match ← run (if isInPlace then readFile file else read file) with
    | .ok b =>
      let cs := charactersOf b
      if isInPlace then
        match placeOf m file, m.find? file with
        | .ok place, some (.file _ _ executable) =>
          modify fun s => { s with current? := some ⟨file, cs, none, cs.length, some (place, executable)⟩ }
        | _, _ => t.abandon ("couldn't edit " ++ file ++ ": not a regular file") 4
      else modify fun s => { s with current? := some ⟨file, cs, none, cs.length, none⟩ }
    | .error (.opening e) =>
      run (complain t.name ("can't read " ++ file ++ ": " ++ e.description))
      modify fun s => { s with isBad := true }
    | .error (.reading e) =>
      if isInPlace then t.abandon ("couldn't edit " ++ file ++ ": not a regular file") 4
      modify fun s => { s with current? := some ⟨file, [], some e, 0, none⟩ }

/-- Begins another file when each file is edited by itself. -/
def startAnew (t : Task) : Editing Unit := do
  if (← get).startsAnew then
    modify fun s =>
      { s with
        number := 0
        held := ⟨[], true⟩
        progress := firstProgress t.script
        sources := []
        startsAnew := false
        standard := if s.standard.isOwing && !t.manner.isPlain then s.standard.add t.manner.ending [] true else s.standard }
where
  /-- The lines from 0 on have begun at the start. -/
  firstProgress (script : Edit.Script) : Array Progress :=
    script.instructions.map fun i =>
      match i.address with
      | some (.line 0) => .within none
      | _ => .before

/-- Takes the next line from what is read: behind the line before, or in its place. -/
def fetch (t : Task) (isAdded : Bool) : (fuel : Nat) → Editing Bool
  | 0 => return false
  | fuel + 1 => do
    let s ← get
    match s.current? with
    | none =>
      if s.files.isEmpty then return false
      t.startAnew
      t.open_
      fetch t isAdded fuel
    | some r =>
      match r.fault?, r.rest with
      | some e, _ =>
        t.abandon ("read error on " ++ (if r.name = "-" then "stdin" else r.name) ++ ": " ++ e.description) 4
      | none, [] =>
        t.close
        fetch t isAdded fuel
      | none, cs =>
        let found := cs.takeWhile (· != t.manner.ending)
        let rest := cs.drop found.length
        let text := if isAdded then s.line.text ++ found else found
        set
          { s with
            line := ⟨text, !rest.isEmpty || t.manner.isPlain⟩
            number := s.number + 1
            current? := some { r with rest := rest.drop 1 } }
        return true

/-- Reads the next line, if there is one. -/
def readLine (t : Task) (isAdded : Bool) : Editing Bool := do
  t.writeAdditions
  modify fun s => { s with isReplaced := false, line := if isAdded then s.line else { s.line with text := [] } }
  t.fetch isAdded (2 * (← get).files.length + 3)

/-- Whether none of the files that are left holds anything. Those in front of the one that does are over
then. -/
def isExhausted (t : Task) : (fuel : Nat) → Editing Bool
  | 0 => return true
  | fuel + 1 => do
    t.close
    if (← get).files.isEmpty then return true
    t.open_
    match (← get).current? with
    | some r => if r.rest.isEmpty then isExhausted t fuel else return false
    | none => isExhausted t fuel

/-- Whether there is no other line. -/
def isAtEnd (t : Task) : Editing Bool := do
  let s ← get
  match s.current? with
  | some r => if !r.rest.isEmpty then return false
  | none => pure ()
  if t.manner.isSeparate then return true else t.isExhausted (s.files.length + 1)

/-! ## Lines that are meant -/

/-- The expression that is meant, which is used last from then on. -/
def expression (t : Task) (e : Option Expression) : Editing Expression := do
  match e.or (← get).last? with
  | some e =>
    modify fun s => { s with last? := some e }
    return e
  | none => 
    t.abandon ("-e expression #" ++ toString t.script.expressions ++ ", char 0: no previous regular expression") 1

def holds (t : Task) (a : Edit.Address) : Editing Bool := do
  let s ← get
  match a with
  | .line n => return s.number = n
  | .last => t.isAtEnd
  | .every first step => return first ≤ s.number && (s.number - first) % step = 0
  | .matching e =>
    let e ← t.expression e
    return e.isIn (Expression.subject s.line.text)

/-- Whether the line is among those that begin with an address, after a first one was found. -/
def begins (t : Task) (place : Nat) (a : Edit.Address) (u : Edit.Until) : Editing Bool := do
  let number := (← get).number
  let advance (p : Progress) : Editing Unit := modify fun s => { s with progress := s.progress.setIfInBounds place p }
  let upTo (last : Nat) : Editing Bool := do
    if last ≤ number && !t.manner.isPlain then
      advance .behind
      match a with
      | .line n => return number = n || number ≤ last
      | _ => return true
    else
      advance (.within (some last))
      return true
  match u with
  | .address (.line n) => upTo n
  | .further n =>
    if n = 0 then upTo number
    else
      advance (.within (some (number + n)))
      return true
  | .multiple n =>
    if n = 0 then upTo number
    else
      advance (.within (some ((number / n + 1) * n)))
      return true
  | .address b =>
    match b with
    | .every _ _ | .last =>
      if ← t.holds b then upTo number
      else
        advance (.within none)
        return true
    | _ =>
      advance (.within none)
      return true

/-- Whether an instruction is for the line. -/
def isMeant (t : Task) (place : Nat) (i : Edit.Instruction) : Editing Bool := do
  match i.address, i.until_ with
  | none, _ => return true
  | some a, none => t.holds a
  | some a, some u =>
    let s ← get
    let finish : Editing Unit := modify fun s => { s with progress := s.progress.setIfInBounds place .behind }
    match s.progress.getD place .before, u with
    | .within (some last), u =>
      if last ≤ s.number then finish
      -- A line that was passed by another order is the end of lines that are counted.
      return s.number ≤ last || !(u matches .address _)
    | .within none, .address b =>
      if ← t.holds b then finish
      return true
    | p, _ =>
      let isFound ←
        match a, p with
        | .line _, .behind => pure false
        | .line n, _ => pure (n ≤ s.number)
        | a, _ => t.holds a
      if isFound then t.begins place a u else return false

/-! ## Orders -/

/-- A text shown without anything hidden, in lines of a width. -/
def shown (ending : Char) (width : Nat) (cs : List Char) : List Char :=
  let sign (c : Char) : List Char :=
    match c with
    | '\\' => ['\\', '\\']
    | '\x07' => ['\\', 'a']
    | '\x08' => ['\\', 'b']
    | '\x0c' => ['\\', 'f']
    | '\n' => ['\\', 'n']
    | '\r' => ['\\', 'r']
    | '\t' => ['\\', 't']
    | '\x0b' => ['\\', 'v']
    | c =>
      if Quotation.isPrintable c then [c]
      else
        let n := c.toNat
        ['\\', Char.ofNat (48 + n / 64), Char.ofNat (48 + n / 8 % 8), Char.ofNat (48 + n % 8)]
  let (done, _) := cs.foldl (fun ((done : List (List Char)), column) c =>
    let s := sign c
    if 0 < width && width - 1 < column + s.length then (s :: ['\\', ending] :: done, s.length)
    else (s :: done, column + s.length)) ([], 0)
  (['$', ending] :: done).reverse.flatten

/-- The text up to the end of its first line, and what stands behind that. -/
def firstLine (t : Task) (cs : List Char) : List Char × Option (List Char) :=
  let found := cs.takeWhile (· != t.manner.ending)
  match cs.drop found.length with
  | [] => (found, none)
  | _ :: rest => (found, some rest)

/-- The next line of a file that is read on its own. -/
def nextOf (t : Task) (file : String) : Editing (Option (List Char)) := do
  let s ← get
  let content ←
    match s.sources.find? fun x => x.1 = file with
    | some (_, cs) => pure cs
    | none =>
      let found ← run (readFile file)
      pure ((found.toOption.map charactersOf).getD [])
  let (line, rest) := t.firstLine content
  modify fun s => { s with sources := (file, rest.getD []) :: s.sources.filter fun x => x.1 ≠ file }
  if content.isEmpty then return none
  else return some (if rest.isSome then line ++ [t.manner.ending] else line)

/-- The output of a command line without the end of its last line. -/
def commandOutput (t : Task) (line : List Char) : Editing (List Char) := do
  let (cs, _) ← run (outputOf t.command line)
  return bare t.manner.ending cs

def substitute (t : Task) (u : Edit.Substitution) : Editing Unit := do
  let e ← t.expression u.pattern
  let s ← get
  let text := s.line.text.toArray
  let (result, isFound) := Edit.substitute u e text (text.size + 2) 0 1 false
  if isFound then
    set { s with line := { s.line with text := result }, isReplaced := true }
    if u.printsBefore then t.writeLine .main (← get).line
    if u.isRun then
      let output ← t.commandOutput result
      modify fun s => { s with line := { s.line with text := output } }
    if u.prints then t.writeLine .main (← get).line
    if let some file := u.file then t.writeLine (.file file) (← get).line

/-- Carries out an order that stands at a place. -/
def order (t : Task) (place : Nat) (o : Edit.Order) : Editing Course := do
  let s ← get
  let ending := t.manner.ending
  let jump (label : String) : Course :=
    if label.isEmpty then .finished else .at_ ((t.script.find? label).getD t.script.instructions.size)
  match o with
  | .nothing | .label _ | .block _ => return .onwards
  | .substitute u => t.substitute u
  | .transliterate pairs =>
    let change (c : Char) : Char := ((pairs.find? fun p => p.1 = c).map (·.2)).getD c
    set { s with line := { s.line with text := s.line.text.map change } }
  | .delete => return .dropped
  | .deleteFirst =>
    match t.firstLine s.line.text with
    | (_, none) => return .dropped
    | (_, some rest) =>
      set { s with line := { s.line with text := rest } }
      return .again
  | .print => t.writeLine .main s.line
  | .printFirst =>
    let (line, rest) := t.firstLine s.line.text
    t.writeLine .main ⟨line, rest.isSome || s.line.isEnded⟩
  | .quit isSilent status =>
    if !isSilent then
      if !t.manner.isSilent then t.writeLine .main s.line
      t.write .main [] true
      t.writeAdditions
    return .quit status
  | .number => t.write .main ((toString s.number).toList ++ [ending]) true
  | .name => t.write .main (s.name.toList ++ [ending]) true
  | .show_ width => t.write .main (shown ending (width.getD t.manner.width) s.line.text) true
  | .append text => modify fun s => { s with additions := s.additions ++ [.text text] }
  | .insert text => t.write .main (text.dropLast ++ [ending]) true
  | .change text =>
    match s.progress.getD place .before with
    | .within _ => pure ()
    | _ => t.write .main (text.dropLast ++ [ending]) true
    return .dropped
  | .next =>
    let isLast ← t.isAtEnd
    if isLast && t.manner.isPlain then return .dropped
    if isLast then return .finished
    if !t.manner.isSilent then t.writeLine .main s.line
    if !(← t.readLine false) then return .dropped
  | .join =>
    if ← t.isAtEnd then return (if t.manner.isPlain then .dropped else .finished)
    else
      modify fun s => { s with line := { s.line with text := s.line.text ++ [ending] } }
      if !(← t.readLine true) then return .finished
  | .hold => set { s with held := s.line }
  | .holdMore => set { s with held := ⟨s.held.text ++ ending :: s.line.text, s.line.isEnded⟩ }
  | .fetch => set { s with line := s.held }
  | .fetchMore => set { s with line := ⟨s.line.text ++ ending :: s.held.text, s.held.isEnded⟩ }
  | .exchange => set { s with line := s.held, held := s.line }
  | .clear => set { s with line := { s.line with text := [] } }
  | .readFile file => modify fun s => { s with additions := s.additions ++ [.file file] }
  | .readLine file =>
    if let some cs := ← t.nextOf file then
      modify fun s => { s with additions := s.additions ++ [.text cs] }
  | .writeLine file => t.writeLine (.file file) s.line
  | .writeFirst file =>
    let (line, rest) := t.firstLine s.line.text
    t.writeLine (.file file) ⟨line, rest.isSome || s.line.isEnded⟩
  | .run [] =>
    let output ← t.commandOutput s.line.text
    modify fun s => { s with line := ⟨output, true⟩ }
  | .run command =>
    let (cs, _) ← run (outputOf t.command (bare '\n' command))
    t.write .main cs true
  | .jump .always label => return jump label
  | .jump .ifReplaced label =>
    if s.isReplaced then
      set { s with isReplaced := false }
      return jump label
  | .jump .ifNothingReplaced label =>
    if !s.isReplaced then return jump label
    set { s with isReplaced := false }
  return .onwards

/-- Carries out the script for a line, from an instruction on. -/
def carryOut (t : Task) : (fuel : Nat) → (place : Nat) → Editing Course
  | 0, _ => run hang
  | fuel + 1, place => do
    match t.script.instructions[place]? with
    | none => return .finished
    | some i =>
      if (← t.isMeant place i) != i.isInverted then
        match ← t.order place i.order with
        | .onwards => carryOut t fuel (place + 1)
        | .at_ place => carryOut t fuel place
        | course => return course
      else
        match i.order with
        | .block orders => carryOut t fuel (place + orders + 1)
        | _ => carryOut t fuel (place + 1)

/-- How many instructions are carried out for a line before it is taken that there is no end. -/
def maxSteps : Nat := 1000000

/-- Edits line after line; answers the status. `isKept` says that no other line is read first. -/
def edit (t : Task) : (fuel : Nat) → (isKept : Bool) → Editing Nat
  | 0, _ => run hang
  | fuel + 1, isKept => do
    let isThere ← if isKept then pure true else t.readLine false
    if !isThere then return 0
    match ← t.carryOut maxSteps 0 with
    | .quit status => return status
    | .again =>
      t.writeAdditions
      edit t fuel true
    | .dropped => edit t fuel false
    | _ =>
      if !t.manner.isSilent then t.writeLine .main (← get).line
      edit t fuel false

/-- Opens the files that the script writes to. -/
def openOutlets (t : Task) : List String → Editing Unit
  | [] => return
  | file :: rest => do
    let s ← get
    if file = "/dev/stdout" then modify fun s => { s with outlets := (file, 1, false) :: s.outlets }
    else if !(s.outlets.any fun o => o.1 = file) then
      let m ← run MonadState.get
      match Opening.special? m file with
      | some (m, number?) =>
        run (MonadState.set m)
        modify fun s => { s with outlets := (number?.map fun n => (file, n, false)).toList ++ s.outlets }
      | none =>
        match Opening.target m file with
        | .error e => t.abandon ("couldn't open file " ++ file ++ ": " ++ e.description) 4
        | .ok (place, found) =>
          let m := m.put place (.file Bytes.empty ((found.map (·.2)).getD false))
          let (m, number) := m.withFile (OpenFile.writing (.file place false))
          run (MonadState.set m)
          modify fun s => { s with outlets := (file, number, false) :: s.outlets }
    openOutlets t rest

/-- Edits files and writes what is left to be written. -/
def all (t : Task) (files : List String) : Action Nat := do
  let start : Session :=
    { line := ⟨[], true⟩
      held := ⟨[], true⟩
      number := 0
      isReplaced := false
      last? := none
      additions := []
      progress := startAnew.firstProgress t.script
      current? := none
      name := "-"
      files := if files.isEmpty then ["-"] else files
      startsAnew := false
      standard := ⟨[], false⟩
      edited := ⟨[], false⟩
      outlets := []
      sources := []
      isBad := false }
  let body : Editing Nat := do
    t.openOutlets t.script.files
    if let some label := t.script.missingLabel? then
      t.abandon ("can't find label for jump to " ++ Edit.quoted label) 4
    let status ← t.edit maxSteps false
    t.close
    return if (← get).isBad then 2 else status
  let (result, s) ← body.run.run start
  let status :=
    match result with
    | .ok status => status
    | .error status => status
  let text := s.standard.text
  if text.isEmpty then return status
  match ← put? (toBytes text) with
  | none => return status
  | some e => giveUp t.name ("couldn't flush stdout: " ++ e.description) 4

end Task

/-! ## Arguments -/

/-- How the program is used. -/
def usage (name : String) : String :=
  "Usage: " ++ name ++ " [OPTION]... \x7bscript-only-if-no-other-script\x7d [input-file]...\n\n" ++
  "  -n, --quiet, --silent\n                 suppress automatic printing of pattern space\n" ++
  "      --debug\n                 annotate program execution\n" ++
  "  -e script, --expression=script\n                 add the script to the commands to be executed\n" ++
  "  -f script-file, --file=script-file\n" ++
  "                 add the contents of script-file to the commands to be executed\n" ++
  "  --follow-symlinks\n                 follow symlinks when processing in place\n" ++
  "  -i[SUFFIX], --in-place[=SUFFIX]\n                 edit files in place (makes backup if SUFFIX supplied)\n" ++
  "  -l N, --line-length=N\n                 specify the desired line-wrap length for the " ++ Edit.quoted "l" ++
  " command\n" ++
  "  --posix\n                 disable all GNU extensions.\n" ++
  "  -E, -r, --regexp-extended\n                 use extended regular expressions in the script\n" ++
  "                 (for portability use POSIX -E).\n" ++
  "  -s, --separate\n                 consider files as separate rather than as a single,\n" ++
  "                 continuous long stream.\n" ++
  "      --sandbox\n                 operate in sandbox mode (disable e/r/w commands).\n" ++
  "  -u, --unbuffered\n                 load minimal amounts of data from the input files and flush\n" ++
  "                 the output buffers more often\n" ++
  "  -z, --null-data\n                 separate lines by NUL characters\n" ++
  "      --help     display this help and exit\n      --version  output version information and exit\n\n" ++
  "If no -e, --expression, -f, or --file option is given, then the first\n" ++
  "non-option argument is taken as the sed script to interpret.  All\n" ++
  "remaining arguments are names of input files; if no input files are\n" ++
  "specified, then the standard input is read.\n\n" ++
  "GNU sed home page: <https:" ++ "//www.gnu.org/software/sed/>.\n" ++
  "General help using GNU software: <https:" ++ "//www.gnu.org/gethelp/>.\n"

def options : Options.Table :=
  .of "bsnrzuEe:f:l:i::s" [("binary", "b"), ("regexp-extended", "r"), ("debug", "debug"), ("in-place?", "i"),
    ("expression=", "e"), ("file=", "f"), ("line-length=", "l"), ("null-data", "z"), ("zero-terminated", "z"),
    ("quiet", "n"), ("posix", "posix"), ("silent", "n"), ("sandbox", "sandbox"), ("separate", "s"),
    ("unbuffered", "u"), ("version", "version"), ("help", "help"), ("follow-symlinks", "follow")]

/-- The texts of the script that options give, or the file that cannot be read. -/
def textsOf : (isExtended : Bool) → List Options.Given → Action (List Edit.ScriptText × Option (String × Errno))
  | _, [] => return ([], none)
  | isExtended, g :: rest => do
    let value := g.value.getD ""
    match g.option with
    | "E" | "r" => textsOf true rest
    | "e" =>
      let (texts, fault?) ← textsOf isExtended rest
      return (⟨none, value.toList, isExtended⟩ :: texts, fault?)
    | "f" =>
      match ← read value with
      | .ok b =>
        let (texts, fault?) ← textsOf isExtended rest
        return (⟨some value, charactersOf b, isExtended⟩ :: texts, fault?)
      | .error u => return ([], some (value, u.errno))
    | _ => textsOf isExtended rest

end EditStream

/-- Edits files, or standard input, by a script. -/
def edit (command : Starter) (name : String) (arguments : List String) : Action Nat := do
  let r := Options.read EditStream.options true arguments
  let given := r.options
  let refuse (message : String) (status : Nat) : Action Nat := giveUp name message status
  let isExtended := has given "E" || has given "r"
  let (texts, missing?) ← EditStream.textsOf false given
  let hasTexts := (given.any fun g => g.option = "e" || g.option = "f")
  let (texts, files) :=
    if hasTexts then (texts, r.operands)
    else ((r.operands.take 1).map fun s => ⟨none, s.toList, isExtended⟩, r.operands.drop 1)
  let script := Edit.Script.read texts
  let refuseScript (f : Edit.Script.Fault) : Action Nat := do
    for file in f.files do
      if let some e := ← writeText file [] then
        return ← refuse ("couldn't open file " ++ file ++ ": " ++ e.description) 4
    refuse f.message 1
  match (if hasTexts then script else .ok ⟨#[], false, [], 0⟩), missing?, r.fault? with
  | .error fault, _, _ => refuseScript fault
  | .ok _, some (file, e), _ => refuse ("couldn't open file " ++ file ++ ": " ++ e.description) 4
  | .ok _, none, some fault =>
    complain name fault
    say (EditStream.usage name)
    return 1
  | .ok _, none, none =>
    if has given "help" then
      finish name 4 (EditStream.usage name ++ "E-mail bug reports to: <bug-sed@gnu.org>.\n").toList 0
    else if has given "version" then finish name 4 "sed (GNU sed) 4.9\n".toList 0
    else if texts.isEmpty then
      say (EditStream.usage name)
      return 1
    else
      match script with
      | .error fault => refuseScript fault
      | .ok script =>
        let inPlace := last? given ["i"]
        if inPlace.isSome && files.isEmpty then refuse "no input files" 4
        else
          let manner : EditStream.Manner :=
            { isSilent := has given "n" || script.isSilent
              isSeparate := has given "s" || inPlace.isSome
              suffix? := inPlace.map fun g => g.value.getD ""
              isPlain := has given "posix"
              isSparing := has given "u"
              ending := lineEnd given
              width := ((value? given "l").map fun s => (Arithmetic.digitsOf 10 (s.toList.takeWhile isDigit)).1).getD 70 }
          EditStream.Task.all ⟨name, command, manner, script⟩ files

end Utility

end AddonAtlas.Shell
