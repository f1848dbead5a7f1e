import AddonAtlas.Shell.Utility.Extraction.Session

/-!
# Files of extraction programs

Lines are read from files, from commands and from standard input, or from all files that are named by the
arguments, one after the other. What is written to standard output waits until enough has come together, a
command is started or the program ends.
-/

namespace AddonAtlas.Shell

namespace Utility

open Shell.Action

namespace Extraction

open AddonAtlas.Shell.Extraction

/-! ## Writing -/

/-- How much is written at a time. -/
def bufferSize : Nat := 8192

/-- Writes what waits for standard output, but for so many characters. -/
def flushBut (kept : Nat) : Running Unit := do
  let s ← get
  if !s.pending.isEmpty then
    let cs := (String.join s.pending.reverse).toList
    let n := cs.length - kept
    set { s with pending := if kept = 0 then [] else [String.ofList (cs.drop n)], pendingLength := kept }
    let _ ← doing (put? (toBytes (cs.take n)))

def flush : Running Unit :=
  flushBut 0

def handle? (name : String) : Running (Option Handle) := do
  return (← get).handles.lookup name

def setHandle (name : String) (h : Handle) : Running Unit :=
  modify fun s => { s with handles := (name, h) :: s.handles.filter fun x => x.1 ≠ name }

/-- Writes a text to an open file; whether that can be done. -/
def writeTo (name text : String) : Running Bool := do
  match ← handle? name with
  | none => return false
  | some h =>
    match h.channel with
    | .standardOutput =>
      modify fun s => { s with pending := text :: s.pending, pendingLength := s.pendingLength + text.length }
      let isDirect := (← global "|").isTrue
      let n := (← get).pendingLength
      if isDirect then flush else if bufferSize ≤ n then flushBut (n % bufferSize)
      return true
    | .standardErrors =>
      doing (say text)
      return true
    | .output number =>
      let m ← doing MonadState.get
      match m.writeFile number (toBytes text.toList) with
      | some m =>
        doing (MonadState.set m)
        return true
      | none => return false
    | .command line pieces =>
      setHandle name { h with channel := .command line (text :: pieces) }
      return true
    | .memory n =>
      setCell n (.text ((← cell n).toText ++ text))
      return true
    | _ => return false

/-! ## Reading -/

/-- Takes standard input. -/
def takeInput : Running (List Char) := do
  match ← doing readInput with
  | .ok b => return charactersOf b
  | .error _ => return []

/-- What is left of an open file. -/
def restOf (name : String) : Running (Option (List Char)) := do
  match ← handle? name with
  | none => return none
  | some h =>
    match h.channel with
    | .input rest => return some rest
    | .standardInput =>
      let cs ← takeInput
      setHandle name { h with channel := .input cs }
      return some cs
    | _ => return none

/-- The first record of a text, and what is behind it. Records end with a text; without one there is a single
record, and with an empty one records end with empty lines. -/
def record (separator : Option String) (cs : List Char) : List Char × List Char :=
  match separator with
  | none => (cs, [])
  | some s =>
    match s.toList with
    | [] =>
      let cs := cs.dropWhile (· = '\n')
      let (front, behind) := upTo ['\n', '\n'] [] cs
      (front, behind.dropWhile (· = '\n'))
    | [c] =>
      let front := cs.takeWhile (· ≠ c)
      match cs.drop front.length with
      | d :: behind => (front ++ [d], behind)
      | [] => (front, [])
    | mark => upTo mark [] cs
where
  /-- The text up to a mark, with it, and what is behind that. -/
  upTo (mark : List Char) : (done : List Char) → List Char → List Char × List Char
    | done, [] => (done.reverse, [])
    | done, c :: rest =>
      if mark.isPrefixOf (c :: rest) then (done.reverse ++ mark, (c :: rest).drop mark.length)
      else upTo mark (c :: done) rest

/-- What ends records. -/
def separator : Running (Option String) := do
  match ← global "/" with
  | .nothing => return none
  | v => return some v.toText

/-- Reads a record from an open file. -/
def readFrom (name : String) : Running (Option String) := do
  match ← restOf name with
  | none | some [] => do
    modify fun s => { s with reading := some name }
    return none
  | some cs =>
    let (front, behind) := record (← separator) cs
    if front.isEmpty then
      match ← handle? name with
      | some h => setHandle name { h with channel := .input [] }
      | none => pure ()
      return none
    else
      match ← handle? name with
      | some h => setHandle name { h with channel := .input behind, lines := h.lines + 1 }
      | none => pure ()
      modify fun s => { s with reading := some name }
      return some (String.ofList front)

/-- Ends the editing of a file: what was written becomes what it has. -/
def finishEdit : Running Unit := do
  let s ← get
  if let some file := s.edited then
    let text ←
      match ← handle? "ARGVOUT" with
      | some ⟨.memory n, _, _⟩ => do pure (← cell n).toText
      | _ => pure ""
    let _ ← doing (writeFile file false (toBytes text.toList))
    modify fun s => { s with edited := none, selected := "STDOUT" }

/-- Opens the next file that the arguments name; whether there is one. -/
def openNext (t : Task) : (fuel : Nat) → Running Bool
  | 0 => return false
  | fuel + 1 => do
    finishEdit
    let l ← numberOfName .list "ARGV"
    let first? ← withList l fun vs => (vs.extract 1 vs.size, vs[0]?)
    match first? with
    | none => return false
    | some v =>
      let file := v.toText
      setGlobal "ARGV" v
      let lines := ((← handle? "ARGV").map (·.lines)).getD 0
      if file = "-" then
        setHandle "ARGV" ⟨.input ((← restOf "STDIN").getD []), lines, 0⟩
        return true
      else
        match contentOf (← doing MonadState.get) file with
        | .ok b =>
          modify fun s => { s with fault := (25, "Inappropriate ioctl for device") }
          setHandle "ARGV" ⟨.input (charactersOf b), lines, 0⟩
          if let some backup := t.backup then
            if !backup.isEmpty then
              let kept :=
                if backup.toList.contains '*' then String.ofList (backup.toList.flatMap fun c => if c = '*' then file.toList else [c])
                else file ++ backup
              let _ ← doing (writeFile kept false b)
            setHandle "ARGVOUT" ⟨.memory (← newCell (.text "")), 0, 0⟩
            modify fun s => { s with edited := some file, selected := "ARGVOUT" }
          return true
        | .error (.reading _) => openNext t fuel
        | .error (.opening e) =>
          setFault e
          let at_ ← here t
          let read := if (at_.splitOn ", <").length = 2 then ", <" ++ ((at_.splitOn ", <").getD 1 "") else ".\n"
          doing (say ("Can't open " ++ file ++ ": " ++ e.description ++ read))
          openNext t fuel

/-- Reads a record from the files that the arguments name, or from standard input. -/
def readArguments (t : Task) : (fuel : Nat) → Running (Option String)
  | 0 => return none
  | fuel + 1 => do
    match ← handle? "ARGV" with
    | some ⟨.input (c :: cs), _, _⟩ =>
      match ← readFrom "ARGV" with
      | some s => return some s
      | none => readArguments t (if (c :: cs).isEmpty then 0 else fuel)
    | h =>
      let isStart := !(h matches some ⟨.input _, _, _⟩)
      let l ← numberOfName .list "ARGV"
      let count := (← listAt l).size
      if isStart && count = 0 then setList l #[.text "-"]
      if ← openNext t (count + 2) then readArguments t fuel
      else
        setHandle "ARGV" ⟨.closed, (h.map (·.lines)).getD 0, 0⟩
        return none

/-- Reads a record. -/
def readRecord (t : Task) (name : String) : Running (Option String) := do
  if name = "ARGV" then
    let l ← numberOfName .list "ARGV"
    let r ← readArguments t (2 * (← listAt l).size + 6)
    modify fun s => { s with reading := some "ARGV" }
    return r
  else readFrom name

/-- Reads all records that are left, the last record that was read first. -/
def collectRecords (t : Task) (name : String) : (fuel : Nat) → (done : List Value) → Running (List Value)
  | 0, done => return done.reverse
  | fuel + 1, done => do
    match ← readRecord t name with
    | some s => collectRecords t name fuel (.text s :: done)
    | none => return done.reverse

/-- Reads all records that are left. -/
def readRecords (t : Task) (name : String) : Running (List Value) :=
  collectRecords t name maxTurns []

/-- Whether an open file is at its end. -/
def isAtEnd (name : String) : Running Bool := do
  match ← restOf name with
  | some (_ :: _) => return false
  | _ => return true

/-! ## Commands -/

/-- The words of a command line, if no shell is needed for it. -/
def plainWords? (line : String) : Option (List String) :=
  let cs := line.toList
  let special := "$&*()\x7b\x7d[]'\";\\|?<>~".toList ++ [Char.ofNat 96, '\n']
  let cs := (cs.reverse.dropWhile Arithmetic.isSpace).reverse
  if cs.any (special.contains ·) then none
  else
    let words := ((cs.splitOnP Arithmetic.isSpace).filter (!·.isEmpty)).map String.ofList
    match words with
    | w :: _ => if w.toList.contains '=' then none else some words
    | [] => none

/-- The words with which a command line is started. -/
def wordsOf (line : String) : List String :=
  (plainWords? line).getD ["sh", "-c", line]

/-- Starts a command; its status as programs see it. -/
def start (t : Task) (words : List String) : Running Int := do
  flush
  match ← doing (t.command words) with
  | .ok status => return if 128 < status && status < 160 then (status - 128 : Nat) else (status * 256 : Nat)
  | .error e =>
    setFault e
    return -1

/-- Runs a command that was given input; its status. -/
def finishCommand (t : Task) (line : String) (pieces : List String) : Running Int := do
  flush
  let m ← doing MonadState.get
  let (m', n) := m.withFile (OpenFile.reading (toBytes (String.join pieces.reverse).toList))
  doing (MonadState.set (m'.point 0 (some n)))
  let status ← start t (wordsOf line)
  doing (modify fun after => { after with descriptors := m.descriptors })
  return status

/-- What a command writes, and its status. -/
def outputOfCommand (t : Task) (line : String) : Running (List Char × Nat) := do
  flush
  doing (outputOf t.command line.toList)

/-- Closes an open file; whether that can be done. -/
def closeHandle (t : Task) (name : String) : Running Bool := do
  match ← handle? name with
  | none => return false
  | some h =>
    match h.channel with
    | .closed => return false
    | .command line pieces =>
      let status ← finishCommand t line pieces
      setGlobal "?" (ofInt status)
      setHandle name ⟨.closed, 0, 0⟩
      return status = 0
    | .standardOutput =>
      flush
      setHandle name ⟨.closed, 0, 0⟩
      return true
    | _ =>
      setGlobal "?" (ofNat (h.status * 256))
      setHandle name ⟨(if name = "ARGV" then .input [] else .closed), 0, 0⟩
      return h.status = 0

/-! ## Opening -/

/-- The way to open a file, and its name, by one text. -/
def modeAndName (s : String) : String × String :=
  let cs := s.toList.dropWhile Arithmetic.isSpace
  let cs := (cs.reverse.dropWhile Arithmetic.isSpace).reverse
  let name (n : Nat) : String := String.ofList ((cs.drop n).dropWhile Arithmetic.isSpace)
  match cs with
  | '>' :: '>' :: _ => (">>", name 2)
  | '>' :: '&' :: _ => (">&", name 2)
  | '>' :: _ => (">", name 1)
  | '<' :: _ => ("<", name 1)
  | '|' :: _ => ("|-", name 1)
  | _ => if cs.getLast? = some '|' then ("-|", String.ofList cs.dropLast) else ("<", String.ofList cs)

/-- The descriptor of an open file that commands have too. -/
def descriptorOf : String → Option Nat
  | "STDIN" => some 0
  | "STDOUT" => some 1
  | "STDERR" => some 2
  | _ => none

/-- Makes commands that are started have an open file under one of their descriptors. -/
def share (handle : String) (number : Nat) : Running Unit :=
  match descriptorOf handle with
  | some d => doing (modify fun m => m.point d (some number))
  | none => pure ()

/-- Opens a file under a name; whether that can be done. -/
def openFile (t : Task) (handle mode file : String) (words : List String) : Running Bool := do
  let _ ← closeHandle t handle
  let way := (mode.toList.takeWhile fun c => c ≠ ':' && c ≠ ' ')
  match String.ofList way with
  | "<" | "+<" =>
    if file = "-" then
      setHandle handle ⟨.input ((← restOf "STDIN").getD []), 0, 0⟩
      return true
    else
      match contentOf (← doing MonadState.get) file with
      | .ok b =>
        modify fun s => { s with fault := (25, "Inappropriate ioctl for device") }
        if handle = "STDIN" then
          let (m, number) := (← doing MonadState.get).withFile (OpenFile.reading b)
          doing (MonadState.set (m.point 0 (some number)))
          setHandle handle ⟨.standardInput, 0, 0⟩
        else setHandle handle ⟨.input (charactersOf b), 0, 0⟩
        return true
      | .error (.reading _) =>
        setHandle handle ⟨.input [], 0, 0⟩
        return true
      | .error (.opening e) =>
        setFault e
        return false
  | ">" | ">>" | "+>" =>
    if file = "-" then
      setHandle handle ⟨.standardOutput, 0, 0⟩
      return true
    else
      let m ← doing MonadState.get
      match Opening.special? m file with
      | some (m, number?) =>
        doing (MonadState.set m)
        setHandle handle ⟨.output (number?.getD 1000000), 0, 0⟩
        share handle (number?.getD 1000000)
        return true
      | none =>
        match Opening.target m file with
        | .error e =>
          setFault e
          return false
        | .ok (place, found) =>
          let (old, executable) := found.getD (Bytes.empty, false)
          let isExtended := String.ofList way = ">>"
          let m := m.put place (.file (if isExtended then old else Bytes.empty) executable)
          let (m, number) := m.withFile (OpenFile.writing (.file place isExtended))
          doing (MonadState.set m)
          setHandle handle ⟨.output number, 0, 0⟩
          share handle number
          return true
  | ">&" | ">>&" | ">&=" =>
    let name := if file.startsWith "=" then (file.drop 1).toString else file
    let name := if name = "1" then "STDOUT" else if name = "2" then "STDERR" else name
    match ← handle? name with
    | some h =>
      if h.channel matches .standardOutput then flush
      let m ← doing MonadState.get
      let number? :=
        match h.channel with
        | .standardOutput => m.fileNumber? 1
        | .standardErrors => m.fileNumber? 2
        | .output number => some number
        | _ => none
      match number? with
      | some number =>
        setHandle handle ⟨.output number, 0, 0⟩
        share handle number
      | none => setHandle handle { h with lines := 0 }
      return true
    | none =>
      setFault .badDescriptor
      return false
  | "-|" =>
    flush
    let line := if words.isEmpty then file else " ".intercalate ((file :: words).map Quotation.forShell)
    let (cs, status) ← outputOfCommand t line
    setHandle handle ⟨.input cs, 0, status⟩
    return true
  | "|-" =>
    let line := if words.isEmpty then file else " ".intercalate ((file :: words).map Quotation.forShell)
    setHandle handle ⟨.command line [], 0, 0⟩
    return true
  | _ => fail t ("Unknown open() mode '" ++ mode ++ "'")

end Extraction

end Utility

end AddonAtlas.Shell
