import AddonAtlas.FileTree.ReadBuffer
import AddonAtlas.Shell.Records.Reading
import AddonAtlas.Shell.Records.Table
import AddonAtlas.Shell.Records.Text
import AddonAtlas.Shell.Utility.Files
import AddonAtlas.Shell.Utility.Starting

/-!
# Running programs that work on records

The records of files, or of standard input, are read one after the other, and a program is run for each of
them. A record is divided only when a field is asked for, and put together again only when it is asked for as
a whole. What is written to standard output waits until a command is started or the program ends.
-/

namespace AddonAtlas.Shell

namespace Utility

open Shell.Action

namespace RecordProgram

open Records

/-! ## Sessions -/

/-- What a procedure that runs has of its own. -/
structure Frame where
  procedure : String
  values : List (String × Value)
  tables : List (String × Nat)

/-- A file that is written to, or a command that is given input. -/
structure Outlet where
  name : String
  isCommand : Bool
  /-- The open file of a file. -/
  number : Nat
  /-- What a command is given, the last piece first. -/
  pieces : List String

/-- A file, or the output of a command, that records are asked from. -/
structure Reading where
  name : String
  rest : List Char
  status : Nat

structure Session where
  variables_ : Std.HashMap String Value
  tables : Array Table
  globalTables : List (String × Nat)
  frames : List Frame
  record : String
  fields : Array Value
  /-- Whether the fields are those of the record. -/
  isDivided : Bool
  /-- Whether the record is that of the fields. -/
  isJoined : Bool
  /-- What is left of the file that is read. -/
  current? : Option (Bool × List Char)
  /-- The number of the next argument. -/
  argument : Nat
  /-- Whether some argument was a file. -/
  hasFiles : Bool
  /-- What is left of standard input, and how long it was. -/
  input? : Option (List Char × Nat)
  sources : List Reading
  outlets : List Outlet
  /-- What is to be written to standard output, the last piece first, and its length. -/
  pending : List String
  pendingLength : Nat
  /-- The ranges of records that have begun. -/
  ranges : List Nat
  seed : Float
  chances : Array Nat
  status : Nat

/-- What ends a part of a program. -/
inductive Halt
  | next
  | nextFile
  | exit
  /-- Nothing more is done, with a status. -/
  | over (status : Nat)

abbrev Running := ExceptT Halt (StateT Session Action)

/-- What follows a statement. -/
inductive Course
  | onwards
  | break_
  | continue_
  | return_ (v : Value)

/-- What is run. -/
structure Task where
  name : String
  command : Starter
  program : Program

/-- How many turns a loop takes before it is taken that there is no end. -/
def maxTurns : Nat := 2000000

/-- How deep parts of a program may lie in each other. -/
def maxDepth : Nat := 40000

/-- How many procedures may run at a time. -/
def maxCalls : Nat := 1000

def doing {α : Type} (a : Action α) : Running α :=
  liftM a

/-- Repeats a step until it tells what follows. -/
def repeating (step : Running (Option Course)) : (turns : Nat) → Running Course
  | 0 => doing hang
  | n + 1 => do
    match ← step with
    | none => repeating step n
    | some c => return c

namespace Task

/-! ## Variables -/

def global (name : String) : Running Value := do
  return ((← get).variables_[name]?).getD .nothing

def setGlobal (name : String) (v : Value) : Running Unit :=
  modify fun s => { s with variables_ := s.variables_.insert name v }

/-- The text of a variable that has a meaning for all programs. -/
def setting (name : String) : Running String := do
  return (← global name).toText "%.6g"

def number (name : String) : Running Nat := do
  return (whole (← global name).toNumber).toNat

/-- The text of a value. -/
def textOf (v : Value) : Running String := do
  match v with
  | .number _ => return v.toText (← setting "CONVFMT")
  | v => return v.toText ""

/-- Ends the program because of a fault. -/
def fail {α : Type} (t : Task) (message : String) : Running α := do
  let file ← setting "FILENAME"
  let fnr ← setting "FNR"
  let nr ← setting "NR"
  doing (complain t.name ("run time error: " ++ message ++ "\n\tFILENAME=\"" ++ file ++ "\" FNR=" ++ fnr ++ " NR=" ++ nr))
  throw (.over 2)

/-- Ends the program because something cannot be done. -/
def giveUp {α : Type} (t : Task) (message : String) : Running α := do
  doing (complain t.name message)
  throw (.over 2)

/-- The expression that a text stands for. -/
def expressionOf (t : Task) (s : String) : Running Expression := do
  match Pattern.read s with
  | .ok e => return e
  | .error f => t.fail ("regular expression compile failed (" ++ f.message ++ ")\n" ++ s)

/-! ## Records and fields -/

def separatorOf (t : Task) (s : String) : Running Separator := do
  match s.toList with
  | [' '] => return .blanks
  | [c] => return .character c
  | [] => return .nothing
  | _ => return .pattern (← t.expressionOf s)

/-- Divides the record into fields. -/
def divide (t : Task) : Running Unit := do
  let s ← get
  if !s.isDivided then
    let separator ← t.separatorOf (← setting "FS")
    let fields := (separator.divide s.record.toList).map fun cs => Value.input (String.ofList cs)
    modify fun s => { s with fields := fields.toArray, isDivided := true }

/-- The record, put together from its fields if they have changed. -/
def wholeRecord : Running String := do
  let s ← get
  if s.isJoined then return s.record
  else
    let texts ← s.fields.toList.mapM textOf
    let record := (← setting "OFS").intercalate texts
    modify fun s => { s with record := record, isJoined := true }
    return record

def setRecord (s : String) : Running Unit :=
  modify fun x => { x with record := s, isDivided := false, isJoined := true, fields := #[] }

/-- Gives the record another number of fields. -/
def setCount (t : Task) (n : Nat) : Running Unit := do
  t.divide
  modify fun s =>
    { s with
      fields := (s.fields.toList.take n ++ List.replicate (n - s.fields.size) (Value.text "")).toArray
      isJoined := false }

def field (t : Task) (n : Nat) : Running Value := do
  if n = 0 then return .input (← wholeRecord)
  else
    t.divide
    return (← get).fields.getD (n - 1) .nothing

def setField (t : Task) (n : Nat) (v : Value) : Running Unit := do
  if n = 0 then setRecord (← textOf v)
  else
    t.divide
    if (← get).fields.size < n then t.setCount n
    modify fun s => { s with fields := s.fields.setIfInBounds (n - 1) v, isJoined := false }

/-- The value of a variable. -/
def variableValue (t : Task) (name : String) : Running Value := do
  let own := ((← get).frames.head?).bind fun f => f.values.lookup name
  match own with
  | some v => return v
  | none =>
    if name = "NF" then
      t.divide
      return .ofNat (← get).fields.size
    else global name

def setVariable (t : Task) (name : String) (v : Value) : Running Unit := do
  let s ← get
  match s.frames with
  | f :: rest =>
    if f.values.any fun x => x.1 = name then
      let values := f.values.map fun (x : String × Value) => if x.1 = name then (name, v) else x
      modify fun s => { s with frames := { f with values := values } :: rest }
      return
  | [] => pure ()
  if name = "NF" then t.setCount (whole v.toNumber).toNat
  else
    if name = "FS" then t.divide
    setGlobal name v

/-- The number of a table. -/
def tableNumber (name : String) : Running Nat := do
  let s ← get
  match (s.frames.head?).bind fun f => f.tables.lookup name with
  | some n => return n
  | none =>
    match s.globalTables.lookup name with
    | some n => return n
    | none =>
      let n := s.tables.size
      set { s with tables := s.tables.push .empty, globalTables := (name, n) :: s.globalTables }
      return n

/-- Changes a table and answers what is to be known about it. -/
def withTable {α : Type} (n : Nat) (f : Table → Table × α) : Running α := do
  let s ← get
  let (t, a) := f (s.tables.getD n .empty)
  set { s with tables := s.tables.setIfInBounds n t }
  return a

/-- The key that values are. -/
def keyOf (values : List Value) : Running Table.Key := do
  match values with
  | [.number x] =>
    match integer? x with
    | some n => return .number n
    | none => return .text (← textOf (.number x))
  | [v] => return .text (← textOf v)
  | several =>
    let texts ← several.mapM textOf
    return .text ((← setting "SUBSEP").intercalate texts)

/-- Whether a name is that of a table, here. -/
def isTable (t : Task) (name : String) : Running Bool := do
  let isGlobal := ((t.program.tables.lookup "").getD []).contains name
  match (← get).frames with
  | f :: _ =>
    if (f.tables.lookup name).isSome then return true
    else if (f.values.lookup name).isSome then return false
    else return isGlobal
  | [] => return isGlobal

/-! ## Output -/

/-- Writes what waits for standard output, but for so many characters. -/
def flushBut (t : Task) (kept : Nat) : Running Unit := do
  let s ← get
  if !s.pending.isEmpty then
    let cs := (String.join s.pending.reverse).toList
    let n := cs.length - kept
    set { s with pending := if kept = 0 then [] else [String.ofList (cs.drop n)], pendingLength := kept }
    match ← doing (put? (toBytes (cs.take n))) with
    | none => return
    | some e => t.giveUp ("close failed on file \"/dev/stdout\" (" ++ e.description ++ ")")

def flush (t : Task) : Running Unit :=
  t.flushBut 0

/-- Writes a text to standard output when so much has come together. -/
def buffer (t : Task) (text : String) : Running Unit := do
  modify fun s => { s with pending := text :: s.pending, pendingLength := s.pendingLength + text.length }
  let n := (← get).pendingLength
  if ReadBuffer.page < n then t.flushBut (n % ReadBuffer.page)

/-- The outlet of a name, which is opened if it is not yet. -/
def outlet (t : Task) (name : String) (isCommand isExtended : Bool) : Running Outlet := do
  match (← get).outlets.find? fun o => o.name = name && o.isCommand = isCommand with
  | some o => return o
  | none =>
    let o ←
      if isCommand then
        t.flush
        pure ⟨name, true, 0, []⟩
      else
        let m ← doing MonadState.get
        match Opening.special? m name with
        | some (m, number?) =>
          doing (MonadState.set m)
          pure ⟨name, false, number?.getD 1000000, []⟩
        | none =>
          match Opening.target m name with
          | .error e => t.giveUp ("cannot open \"" ++ name ++ "\" for output (" ++ e.description ++ ")")
          | .ok (place, found) =>
            let (old, executable) := found.getD (Bytes.empty, false)
            let m := m.put place (.file (if isExtended then old else Bytes.empty) executable)
            let (m, number) := m.withFile (OpenFile.writing (.file place isExtended))
            doing (MonadState.set m)
            pure ⟨name, false, number, []⟩
    modify fun s => { s with outlets := o :: s.outlets }
    return o

/-- Writes a text to standard output, to a file, or to a command. -/
def write (t : Task) (destination : Option (String × Bool × Bool)) (text : String) : Running Unit := do
  match destination with
  | none | some ("-", false, _) | some ("/dev/stdout", false, _) => t.buffer text
  | some (name, isCommand, isExtended) =>
    let o ← t.outlet name isCommand isExtended
    if isCommand then
      let o := { o with pieces := text :: o.pieces }
      modify fun s =>
        { s with outlets := o :: s.outlets.filter fun x => !(x.name = name && x.isCommand) }
    else
      let m ← doing MonadState.get
      match m.writeFile o.number (toBytes text.toList) with
      | some m => doing (MonadState.set m)
      | none =>
        let e := (m.files[o.number]?).elim Errno.badDescriptor OpenFile.writeFault
        t.giveUp ("close failed on file \"" ++ name ++ "\" (" ++ e.description ++ ")")

/-- Runs a command that was given input; its status. -/
def finishCommand (t : Task) (o : Outlet) : Running Nat := do
  let m ← doing MonadState.get
  let (m', n) := m.withFile (OpenFile.reading (toBytes (String.join o.pieces.reverse).toList))
  doing (MonadState.set (m'.point 0 (some n)))
  let status ← doing (startOr t.command (fun _ => pure ()) ["sh", "-c", o.name])
  doing (modify fun after => { after with descriptors := m.descriptors })
  return status

/-- The status of a command as programs see it. -/
def statusValue (status : Nat) : Value :=
  .ofNat (if 128 < status && status < 160 then status - 128 + 256 else status)

/-- Closes what has a name. -/
def close (t : Task) (name : String) : Running Value := do
  let s ← get
  let found := s.outlets.filter fun o => o.name = name
  let readings := s.sources.filter fun r => r.name = name
  set
    { s with
      outlets := s.outlets.filter fun o => o.name ≠ name
      sources := s.sources.filter fun r => r.name ≠ name }
  if found.any (·.isCommand) then t.flush
  let mut result : Value := .number (-1.0)
  for o in found do
    if o.isCommand then result := statusValue (← t.finishCommand o) else result := .number 0.0
  for r in readings do
    result := statusValue r.status
  return result

/-! ## Input -/

/-- Takes standard input. -/
def standardInput (t : Task) : Running (List Char) := do
  match (← get).input? with
  | some (rest, _) => return rest
  | none =>
    match ← doing readInput with
    | .ok b =>
      let cs := charactersOf b
      modify fun s => { s with input? := some (cs, cs.length) }
      return cs
    | .error u => t.giveUp ("read error (" ++ u.description ++ ")")

/-- Gives a variable the value that an argument tells. -/
def assignArgument (t : Task) (a : String) : Running Unit := do
  let (name, value) := Builtin.assignment a
  let cs := (value.getD "").toList
  t.setVariable name (.input (String.ofList (Token.unquoted (cs.length + 1) cs)))

/-- Whether an argument gives a variable a value. -/
def isAssignment (a : String) : Bool :=
  a.toList.contains '=' && isName (Builtin.assignment a).1

/-- Opens the next file that is named by an argument; or standard input, if there is none at all. -/
def openNext (t : Task) : (fuel : Nat) → Running Bool
  | 0 => return false
  | fuel + 1 => do
    let s ← get
    let count ← number "ARGC"
    if count ≤ s.argument then
      if s.hasFiles then return false
      else
        set { s with hasFiles := true, current? := some (true, []) }
        setGlobal "FILENAME" (.text "-")
        setGlobal "FNR" (.number 0.0)
        return true
    else
      set { s with argument := s.argument + 1 }
      let table ← tableNumber "ARGV"
      let v ← withTable table fun x => (x, x.value (.number s.argument))
      let a ← textOf v
      if a.isEmpty then openNext t fuel
      else if isAssignment a then
        t.assignArgument a
        openNext t fuel
      else
        modify fun s => { s with hasFiles := true }
        setGlobal "FILENAME" (.text a)
        setGlobal "FNR" (.number 0.0)
        if a = "-" || a = "/dev/stdin" then
          modify fun s => { s with current? := some (true, []) }
          return true
        else
          match ← doing (readFile a) with
          | .ok b =>
            modify fun s => { s with current? := some (false, charactersOf b) }
            return true
          | .error (.opening e) => t.giveUp ("cannot open \"" ++ a ++ "\" (" ++ e.description ++ ")")
          | .error (.reading e) => t.giveUp ("read error (" ++ e.description ++ ")")

/-- What stands between records. -/
def recordSeparator (t : Task) : Running Separator := do
  let rs ← setting "RS"
  t.separatorOf (if rs = " " then "[ ]" else rs)

/-- The next record of the files that are named by arguments. -/
def nextRecord (t : Task) : (fuel : Nat) → Running (Option String)
  | 0 => return none
  | fuel + 1 => do
    match (← get).current? with
    | none =>
      if ← t.openNext fuel then nextRecord t fuel else return none
    | some (isInput, cs) =>
      let cs ← if isInput then t.standardInput else pure cs
      match (← t.recordSeparator).take cs with
      | none =>
        modify fun s => { s with current? := none }
        if isInput then modify fun s => { s with input? := s.input?.map fun i => ([], i.2) }
        if (← get).argument < (← number "ARGC") then nextRecord t fuel
        else return none
      | some (record, rest) =>
        modify fun s =>
          if isInput then { s with input? := s.input?.map fun i => (rest, i.2) }
          else { s with current? := some (false, rest) }
        return some (String.ofList record)

/-- A bound for the number of files. -/
def fileBound : Running Nat := do
  return 2 * (← number "ARGC") + 5

def count (name : String) : Running Unit := do
  setGlobal name (.number ((← global name).toNumber + 1.0))

/-- The next record of a file, or of the output of a command; or a failure. -/
def recordOf (t : Task) (name : String) (isCommand : Bool) : Running (Except Unit (Option String)) := do
  let isInput := !isCommand && (name = "-" || name = "/dev/stdin")
  let known := (← get).sources.find? fun r => r.name = name
  let reading ←
    match known with
    | some r => pure (some r)
    | none =>
      if isInput then pure (some ⟨name, [], 0⟩)
      else if isCommand then
        t.flush
        let (cs, status) ← doing (outputOf t.command name.toList)
        pure (some ⟨name, cs, status⟩)
      else
        match ← doing (readFile name) with
        | .ok b => pure (some ⟨name, charactersOf b, 0⟩)
        | .error (.opening _) => pure none
        | .error (.reading e) => t.giveUp ("read error (" ++ e.description ++ ")")
  match reading with
  | none => return .error ()
  | some r =>
    let cs ← if isInput then t.standardInput else pure r.rest
    let found := (← t.recordSeparator).take cs
    let rest := (found.map (·.2)).getD []
    modify fun s =>
      { s with
        sources := { r with rest := rest } :: s.sources.filter fun x => x.name ≠ name
        input? := if isInput then s.input?.map fun i => (rest, i.2) else s.input? }
    return .ok (found.map fun f => String.ofList f.1)

/-! ## Terms -/

def calculate (o : Operation) (x y : Float) : Float :=
  match o with
  | .add => x + y
  | .subtract => x - y
  | .multiply => x * y
  | .divide => x / y
  | .remainder =>
    match binary x, binary y with
    | .finite s m d, .finite _ n e =>
      if n = 0 then 0.0 / 0.0
      else
        let low := min d e
        let a := m * 2 ^ (d - low).toNat
        let b := n * 2 ^ (e - low).toNat
        ofBinary (.ofRatio s (a % b * 2 ^ low.toNat) (2 ^ (-low).toNat))
    | .finite _ _ _, .infinite _ => x
    | _, _ => 0.0 / 0.0
  | .power => Float.pow x y

def holds (r : Relation) (o : Ordering) : Bool :=
  match r with
  | .equal => o = .eq
  | .unequal => o ≠ .eq
  | .less => o = .lt
  | .lessOrEqual => o ≠ .gt
  | .greater => o = .gt
  | .greaterOrEqual => o ≠ .lt

/-- A part of a text: so many characters from a number on, both rounded. -/
def part (s : String) (start : Float) (length : Option Float) : String :=
  let nearest (x : Float) : Int :=
    match binary x with
    | .finite s m e =>
      let (num, den) := Number.scaled m 2 e
      let n := Number.roundDiv num den
      if s then -(n : Int) else n
    | .infinite s => if s then -2 ^ 62 else 2 ^ 62
    | .nan => 0
  let first := nearest start
  let cs := s.toList
  let last : Int :=
    match length with
    | some n => first + nearest n
    | none => cs.length + 1
  let from_ := (max first 1).toNat
  let until_ := (min last (cs.length + 1)).toNat
  String.ofList ((cs.drop (from_ - 1)).take (until_ - from_))

def indexOf (s t : List Char) : Nat :=
  ((List.range (s.length + 1)).find? fun i => t.isPrefixOf (s.drop i)).elim 0 (· + 1)

mutual

def value (t : Task) : (fuel : Nat) → Term → Running Value
  | 0, _ => t.giveUp "program limit exceeded: eval stack size=1024"
  | fuel + 1, u => do
    match u with
    | .number x => return .number x
    | .text s => return .text s
    | .pattern _ e => return .ofBool (e.isIn (Expression.subject (← wholeRecord).toList))
    | .variable_ name => t.variableValue name
    | .element table keys =>
      let key ← keyOf (← values t fuel keys)
      let n ← tableNumber table
      withTable n fun x =>
        let (x, _) := x.found key true
        (x, x.value key)
    | .field n =>
      let n := whole (← value t fuel n).toNumber
      if n < 0 then t.fail ("negative field index $" ++ toString n) else t.field n.toNat
    | .assign place operation v =>
      match operation with
      | none =>
        let v ← value t fuel v
        store t fuel place v
        return v
      | some o =>
        let y := (← value t fuel v).toNumber
        let x := (← value t fuel place).toNumber
        let v := Value.number (calculate o x y)
        store t fuel place v
        return v
    | .step place isMore isBefore =>
      let x := (← value t fuel place).toNumber
      let y := if isMore then x + 1.0 else x - 1.0
      store t fuel place (.number y)
      return .number (if isBefore then y else x)
    | .choice c yes no => if (← value t fuel c).isTrue then value t fuel yes else value t fuel no
    | .both a b =>
      if (← value t fuel a).isTrue then return .ofBool (← value t fuel b).isTrue else return .number 0.0
    | .either a b =>
      if (← value t fuel a).isTrue then return .number 1.0 else return .ofBool (← value t fuel b).isTrue
    | .not a => return .ofBool (!(← value t fuel a).isTrue)
    | .contains table keys =>
      let key ← keyOf (← values t fuel keys)
      let n ← tableNumber table
      return .ofBool (← withTable n fun x => x.found key false)
    | .matches_ isInverted subject p =>
      let s ← textOf (← value t fuel subject)
      let e ← pattern t fuel p
      return .ofBool (e.isIn (Expression.subject s.toList) != isInverted)
    | .compare r a b =>
      let x ← value t fuel a
      let y ← value t fuel b
      return .ofBool (holds r (Value.compare (← setting "CONVFMT") x y))
    | .join a b =>
      let x ← textOf (← value t fuel a)
      let y ← textOf (← value t fuel b)
      return .text (x ++ y)
    | .operate o a b =>
      let x := (← value t fuel a).toNumber
      let y := (← value t fuel b).toNumber
      return .number (calculate o x y)
    | .negate a => return .number (-(← value t fuel a).toNumber)
    | .plus a => return .number (← value t fuel a).toNumber
    | .call name arguments => call t fuel name arguments
    | .apply f arguments => apply t fuel f arguments
    | .getline origin place => getline t fuel origin place
    | .grouped a => value t fuel a
    | .several terms => return .text ((← setting "SUBSEP").intercalate (← (← values t fuel terms).mapM textOf))

def values (t : Task) : (fuel : Nat) → List Term → Running (List Value)
  | 0, _ => t.giveUp "program limit exceeded: eval stack size=1024"
  | _ + 1, [] => return []
  | fuel + 1, u :: rest => do
    let v ← value t fuel u
    return v :: (← values t fuel rest)

/-- The expression that a term stands for. -/
def pattern (t : Task) : (fuel : Nat) → Term → Running Expression
  | 0, _ => t.giveUp "program limit exceeded: eval stack size=1024"
  | _ + 1, .pattern _ e => return e
  | fuel + 1, u => do t.expressionOf (← textOf (← value t fuel u))

/-- Gives a place a value. -/
def store (t : Task) : (fuel : Nat) → Term → Value → Running Unit
  | 0, _, _ => t.giveUp "program limit exceeded: eval stack size=1024"
  | fuel + 1, place, v => do
    match place with
    | .variable_ name => t.setVariable name v
    | .element table keys =>
      let key ← keyOf (← values t fuel keys)
      let n ← tableNumber table
      withTable n fun x =>
        let (x, _) := x.found key true
        (x.set key v, ())
    | .field n =>
      let n := whole (← value t fuel n).toNumber
      if n < 0 then t.fail ("negative field index $" ++ toString n) else t.setField n.toNat v
    | _ => return

/-- Runs a procedure. -/
def call (t : Task) : (fuel : Nat) → String → List Term → Running Value
  | 0, _, _ => t.giveUp "program limit exceeded: eval stack size=1024"
  | fuel + 1, name, arguments => do
    match t.program.procedures.lookup name with
    | none => return .nothing
    | some p =>
      let tables := (t.program.tables.lookup name).getD []
      let mut frame : Frame := ⟨name, [], []⟩
      for (parameter, i) in p.parameters.zipIdx do
        if tables.contains parameter then
          match arguments[i]? with
          | some (.variable_ v) =>
            let n ← tableNumber v
            frame := { frame with tables := (parameter, n) :: frame.tables }
          | _ =>
            let n := (← get).tables.size
            modify fun s => { s with tables := s.tables.push .empty }
            frame := { frame with tables := (parameter, n) :: frame.tables }
        else
          let v ← match arguments[i]? with
            | some u => value t fuel u
            | none => pure .nothing
          frame := { frame with values := (parameter, v) :: frame.values }
      let outer := (← get).frames
      if maxCalls ≤ outer.length then t.giveUp "program limit exceeded: eval stack size=1024"
      modify fun s => { s with frames := frame :: outer }
      let course ← run t fuel p.body
      modify fun s => { s with frames := outer }
      match course with
      | .return_ v => return v
      | _ => return .nothing

/-- Applies a function that every program has. -/
def apply (t : Task) : (fuel : Nat) → Function → List Term → Running Value
  | 0, _, _ => t.giveUp "program limit exceeded: eval stack size=1024"
  | fuel + 1, f, arguments => do
    let text (i : Nat) : Running String := do
      match arguments[i]? with
      | some u => textOf (← value t fuel u)
      | none => return ""
    let number (i : Nat) : Running Float := do
      match arguments[i]? with
      | some u => return (← value t fuel u).toNumber
      | none => return 0.0
    match f with
    | .length =>
      match arguments with
      | [.variable_ name] =>
        if ← t.isTable name then
          let n ← tableNumber name
          return .ofNat (← withTable n fun x => (x, x.size))
        else return .ofNat (← text 0).length
      | [] => return .ofNat (← wholeRecord).length
      | _ => return .ofNat (← text 0).length
    | .index =>
      let s ← text 0
      let u ← text 1
      return .ofNat (indexOf s.toList u.toList)
    | .substr =>
      let s ← text 0
      let start ← number 1
      let length ← if arguments.length = 3 then pure (some (← number 2)) else pure none
      return .text (part s start length)
    | .split =>
      let s ← text 0
      let separator ←
        match arguments[2]? with
        | none => t.separatorOf (← setting "FS")
        | some (Term.pattern _ e) => pure (.pattern e)
        | some u => t.separatorOf (← textOf (← value t fuel u))
      let parts := (separator.divide s.toList).map fun cs => Value.input (String.ofList cs)
      match arguments[1]? with
      | some (Term.variable_ name) =>
        let n ← tableNumber name
        withTable n fun _ => (Table.ofList parts, ())
      | _ => pure ()
      return .ofNat parts.length
    | .match_ =>
      let s ← text 0
      let e ← match arguments[1]? with
        | some u => pattern t fuel u
        | none => pure .empty
      match e.search? (Expression.subject s.toList) 0 with
      | some (i, j, _) =>
        setGlobal "RSTART" (.ofNat (i + 1))
        setGlobal "RLENGTH" (.ofNat (j - i))
        return .ofNat (i + 1)
      | none =>
        setGlobal "RSTART" (.number 0.0)
        setGlobal "RLENGTH" (.number (-1.0))
        return .number 0.0
    | .sub | .gsub =>
      let e ← match arguments[0]? with
        | some u => pattern t fuel u
        | none => pure .empty
      let by_ ← text 1
      let place := (arguments[2]?).getD (.field (.number 0.0))
      let subject ← textOf (← value t fuel place)
      let cs := subject.toList.toArray
      let (result, n) := replaced e by_.toList (f = .gsub) cs (2 * cs.size + 2) 0 false
      if 0 < n then store t fuel place (.text (String.ofList result))
      return .ofNat n
    | .sprintf =>
      let all ← values t fuel arguments
      let format ← textOf (all.headD .nothing)
      let convert := Value.toText (← setting "CONVFMT")
      let r := formatted convert (format.length + 1) 1 format.toList (all.drop 1)
      match r.fault? with
      | some e => t.fail (e ++ (if e.startsWith "not" then " to" else " in") ++ " sprintf(\"" ++ format ++ "\")")
      | none => return .text (String.ofList r.text)
    | .sin => return .number (Float.sin (← number 0))
    | .cos => return .number (Float.cos (← number 0))
    | .atan2 =>
      let y ← number 0
      let x ← number 1
      return .number (Float.atan2 y x)
    | .exp => return .number (Float.exp (← number 0))
    | .log => return .number (Float.log (← number 0))
    | .sqrt => return .number (Float.sqrt (← number 0))
    | .int =>
      let x ← number 0
      match binary x with
      | .finite s m e =>
        let (num, den) := Number.scaled m 2 e
        return .number (ofBinary (.ofRatio s (num / den) 1))
      | _ => return .number x
    | .rand =>
      let chances := chances.advance (← get).chances
      modify fun s => { s with chances := chances.extract (chances.size - 31) chances.size }
      return .number (Float.ofNat (chances.back?.getD 0 / 2) / 2147483647.0)
    | .srand =>
      let old := (← get).seed
      let x ← if arguments.isEmpty then pure 0.0 else number 0
      modify fun s => { s with seed := x, chances := chances (whole x % (2 ^ 32 : Int)).toNat }
      return .number old
    | .tolower => return .text (String.ofList ((← text 0).toList.map Char.toLower))
    | .toupper => return .text (String.ofList ((← text 0).toList.map Char.toUpper))
    | .system =>
      let line ← text 0
      t.flush
      let status ← doing (startOr t.command (fun _ => pure ()) ["sh", "-c", line])
      return statusValue status
    | .close => t.close (← text 0)
    | .fflush =>
      t.flush
      return .number 0.0

/-- Reads a record; the value tells whether there was one, or that it cannot be read. -/
def getline (t : Task) : (fuel : Nat) → Origin Term → Option Term → Running Value
  | 0, _, _ => t.giveUp "program limit exceeded: eval stack size=1024"
  | fuel + 1, origin, place => do
    let found ←
      match origin with
      | .input => do pure (.ok (← t.nextRecord (← fileBound)))
      | .file name => t.recordOf (← textOf (← value t fuel name)) false
      | .command line => t.recordOf (← textOf (← value t fuel line)) true
    match found with
    | .error () => return .number (-1.0)
    | .ok none => return .number 0.0
    | .ok (some record) =>
      if origin matches .input then
        count "NR"
        count "FNR"
      match place with
      | none => setRecord record
      | some place => store t fuel place (.input record)
      return .number 1.0

/-- Where something is printed: a name, whether it is a command, and whether a file is extended. -/
def destinationOf (t : Task) : (fuel : Nat) → Option Destination → Running (Option (String × Bool × Bool))
  | 0, _ => return none
  | _ + 1, none => return none
  | fuel + 1, some d => do
    match d with
    | .file name => return some (← textOf (← value t fuel name), false, false)
    | .append name => return some (← textOf (← value t fuel name), false, true)
    | .command line => return some (← textOf (← value t fuel line), true, false)

def run (t : Task) : (fuel : Nat) → Statement → Running Course
  | 0, _ => t.giveUp "program limit exceeded: eval stack size=1024"
  | fuel + 1, s => do
    let condition (c : Term) : Running Bool := do return (← value t fuel c).isTrue
    /- What a turn of a loop leads to. -/
    let turn (body : Statement) : Running (Option Course) := do
      match ← run t fuel body with
      | .onwards | .continue_ => return none
      | .break_ => return some .onwards
      | .return_ v => return some (.return_ v)
    match s with
    | .nothing => return .onwards
    | .evaluate u =>
      let _ ← value t fuel u
      return .onwards
    | .print terms d =>
      let format ← setting "OFMT"
      let texts ←
        if terms.isEmpty then do pure [← wholeRecord]
        else do pure ((← values t fuel terms).map (Value.toText format))
      let text := (← setting "OFS").intercalate texts ++ (← setting "ORS")
      t.write (← destinationOf t fuel d) text
      return .onwards
    | .printf terms d =>
      let all ← values t fuel terms
      let format ← textOf (all.headD .nothing)
      let convert := Value.toText (← setting "CONVFMT")
      let r := formatted convert (format.length + 1) 1 format.toList (all.drop 1)
      t.write (← destinationOf t fuel d) (String.ofList r.text)
      match r.fault? with
      | some e => t.fail (e ++ (if e.startsWith "not" then " to" else " in") ++ " printf(\"" ++ format ++ "\")")
      | none => return .onwards
    | .block statements => runAll t fuel statements
    | .choice c yes no =>
      if ← condition c then run t fuel yes
      else
        match no with
        | some no => run t fuel no
        | none => return .onwards
    | .while_ c body =>
      repeating (do if ← condition c then turn body else return some .onwards) maxTurns
    | .doWhile body c =>
      repeating (do
        match ← turn body with
        | none => if ← condition c then return none else return some .onwards
        | some course => return some course) maxTurns
    | .for_ first c next body =>
      if let some s := first then
        let _ ← run t fuel s
      repeating (do
        let isGoing ← match c with
          | some c => condition c
          | none => pure true
        if isGoing then
          match ← turn body with
          | none =>
            if let some s := next then
              let _ ← run t fuel s
            return none
          | some course => return some course
        else return some .onwards) maxTurns
    | .forKeys place table body =>
      let n ← tableNumber table
      let keys ← withTable n Table.keys
      runKeys t fuel place body keys
    | .delete table keys =>
      let n ← tableNumber table
      match keys with
      | none => withTable n fun _ => (Table.empty, ())
      | some keys =>
        let key ← keyOf (← values t fuel keys)
        withTable n fun x => (x.erase key, ())
      return .onwards
    | .next => throw .next
    | .nextFile => throw .nextFile
    | .exit status =>
      if let some u := status then
        let n := whole (← value t fuel u).toNumber
        modify fun s => { s with status := (n % 256).toNat }
      throw .exit
    | .return_ none => return .return_ .nothing
    | .return_ (some u) => return .return_ (← value t fuel u)
    | .break_ => return .break_
    | .continue_ => return .continue_

def runAll (t : Task) : (fuel : Nat) → List Statement → Running Course
  | 0, _ => t.giveUp "program limit exceeded: eval stack size=1024"
  | _ + 1, [] => return .onwards
  | fuel + 1, s :: rest => do
    match ← run t fuel s with
    | .onwards => runAll t fuel rest
    | course => return course

/-- Runs a statement for keys of a table. -/
def runKeys (t : Task) : (fuel : Nat) → Term → Statement → List String → Running Course
  | 0, _, _, _ => t.giveUp "program limit exceeded: eval stack size=1024"
  | _ + 1, _, _, [] => return .onwards
  | fuel + 1, place, body, key :: rest => do
    store t fuel place (.text key)
    match ← run t fuel body with
    | .onwards | .continue_ => runKeys t fuel place body rest
    | .break_ => return .onwards
    | .return_ v => return .return_ v

end

/-! ## Programs -/

/-- Whether a rule is for the record. -/
def isMeant (t : Task) (c : Condition) : Running Bool := do
  match c with
  | .always => return true
  | .when_ u => return (← t.value maxDepth u).isTrue
  | .range n first last =>
    let isWithin := (← get).ranges.contains n
    let begins ← if isWithin then pure true else do pure (← t.value maxDepth first).isTrue
    if begins then
      let isLast := (← t.value maxDepth last).isTrue
      modify fun s =>
        { s with ranges := if isLast then s.ranges.filter (· != n) else if isWithin then s.ranges else n :: s.ranges }
      return true
    else return false
  | _ => return false

/-- Runs the rules that are for the record. -/
def runRules (t : Task) : List Rule → Running Unit
  | [] => return
  | r :: rest => do
    if ← t.isMeant r.condition then
      let _ ← t.run maxDepth r.body
    runRules t rest

/-- Runs the rules of the start, or of the end. -/
def runFor (t : Task) (isBegin : Bool) : Running Unit := do
  for r in t.program.rules do
    let isMeant :=
      match r.condition with
      | .begin => isBegin
      | .finish => !isBegin
      | _ => false
    if isMeant then
      let _ ← t.run maxDepth r.body

/-- Runs the rules for each record. -/
def runRecords (t : Task) : (fuel : Nat) → Running Unit
  | 0 => doing hang
  | fuel + 1 => do
    match ← t.nextRecord (← fileBound) with
    | none => return
    | some record =>
      setRecord record
      count "NR"
      count "FNR"
      let result ← observeHalt (t.runRules t.program.rules)
      match result with
      | .ok () | .error .next => modify fun s => { s with frames := [] }
      | .error .nextFile => modify fun s => { s with frames := [], current? := none }
      | .error h => throw h
      runRecords t fuel
where
  /-- Runs a part of a program and shows what ended it. -/
  observeHalt (r : Running Unit) : Running (Except Halt Unit) :=
    fun s => do
      let (result, s) ← r s
      return (.ok result, s)

/-- Runs a part of a program; whether the program goes on, and whether it goes on to its end. -/
def completes (r : Running Unit) : Running (Except Nat Bool) :=
  fun s => do
    let (result, s) ← r s
    match result with
    | .ok () => return (.ok (.ok true), s)
    | .error (.over status) => return (.ok (.error status), s)
    | .error _ => return (.ok (.ok false), { s with frames := [] })

/-- Runs a program: its start, the rules for each record, its end. -/
def all (t : Task) (settings : List String) (arguments : List String) : Action Nat := do
  let m ← get
  let texts (l : List String) : Table := l.zipIdx.foldl (fun x (s, i) =>
    let key := Table.Key.number (i : Nat)
    (x.found key true).1.set key (.input s)) Table.empty
  let environment := m.environment.foldl (fun (x : Table) (name, v) =>
    (x.found (.text name) true).1.set (.text name) (.input v)) Table.empty
  let start : Session :=
    { variables_ := Std.HashMap.ofList
        [("FS", .text " "), ("OFS", .text " "), ("ORS", .text "\n"), ("RS", .text "\n"), ("SUBSEP", .text "\x1c"),
          ("CONVFMT", .text "%.6g"), ("OFMT", .text "%.6g"), ("NR", .number 0.0), ("FNR", .number 0.0),
          ("RSTART", .number 0.0), ("RLENGTH", .number (-1.0)), ("FILENAME", .nothing),
          ("ARGC", .ofNat (arguments.length + 1))]
      tables := #[texts (t.name :: arguments), environment]
      globalTables := [("ARGV", 0), ("ENVIRON", 1)]
      frames := []
      record := ""
      fields := #[]
      isDivided := true
      isJoined := true
      current? := none
      argument := 1
      hasFiles := false
      input? := none
      sources := []
      outlets := []
      pending := []
      pendingLength := 0
      ranges := []
      seed := 0.0
      chances := chances 1
      status := 0 }
  let isMain (c : Condition) : Bool := !(c matches .begin)
  let body : Running Nat := do
    for a in settings do t.assignArgument a
    let first ← completes (t.runFor true)
    let second ←
      match first with
      | .ok true =>
        if t.program.rules.any fun r => isMain r.condition then completes (t.runRecords maxTurns) else pure (.ok false)
      | r => pure r
    let reachesEnd :=
      match first, second with
      | .ok true, .ok _ => t.program.rules.any fun r => isMain r.condition
      | .ok false, .ok _ => true
      | _, _ => false
    let third ← if reachesEnd then completes (t.runFor false) else pure second
    let status ←
      match first, second, third with
      | .error n, _, _ | _, .error n, _ | _, _, .error n => pure n
      | _, _, _ => do pure (← get).status
    for o in (← get).outlets do
      if o.isCommand then
        let _ ← t.finishCommand o
    t.flush
    return status
  let (result, s) ← body.run.run start
  if let some (rest, size) := s.input? then
    let taken := size - rest.length
    let taken := (taken + ReadBuffer.page - 1) / ReadBuffer.page * ReadBuffer.page
    MonadState.set ((← get).returnInput (toBytes (rest.drop (taken - (size - rest.length)))))
  match result with
  | .ok status => return status
  | .error (.over status) => return status
  | .error _ => return s.status

end Task

/-! ## Arguments -/

/-- What arguments ask for: the texts of the program, what is assigned before, and what is left. -/
structure Call where
  texts : List String
  settings : List String
  separator? : Option String
  rest : List String

/-- What is wrong with the arguments. -/
inductive Misuse
  | message (s : String)
  | version

/-- Reads options up to the first argument that is none. -/
def readOptions : (fuel : Nat) → Call → List String → Action (Except Misuse Call)
  | 0, c, rest => return .ok { c with rest := rest }
  | _ + 1, c, [] => return .ok c
  | fuel + 1, c, a :: rest => do
    match a.toList with
    | ['-', '-'] => return .ok { c with rest := rest }
    | '-' :: '-' :: 'v' :: _ => return .error .version
    | '-' :: o :: more =>
      if !(['F', 'v', 'f', 'W'].contains o) then return .error (.message ("not an option: " ++ a))
      else
        match more, rest with
        | [], [] => return .error (.message ("option " ++ a ++ " lacks argument"))
        | [], v :: rest => option fuel c o v rest
        | more, rest => option fuel c o (String.ofList more) rest
    | _ => return .ok { c with rest := a :: rest }
where
  /-- Takes an option with what belongs to it. -/
  option (fuel : Nat) (c : Call) (o : Char) (v : String) (rest : List String) : Action (Except Misuse Call) := do
    match o with
    | 'F' => readOptions fuel { c with separator? := some v } rest
    | 'v' =>
      if Task.isAssignment v then readOptions fuel { c with settings := c.settings ++ [v] } rest
      else return .error (.message ("improper assignment: -v " ++ v))
    | 'f' =>
      match ← read v with
      | .ok b => readOptions fuel { c with texts := c.texts ++ [ofBytes b] } rest
      | .error u => return .error (.message ("cannot open \"" ++ v ++ "\" (" ++ u.description ++ ")"))
    | _ => if "version".startsWith v then return .error .version else readOptions fuel c rest

end RecordProgram

/-- Runs a program on the records of files, or of standard input. -/
def workOnRecords (command : Starter) (name : String) (arguments : List String) : Action Nat := do
  let name := basename name
  match ← RecordProgram.readOptions (arguments.length + 1) ⟨[], [], none, []⟩ arguments with
  | .error (.message s) => giveUp name s 2
  | .error .version => finish name 2 "mawk 1.3.4 20200120\n".toList 0
  | .ok c =>
    let (texts, rest) := if c.texts.isEmpty then (c.rest.take 1, c.rest.drop 1) else (c.texts, c.rest)
    if texts.isEmpty then
      say ("Usage: " ++ name ++ " [Options] [Program] [file ...]\n")
      return 2
    else
      match Records.Program.read ("\n".intercalate texts) with
      | .error messages =>
        for s in messages do complain name s
        return 2
      | .ok p =>
        let separator := (c.separator?.map fun s => "FS=" ++ s).toList
        RecordProgram.Task.all ⟨name, command, p⟩ (c.settings ++ separator) rest

end Utility

end AddonAtlas.Shell
