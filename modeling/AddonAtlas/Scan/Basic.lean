import AddonAtlas.Declaration.Record
import AddonAtlas.Failure
import AddonAtlas.Launch
import AddonAtlas.Scan.Reader

/-!
# Scans

A scan runs the search program and reads hits off its output, line by line, within a budget of bytes.
Lines over the limit, empty lines and lines that are no record are passed over, but count against the
budget. What the exit status says matters only when there was no output at all.
-/

namespace AddonAtlas

open AddonAtlas.Text

/-- What to scan, by which program, and how many bytes to accept. -/
structure ScanRequest where
  roots : List String
  pattern : DeclarationPattern
  grep : String
  budget : Int

namespace ScanRequest

/-- The command that a scan runs. -/
def command (r : ScanRequest) : List String :=
  r.grep :: TreeSearch.arguments r.pattern.grepExpression r.roots

end ScanRequest

/-! ## Reading an output -/

/-- The code of the colon, which every record holds. -/
def colon : UInt8 := 58

/-- The hit on one line of output. Bytes without a colon are no record and are not decoded. -/
def Hit.ofLine? (line : Bytes) : Option Hit :=
  if line.contains colon then
    Hit.parse? (String.ofList (dropEndWhile (· == '\n') (Utf8.decode line.toList)))
  else none

/-- What was read of an output. -/
structure Reading where
  hits : List Hit
  /-- Bytes read, those of lines passed over included. -/
  received : Nat
  /-- Whether reading stopped because the budget was spent. -/
  truncated : Bool

namespace Reading

/-- Reads lines until the output ends or the budget is spent. `received` bytes were read before, and
`hits` were found, the last one first. -/
def readOnto (budget : Int) (received : Nat) (hits : List Hit) (r : Reader) : Reading :=
  match _h : r.readLine with
  | (.line b, r') =>
    let received := received + b.size
    if budget < received then ⟨hits.reverse, received, true⟩
    else readOnto budget received ((Hit.ofLine? b).toList ++ hits) r'
  | (.overrun _, r') =>
    let received := received + r'.discardLine.1
    if budget < received then ⟨hits.reverse, received, true⟩
    else readOnto budget received hits r'.discardLine.2
  | (.rest b, _) =>
    let received := received + b.size
    if b.isEmpty then ⟨hits.reverse, received, false⟩
    else if budget < received then ⟨hits.reverse, received, true⟩
    else ⟨((Hit.ofLine? b).toList ++ hits).reverse, received, false⟩
termination_by r.remaining
decreasing_by
  · have := Reader.readLine_line _h
    omega
  · exact Reader.remaining_discardLine_lt _h

/-- Reads an output that arrives in pieces. -/
def read (limit : Nat) (budget : Int) (arrivals : List Bytes) : Reading :=
  readOnto budget 0 [] ⟨limit, Bytes.empty, arrivals⟩

/-- Whether the output ended without a byte. -/
def isSilent (r : Reading) : Bool :=
  r.received == 0 && !r.truncated

end Reading

/-! ## Scans as they are consumed -/

/-- What whoever follows a scan gets to see: hits, then perhaps a failure. -/
structure ScanRun where
  hits : List Hit
  log : Log
  failure : Option Failure
  /-- Whether a program was started. -/
  started : Bool
  /-- How long the program sleeps while it is read, in thousandths of a second. -/
  sleep : Nat
  /-- The files as they are afterwards, if the program may have changed any. -/
  tree : Option FileTree := none

namespace ScanRun

/-- A scan that ends without a hit. -/
def nothing : ScanRun :=
  ⟨[], [], none, false, 0, none⟩

def failed (kind : Failure.Kind) (message : String) : ScanRun :=
  { nothing with failure := some ⟨kind, message⟩ }

/-- The failure of a program that ended without output: its status has to be at least two. -/
def exitFailure? (e : Execution) : Option Failure :=
  match e.ending with
  | .killed _ => none
  | .exited status =>
    if status < 2 then none
    else
      let complaint := strip e.errors.decode
      some ⟨.scan, "grep exited with status " ++ toString status ++ ": " ++
        (if complaint = "" then "no output" else complaint)⟩

def truncation (budget : Int) : LogRecord :=
  .warning ("Scan output exceeded " ++ toString budget ++ " bytes, results truncated")

/-- Reads the output of a program that runs. -/
def ofExecution (limit : Nat) (budget : Int) (e : Execution) : ScanRun :=
  let r := Reading.read limit budget e.output
  { hits := r.hits
    log := if r.truncated then [truncation budget] else []
    failure := if r.isSilent then exitFailure? e else none
    started := true
    sleep := if r.truncated then 0 else e.sleep
    tree := e.tree }

/-- Why a program that is not started makes a scan fail. -/
def ofRefusal (program : String) (r : Launch.Refusal) : ScanRun :=
  match r with
  | .nulByte => failed .value r.message
  | .surrogates _ _ => failed .encoding r.message
  | .system _ _ => failed .scan ("Cannot run " ++ program ++ ": " ++ r.message)

/-- Runs a scan on a file tree. Without roots there is nothing to run. -/
def run (t : FileTree) (environment : List (String × String)) (limit : Nat)
    (request : ScanRequest) : ScanRun :=
  match request.roots with
  | [] => nothing
  | _ =>
    match Launch.start t environment request.grep request.command.tail with
    | .error refusal => ofRefusal request.grep refusal
    | .ok e => ofExecution limit request.budget e

/-- What is seen by a consumer that stops after a number of hits. -/
def upTo (count : Nat) (s : ScanRun) : ScanRun :=
  if count ≤ s.hits.length then { nothing with hits := s.hits.take count } else s

/-- What is seen by a consumer that takes a number of hits once the scan is over. The log is whole then;
a failure is met behind the last hit only. -/
def first (count : Nat) (s : ScanRun) : ScanRun :=
  if count ≤ s.hits.length then { s with hits := s.hits.take count, failure := none } else s

/-- The hits sorted by path; hits of one path keep their order. -/
def sorted (s : ScanRun) : ScanRun :=
  { s with hits := s.hits.mergeSort fun a b => decide (a.path ≤ b.path) }

end ScanRun

/-- The longest line that is read. -/
def lineLimit : Nat := 16777216

/-- The bytes accepted of one scan. -/
def defaultBudget : Int := 200000000

end AddonAtlas
