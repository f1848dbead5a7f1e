import AddonAtlas.Scan.Basic
import AddonAtlas.Settings.Config

/-!
# Outcomes of scans

Whoever asks for a scan waits for its end, at most as long as the time limit allows. What a scan comes
to then is its outcome. Besides the search program there are scans whose course is laid down in
advance; a job says which scan to run, with all that was in force when it was asked for.
-/

namespace AddonAtlas

/-- What a scan comes to. -/
inductive ScanOutcome
  | hits (hs : List Hit)
  /-- The scan could not be run, or ended without output in a bad state. -/
  | failed (reason : String)
  | timedOut
  /-- Anything else that went wrong. -/
  | raised (failure : Failure)
deriving DecidableEq, Repr

/-- What it means that a scan ends by a failure. -/
def ScanOutcome.ofFailure (f : Failure) : ScanOutcome :=
  match f.kind with
  | .scan => .failed f.message
  | .timeout => .timedOut
  | _ => .raised f

/-- The outcome of a scan that is followed to its end. -/
def ScanRun.outcome (r : ScanRun) : ScanOutcome :=
  match r.failure with
  | some f => .ofFailure f
  | none => .hits r.hits

namespace Seconds

/-- Whether a time limit leaves any time at all. -/
def isPositive : Seconds → Bool
  | whole n => 0 < n
  | real x => !(x.isZero || x.isNegative)

/-- A time limit in billionths of a second; nothing if it is never over. A limit that is no number is over
at once. -/
def nanoseconds? : Seconds → Option Nat
  | whole n => some (n.toNat * 10 ^ 9)
  | real .nan => some 0
  | real (.infinite negative) => if negative then some 0 else none
  | real (.finite negative m e) =>
    let (num, den) := Number.scaled m 2 e
    some (if negative then 0 else num * 10 ^ 9 / den)

end Seconds

/-! ## Jobs -/

/-- How a scan with a course laid down in advance ends. -/
inductive ScriptedEnd
  | ends
  | hangs
  | fails (failure : Failure)
deriving DecidableEq, Repr

/-- What answers scans. -/
inductive Scanner
  /-- The search program. `sorted` says that its hits are put in order of their paths. -/
  | program (sorted : Bool)
  /-- Hits by the query's text, and the end. -/
  | scripted (hits : String → List Hit) (ending : ScriptedEnd)

/-- A scan that was asked for. -/
structure ScanJob where
  scanner : Scanner
  environment : Environment
  request : ScanRequest
  timeout : Option Seconds

/-- The course of a scan under a time limit. -/
structure ScanCourse where
  log : Log
  /-- What the scan comes to; nothing if it goes on for ever. -/
  outcome : Option ScanOutcome
  /-- How long it takes, in billionths of a second. -/
  lasts : Nat
  /-- The files as they are afterwards, if the scan may have changed any. -/
  tree : Option FileTree

namespace ScanJob

/-- Whether the time limit is over before the scan can begin. -/
def isHopeless (j : ScanJob) : Bool :=
  j.timeout.any fun limit => !limit.isPositive

/-- The time limit in billionths of a second. -/
def limit? (j : ScanJob) : Option Nat :=
  j.timeout.bind Seconds.nanoseconds?

/-- The least time, in billionths of a second, that can be told from none at all. -/
def moment : Nat := 10000

/-- Whether a scan that is held back is out of time as soon as it has begun. -/
def isOver (j : ScanJob) : Bool :=
  j.isHopeless || j.limit?.any (· < moment)

/-- The time it takes to start a program, in billionths of a second. -/
def startingTime : Nat := 1000000

/-- The course of a scan by the search program, with so much time left. -/
def runProgram (t : FileTree) (j : ScanJob) (left : Option Nat) (sorted : Bool) : ScanCourse :=
  let run := ScanRun.run t j.environment.bindings lineLimit j.request
  let time := if run.started then run.sleep * 1000000 + startingTime else 0
  match left.filter (run.started && · ≤ time) with
  | some left => ⟨run.log, some .timedOut, left, run.tree⟩
  | none => ⟨run.log, some (if sorted then run.sorted else run).outcome, time, run.tree⟩

/-- The course of a scan with so much time left. -/
def run (t : FileTree) (j : ScanJob) (left : Option Nat) : ScanCourse :=
  if j.isHopeless then ⟨[], some .timedOut, 0, none⟩
  else
    match j.scanner with
    | .program sorted => j.runProgram t left sorted
    | .scripted hits ending =>
      match ending with
      | .ends => ⟨[], some (.hits (hits (j.request.pattern.query?.getD ""))), 0, none⟩
      | .hangs => ⟨[], left.map fun _ => .timedOut, left.getD 0, none⟩
      | .fails f => ⟨[], some (.ofFailure f), 0, none⟩

end ScanJob

end AddonAtlas
