import AddonAtlas.Server.Basic

/-!
# Overlapping calls

Calls that are known by a name and overlap. A call is begun with its scan held back; it is released,
waited for, or cancelled later, in any order. Time passes while a call is waited for or a scan runs; a call
whose time is over by then ends first, wherever its scan is.
-/

namespace AddonAtlas

/-- How far a named call has come. -/
inductive CallState
  | ended (answer : Except Failure Reply)
  /-- Its scan is held back. `deadline` is when its time is over. -/
  | held (w : Waiting) (deadline : Option Nat)
  /-- Its scan goes on for ever, up to the time limit. -/
  | stuck (w : Waiting) (deadline : Option Nat)
  | cancelled

/-- When the time of a call is over that has not ended. -/
def CallState.due? : CallState → Option (Nat × Waiting)
  | held w deadline | stuck w deadline => deadline.map fun t => (t, w)
  | _ => none

/-- A server with its named calls, in the order in which they were begun. -/
structure Desk where
  server : Server
  calls : List (String × CallState)
  /-- The time that has passed, in billionths of a second. -/
  now : Nat

namespace Desk

def new (s : Server) : Desk :=
  ⟨s, [], 0⟩

def find? (d : Desk) (id : String) : Option CallState :=
  (d.calls.find? fun c => c.1 = id).map (·.2)

def put (d : Desk) (id : String) (c : CallState) : Desk :=
  if (d.find? id).isSome then
    { d with calls := d.calls.map fun x => if x.1 = id then (id, c) else x }
  else { d with calls := d.calls ++ [(id, c)] }

/-- What can be said of a call: nothing while it waits for its scan. -/
abbrev Told := Option (Except Failure Reply)

/-- Finishes a call with the outcome of its scan. -/
def conclude (d : Desk) (id : String) (w : Waiting) (o : ScanOutcome) : Desk × Told × Log :=
  let (s, answer, log) := d.server.finish w.purpose o
  ({ d with server := s }.put id (.ended answer), some answer, log)

/-- The calls whose time is over at a moment, the one with the least time first. -/
def due (d : Desk) (moment : Nat) : List (Nat × String × Waiting) :=
  let all := d.calls.filterMap fun (id, c) => c.due?.map fun (t, w) => (t, id, w)
  (all.filter (·.1 ≤ moment)).mergeSort fun a b => decide (a.1 ≤ b.1)

/-- Lets time pass up to a moment. -/
def passTo (d : Desk) (moment : Nat) : Desk × Log :=
  let (d, log) := (d.due moment).foldl (fun (d, log) (_, id, w) =>
    let (d, _, more) := d.conclude id w .timedOut
    (d, log ++ more)) (d, [])
  ({ d with now := max d.now moment }, log)

/-- Lets a scan take its course, while time passes for the other calls. -/
def follow (d : Desk) (c : ScanCourse) : Desk × Log :=
  let (d, log) := d.passTo (d.now + c.lasts)
  ({ d with server := d.server.withTree c.tree }, log ++ c.log)

/-- Begins a call and holds its scan back. A call whose time is over at once ends. -/
def start (d : Desk) (id : String) (r : Request) : Desk × Told × Log :=
  match d.server.begin r with
  | (s, .ended answer, log) =>
    ({ d with server := s }.put id (.ended answer), some answer, log)
  | (s, .waiting w, log) =>
    let d := { d with server := s }
    if w.job.isOver then
      let (d, told, more) := d.conclude id w .timedOut
      (d, told, log ++ more)
    else (d.put id (.held w (w.job.limit?.map (d.now + ·))), none, log)

/-- Lets a call's scan run. -/
def release (d : Desk) (id : String) : Desk × Told × Log :=
  match d.find? id with
  | some (.ended answer) => (d, some answer, [])
  | some (.held w deadline) =>
    match w.job.scanner with
    | .scripted _ .hangs => (d.put id (.stuck w deadline), none, [])
    | _ =>
      let c := w.job.run d.server.tree (deadline.map (· - d.now))
      match c.outcome with
      | none => (d.put id (.stuck w deadline), none, c.log)
      | some o =>
        let (d, log) := (d.put id (.stuck w none)).follow c
        let (d, told, more) := d.conclude id w o
        (d, told, log ++ more)
  | _ => (d, none, [])

/-- Lets the scans of several calls run, one after the other. -/
def releaseAll (d : Desk) : List String → Desk × List Told × Log
  | [] => (d, [], [])
  | id :: rest =>
    let (d, told, log) := d.release id
    let (d, more, logs) := d.releaseAll rest
    (d, told :: more, log ++ logs)

/-- Waits for a call until its time is over. -/
def wait (d : Desk) (id : String) : Desk × Told × Log :=
  match d.find? id with
  | some (.ended answer) => (d, some answer, [])
  | some (.held _ (some moment)) | some (.stuck _ (some moment)) =>
    let (d, log) := d.passTo moment
    match d.find? id with
    | some (.ended answer) => (d, some answer, log)
    | _ => (d, none, log)
  | _ => (d, none, [])

/-- Cancels a call, unless it has ended, and says whether it is cancelled. -/
def cancel (d : Desk) (id : String) : Desk × Bool :=
  match d.find? id with
  | some (.ended _) | none => (d, false)
  | _ => (d.put id .cancelled, true)

/-- Answers a request from its beginning to its end; no answer if its scan never ends. -/
def answer (d : Desk) (r : Request) : Desk × Told × Log :=
  match d.server.begin r with
  | (s, .ended answer, log) => ({ d with server := s }, some answer, log)
  | (s, .waiting w, log) =>
    let c := w.job.run s.tree w.job.limit?
    let (d, more) := { d with server := s }.follow c
    match c.outcome with
    | none => (d, none, log ++ more)
    | some o =>
      let (s, answer, last) := d.server.finish w.purpose o
      ({ d with server := s }, some answer, log ++ more ++ last)

end Desk

end AddonAtlas
