/-!
# Limits of what a process may use

A process has two limits for each kind of thing: one that holds, and the greatest one that it may set. No
limit is greater than every number.
-/

namespace AddonAtlas.Shell

/-- A kind of thing that is limited. -/
structure Resource where
  letter : Char
  name : String
  /-- How many units one step of a limit stands for. -/
  step : Nat
  /-- The limits with which a process starts; nothing is no limit. -/
  holding : Option Nat
  greatest : Option Nat

/-- The limits that a process has set: which kind, the one that holds, and the greatest one. -/
abbrev Limits := List (Char × Option Nat × Option Nat)

namespace Resource

/-- All kinds, in the order in which they are listed. -/
def all : List Resource :=
  [⟨'t', "time(seconds)", 1, none, none⟩, ⟨'f', "file(blocks)", 512, none, none⟩,
    ⟨'d', "data(kbytes)", 1024, none, none⟩, ⟨'s', "stack(kbytes)", 1024, some 8388608, none⟩,
    ⟨'c', "coredump(blocks)", 512, none, none⟩, ⟨'m', "memory(kbytes)", 1024, none, none⟩,
    ⟨'l', "locked memory(kbytes)", 1024, some 8388608, some 8388608⟩, ⟨'p', "process", 1, none, none⟩,
    ⟨'n', "nofiles", 1, some 1048576, some 1048576⟩, ⟨'v', "vmemory(kbytes)", 1024, none, none⟩,
    ⟨'w', "locks", 1, none, none⟩, ⟨'r', "rtprio", 1, some 0, some 0⟩]

/-- The kind for a letter. -/
def ofLetter (c : Char) : Resource :=
  (all.find? fun r => r.letter = c).getD ⟨'f', "file(blocks)", 512, none, none⟩

/-- The limits of a kind: the one that holds, and the greatest one. -/
def limits (r : Resource) (set : Limits) : Option Nat × Option Nat :=
  ((set.find? fun l => l.1 = r.letter).map (·.2)).getD (r.holding, r.greatest)

/-- A limit as it is shown. -/
def shown (r : Resource) : Option Nat → String
  | none => "unlimited\n"
  | some n => toString (n / r.step) ++ "\n"

/-- A line of the list of limits. -/
def listed (r : Resource) (limit : Option Nat) : String :=
  r.name ++ String.ofList (List.replicate (20 - r.name.length) ' ') ++ " " ++ r.shown limit

/-- Whether the first limit is above the second one. -/
def isAbove : Option Nat → Option Nat → Bool
  | _, none => false
  | none, some _ => true
  | some a, some b => b < a

/-- The most files that any process may have open. -/
def mostFiles : Nat := 1048576

/-- The limits after one is set for what holds, for the greatest one, or for both; or why it cannot be set. -/
def change (r : Resource) (set : Limits) (forHolding forGreatest : Bool) (limit : Option Nat) :
    Except String Limits :=
  let (oldHolding, oldGreatest) := r.limits set
  let holding := if forHolding then limit else oldHolding
  let greatest := if forGreatest then limit else oldGreatest
  if isAbove holding greatest then .error "Invalid argument"
  else if isAbove greatest oldGreatest || (r.letter = 'n' && isAbove greatest (some mostFiles)) then
    .error "Operation not permitted"
  else .ok ((r.letter, holding, greatest) :: set.filter fun l => l.1 ≠ r.letter)

end Resource

end AddonAtlas.Shell
