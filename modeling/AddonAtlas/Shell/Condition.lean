import AddonAtlas.Shell.Machine

/-!
# Conditions

The conditions that `test` decides: properties of texts, numbers and files, negated and joined. The
arguments are read from left to right; what an argument means depends on those behind it.
-/

namespace AddonAtlas.Shell

/-- What a path leads to. -/
inductive Found
  | file (place : Location) (size : Nat) (isExecutable : Bool)
  | directory (place : Location)
  | device
deriving DecidableEq

namespace Found

def isFile : Found → Bool
  | file _ _ _ => true
  | _ => false

def isDirectory : Found → Bool
  | directory _ => true
  | _ => false

def isExecutable : Found → Bool
  | file _ _ executable => executable
  | directory _ => true
  | device => false

def isEmpty : Found → Bool
  | file _ size _ => size == 0
  | directory _ => false
  | device => true

end Found

namespace Machine

/-- What a path leads to. -/
def find? (m : Machine) (path : String) : Option Found :=
  match m.tree.resolve (decode path) m.here with
  | .ok (["/", "dev", _], .file _ _) => some .device
  | .ok (place, .file content executable) => some (.file place content.size executable)
  | .ok (place, _) => some (.directory place)
  | .error _ => none

/-- Why a path leads nowhere. -/
def absence (m : Machine) (path : String) : Errno :=
  match m.tree.resolve (decode path) m.here with
  | .error e => e
  | .ok _ => .noEntry

/-- Whether a path names a symbolic link. -/
def isLink (m : Machine) (path : String) : Bool :=
  let path := decode path
  let names := FileTree.names path
  let start := FileTree.origin path m.here
  match m.tree.walk FileTree.maxLinks start names.dropLast with
  | .ok (here, .directory) =>
    match m.tree.find? (here ++ [names.getLastD ""]) with
    | some (.link _) => true
    | _ => false
  | _ => false

end Machine

namespace Condition

/-- The operators with one operand. -/
def unary : List String :=
  ["-r", "-w", "-x", "-e", "-f", "-d", "-c", "-b", "-p", "-u", "-g", "-k", "-s", "-t", "-z", "-n", "-h", "-O",
    "-G", "-L", "-S"]

/-- The operators between two operands. -/
def binary : List String :=
  ["=", "!=", "<", ">", "-eq", "-ne", "-ge", "-gt", "-le", "-lt", "-nt", "-ot", "-ef"]

/-- What an argument is where it stands. -/
inductive Part
  | ending
  | operand
  | unary (operator : String)
  | binary (operator : String)
  | negation
  | conjunction
  | disjunction
  | opening
  | closing
deriving DecidableEq

/-- What the first of some arguments is. An operator with nothing, or with an operator between operands,
behind it is an operand. -/
def part : List String → Part
  | [] => .ending
  | s :: rest =>
    if unary.contains s then
      let isOperand :=
        match rest with
        | [] => true
        | [_] => false
        | o :: _ => binary.contains o
      if isOperand then .operand else .unary s
    else if binary.contains s then .binary s
    else
      match s with
      | "!" => .negation
      | "-a" => .conjunction
      | "-o" => .disjunction
      | "(" => if rest.isEmpty then .operand else .opening
      | ")" => .closing
      | _ => .operand

def integer (s : String) : Action Int := do
  match Arithmetic.readInteger? (some 10) s with
  | some n => return n
  | none => Action.fail ("Illegal number: " ++ s)

/-- Whether a file, or a text, has a property. -/
def holds (operator operand : String) : Action Bool := do
  let m ← get
  let found := m.find? operand
  match operator with
  | "-z" => return operand.isEmpty
  | "-n" => return !operand.isEmpty
  | "-e" | "-r" | "-w" | "-O" | "-G" => return found.isSome
  | "-x" => return found.any Found.isExecutable
  | "-f" => return found.any Found.isFile
  | "-d" => return found.any Found.isDirectory
  | "-c" => return found == some .device
  | "-s" => return found.any fun f => !f.isEmpty
  | "-h" | "-L" => return m.isLink operand
  | "-t" =>
    let _ ← integer operand
    return false
  | _ => return false

def compare (operator a b : String) : Action Bool := do
  let numbers (p : Int → Int → Bool) : Action Bool := do
    let x ← integer a
    return p x (← integer b)
  match operator with
  | "=" => return a == b
  | "!=" => return a != b
  | "<" => return a < b
  | ">" => return b < a
  | "-eq" => numbers (· == ·)
  | "-ne" => numbers (· != ·)
  | "-ge" => numbers (· ≥ ·)
  | "-gt" => numbers (· > ·)
  | "-le" => numbers (· ≤ ·)
  | "-lt" => numbers (· < ·)
  | "-ef" =>
    let m ← get
    return (m.find? a).isSome && m.find? a == m.find? b
  | _ => return false

mutual

/-- Conditions one of which is to hold. What comes back is whether one does, and the arguments from the
last one read on. -/
def disjunction : (fuel : Nat) → (found : Bool) → List String → Part → Action (Bool × List String)
  | 0, found, rest, _ => return (found, rest)
  | fuel + 1, found, rest, p => do
    let (b, rest) ← conjunction fuel true rest p
    let found := found || b
    if part (rest.drop 1) = .disjunction then
      disjunction fuel found (rest.drop 2) (part (rest.drop 2))
    else return (found, rest)

/-- Conditions all of which are to hold. -/
def conjunction : (fuel : Nat) → (found : Bool) → List String → Part → Action (Bool × List String)
  | 0, found, rest, _ => return (found, rest)
  | fuel + 1, found, rest, p => do
    let (b, rest) ← negation fuel rest p
    let found := found && b
    if part (rest.drop 1) = .conjunction then
      conjunction fuel found (rest.drop 2) (part (rest.drop 2))
    else return (found, rest)

def negation : (fuel : Nat) → List String → Part → Action (Bool × List String)
  | 0, rest, _ => return (false, rest)
  | fuel + 1, rest, p => do
    if p = .negation then
      let next := part (rest.drop 1)
      let (b, rest) ← negation fuel (if next = .ending then rest else rest.drop 1) next
      return (!b, rest)
    else primary fuel rest p

def primary : (fuel : Nat) → List String → Part → Action (Bool × List String)
  | 0, rest, _ => return (false, rest)
  | fuel + 1, rest, p => do
    match p, rest with
    | .ending, _ => return (false, rest)
    | .opening, _ :: rest =>
      let next := part rest
      if next = .closing then return (false, rest)
      else
        let (b, rest) ← disjunction fuel false rest next
        if part (rest.drop 1) ≠ .closing then Action.fail "closing paren expected"
        return (b, rest.drop 1)
    | .unary operator, _ :: operand :: rest => return (← holds operator operand, operand :: rest)
    | .unary operator, _ => Action.fail (operator ++ ": argument expected")
    | _, a :: rest =>
      match part rest, rest with
      | .binary operator, _ :: b :: rest => return (← compare operator a b, b :: rest)
      | .binary operator, _ => Action.fail (operator ++ ": argument expected")
      | _, _ => return (!a.isEmpty, a :: rest)
    | _, [] => return (false, [])

end

/-- Decides the condition that all of some arguments stand for, the first of which is a part. -/
def whole (arguments : List String) (p : Part) : Action Bool := do
  let (b, rest) ← disjunction (4 * arguments.length + 4) false arguments p
  match rest with
  | s :: _ :: _ => Action.fail (if s.isEmpty then "unexpected operator" else s ++ ": unexpected operator")
  | _ => return b

/-- Decides the condition that arguments stand for. Three and four of them are understood by their
number. -/
def decide : List String → Action Bool
  | [] => return false
  | [a, o, b] => do
    if binary.contains o then whole [a, o, b] .operand
    else if a = "(" && b = ")" then whole [o] (part [o])
    else if a = "!" then return !(← whole [o, b] (part [o, b]))
    else whole [a, o, b] (part [a, o, b])
  | [a, b, c, d] => do
    if a = "(" && d = ")" then whole [b, c] (part [b, c])
    else if a = "!" then return !(← decide [b, c, d])
    else whole [a, b, c, d] (part [a, b, c, d])
  | arguments => whole arguments (part arguments)

end Condition

end AddonAtlas.Shell
