import AddonAtlas.Shell.Condition
import AddonAtlas.Shell.Utility.Basic

/-!
# The program that decides conditions

A condition is given by arguments: properties of texts, numbers and files, negated and joined. Up to four
arguments are understood by their number, more of them by their order. What is wrong with them is told, and the
status is 2.
-/

namespace AddonAtlas.Shell

namespace Utility

open Shell.Action

namespace Testing

/-- The arguments, and the place up to which they were read. -/
structure Place where
  arguments : Array String
  position : Nat

abbrev Reader := StateT Place (ExceptT String (StateM Machine))

/-- The argument at a distance from the place. -/
def at_ (n : Nat) : Reader String := do
  let p ← get
  return p.arguments.getD (p.position + n) ""

/-- How many arguments are left. -/
def left : Reader Nat := do
  let p ← get
  return p.arguments.size - p.position

/-- Tells that arguments are missing. -/
def beyond {α : Type} : Reader α := do
  let p ← get
  throw ("missing argument after " ++ Quotation.quoted (p.arguments.back?.getD ""))

/-- Goes on by one argument, behind which there has to be another one if something is expected. -/
def advance (expectsMore : Bool) : Reader Unit := do
  modify fun p => { p with position := p.position + 1 }
  if expectsMore && (← left) = 0 then beyond

/-- The operators between two operands. -/
def binary : List String :=
  ["=", "!=", "==", "-nt", "-ot", "-ef", "-eq", "-ne", "-lt", "-le", "-gt", "-ge"]

/-- A whole number with blanks around it. -/
def integer (s : String) : Reader Int := do
  let isBlank (c : Char) : Bool := Arithmetic.isSpace c
  let cs := ((s.toList.dropWhile isBlank).reverse.dropWhile isBlank).reverse
  let n? : Option Int :=
    match cs with
    | '-' :: ds => (natural? ds).map fun n => -(n : Int)
    | '+' :: ds => (natural? ds).map fun n => (n : Int)
    | ds => (natural? ds).map fun n => (n : Int)
  match n? with
  | some n => return n
  | none => throw ("invalid integer " ++ Quotation.quoted s)

/-- Whether a file has a property. -/
def fileHolds (operator file : String) : Reader Bool := do
  let m ← getThe Machine
  match (Condition.holds operator file) m with
  | (.ok b, _) => return b
  | (.error _, _) => return false

/-- An operator and the operand behind it. -/
def unary : Reader Bool := do
  let o ← at_ 0
  let letter := o.toList.getD 1 ' '
  if !"eGLNOSbcdfghkprsuwxntz".toList.contains letter then throw (Quotation.quoted o ++ ": unary operator expected")
  if (← left) < 2 then
    let p ← get
    throw ("missing argument after " ++ Quotation.quoted (p.arguments.back?.getD o))
  let a ← at_ 1
  advance false
  advance false
  match letter with
  | 'n' => return !a.isEmpty
  | 'z' => return a.isEmpty
  | 't' =>
    let _ ← integer a
    return false
  | 'N' | 'S' | 'b' | 'g' | 'k' | 'p' | 'u' => return false
  | _ => fileHolds o a

/-- An operator between two operands. `isLength` says that the first one stands behind a sign for its length. -/
def between (isLength : Bool) : Reader Bool := do
  if isLength then advance false
  let a ← at_ 0
  let o ← at_ 1
  let isLengthB := (← at_ 2) = "-l" && 3 < (← left)
  let b ← at_ (if isLengthB then 3 else 2)
  for _ in List.range (if isLengthB then 4 else 3) do advance false
  let number (isLength : Bool) (s : String) : Reader Int := if isLength then return s.length else integer s
  let numbers (p : Int → Int → Bool) : Reader Bool := do
    let x ← number isLength a
    return p x (← number isLengthB b)
  match o with
  | "=" | "==" => return a == b
  | "!=" => return a != b
  | "-eq" => numbers (· == ·)
  | "-ne" => numbers (· != ·)
  | "-lt" => numbers (· < ·)
  | "-le" => numbers (· ≤ ·)
  | "-gt" => numbers (· > ·)
  | "-ge" => numbers (· ≥ ·)
  | "-ef" =>
    let m ← getThe Machine
    return (m.find? a).isSome && m.find? a == m.find? b
  | _ =>
    let m ← getThe Machine
    return if o = "-nt" then (m.find? a).isSome && (m.find? b).isNone else (m.find? b).isSome && (m.find? a).isNone

/-- Whether an argument looks like an operator with one operand. -/
def looksUnary (s : String) : Bool :=
  match s.toList with
  | ['-', _] => true
  | _ => false

mutual

/-- Decides so many arguments. -/
def decideSome : (fuel : Nat) → (count : Nat) → Reader Bool
  | 0, _ => beyond
  | fuel + 1, count => do
    let one : Reader Bool := do
      let a ← at_ 0
      advance false
      return !a.isEmpty
    let two : Reader Bool := do
      let a ← at_ 0
      if a = "!" then
        advance false
        return !(← one)
      else if looksUnary a then unary
      else beyond
    let three : Reader Bool := do
      let a ← at_ 0
      let o ← at_ 1
      if binary.contains o then between false
      else if a = "!" then
        advance true
        return !(← two)
      else if a = "(" ∧ (← at_ 2) = ")" then
        advance false
        let b ← one
        advance false
        return b
      else if o = "-a" ∨ o = "-o" then disjunction fuel
      else throw (Quotation.quoted o ++ ": binary operator expected")
    match count with
    | 0 => beyond
    | 1 => one
    | 2 => two
    | 3 => three
    | 4 =>
      let a ← at_ 0
      if a = "!" then
        advance true
        return !(← three)
      else if a = "(" ∧ (← at_ 3) = ")" then
        advance false
        let b ← two
        advance false
        return b
      else disjunction fuel
    | _ => disjunction fuel

/-- Conditions one of which is to hold. -/
def disjunction : (fuel : Nat) → Reader Bool
  | 0 => beyond
  | fuel + 1 => do
    let a ← conjunction fuel
    if (← at_ 0) = "-o" && 0 < (← left) then
      advance true
      let b ← disjunction fuel
      return a || b
    else return a

/-- Conditions all of which are to hold. -/
def conjunction : (fuel : Nat) → Reader Bool
  | 0 => beyond
  | fuel + 1 => do
    let a ← term fuel
    if (← at_ 0) = "-a" && 0 < (← left) then
      advance true
      let b ← conjunction fuel
      return a && b
    else return a

/-- A single condition, which may be negated. -/
def term : (fuel : Nat) → Reader Bool
  | 0 => beyond
  | fuel + 1 => do
    let n ← left
    if n = 0 then beyond
    let a ← at_ 0
    if a = "!" then
      advance true
      return !(← term fuel)
    else if a = "(" then
      advance true
      let p ← get
      let inner := (p.arguments.toList.drop p.position).takeWhile (· ≠ ")")
      let rest := p.arguments.size - p.position
      let b ← decideSome fuel (if 4 ≤ inner.length ∨ inner.length = rest then (if 4 ≤ inner.length then rest else inner.length) else max inner.length 1)
      if (← left) = 0 then throw "')' expected"
      else if (← at_ 0) ≠ ")" then
        throw ("')' expected, found " ++ Quotation.quoted (← at_ 0))
      advance false
      return b
    else if 4 ≤ n ∧ a = "-l" ∧ binary.contains (← at_ 2) then between true
    else if 3 ≤ n ∧ binary.contains (← at_ 1) then between false
    else if looksUnary a then unary
    else
      advance false
      return !a.isEmpty

end

end Testing

def decideCondition (name : String) (arguments : List String) : Action Nat := do
  let isBracket := basename' name = "["
  if isBracket && arguments.getLast? ≠ some "]" then giveUp name ("missing " ++ Quotation.quoted "]") 2
  else
    let arguments := if isBracket then arguments.dropLast else arguments
    if arguments.isEmpty then return 1
    else
      let n := arguments.length
      let decide : Testing.Reader Bool := do
        let b ← Testing.decideSome (8 * n + 8) n
        if 0 < (← Testing.left) then throw ("extra argument " ++ Quotation.quoted (← Testing.at_ 0))
        return b
      match ((decide.run ⟨arguments.toArray, 0⟩).run (← get)).1 with
      | .ok (b, _) => return if b then 0 else 1
      | .error e => giveUp name e 2
where
  /-- The last part of a path. -/
  basename' (s : String) : String :=
    String.ofList (s.toList.reverse.takeWhile (· != '/')).reverse

end Utility

end AddonAtlas.Shell
