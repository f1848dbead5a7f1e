import AddonAtlas.Shell.Condition
import AddonAtlas.Shell.Expansion
import AddonAtlas.Shell.Expression.Reading

/-!
# Conditions of the wide dialect

The conditions that `test` decides in the wide dialect, which it understands by their number of arguments, and
those between double brackets, in which texts are compared with patterns and regular expressions, and numbers
may be sums.
-/

namespace AddonAtlas.Shell.Wide

open Shell.Action

/-! ## Single conditions -/

/-- Whether an argument is an operator with one operand. -/
def isUnary (s : String) : Bool :=
  ScriptReader.isUnaryTest s

/-- The operators between two operands. -/
def binaryOperators : List String :=
  ["=", "==", "!=", "<", ">", "-eq", "-ne", "-lt", "-le", "-gt", "-ge", "-nt", "-ot", "-ef"]

/-- A fault of a condition. -/
def refuseCondition {α : Type} (message : String) : Action α := do
  complain message
  modify fun m => { m with status := 2 }
  throw .failure

/-- A whole number as `test` reads it. -/
def conditionNumber (s : String) : Action Int := do
  match Arithmetic.readInteger? (some 10) s with
  | some n => return n
  | none => refuseCondition (s ++ ": integer expression expected")

/-- Whether a text, a file or a variable has a property. -/
def holds (operator operand : String) : Action Bool := do
  let m ← get
  match operator with
  | "-a" => return (m.find? operand).isSome
  | "-v" =>
    match ← reference operand with
    | (name, some place) =>
      if place = "@" || place = "*" then return (m.elements? name).any fun e => !e.items.isEmpty
      else return (m.element? name place).isSome
    | (name, none) => return (m.value? name).isSome || (name.toList.all isDigit && (m.parameter? name).isSome)
  | "-R" => return (m.binding? operand).any fun v => v.traits.contains 'n' && v.value.isSome
  | "-o" =>
    return (Machine.wideOptionNames.any fun o => o.2 = operand && m.hasOption o.1) ||
      (operand = "pipefail" && m.hasChoice "pipefail")
  | "-t" => return false
  | _ => Condition.holds operator operand

/-- Whether two texts, numbers or files compare as asked for; `number` reads numbers. -/
def compares (number : String → Action Int) (operator a b : String) : Action Bool := do
  let numbers (p : Int → Int → Bool) : Action Bool := do
    let x ← number a
    return p x (← number b)
  let m ← get
  match operator with
  | "=" | "==" => return a == b
  | "-eq" => numbers (· == ·)
  | "-ne" => numbers (· != ·)
  | "-ge" => numbers (· ≥ ·)
  | "-gt" => numbers (· > ·)
  | "-le" => numbers (· ≤ ·)
  | "-lt" => numbers (· < ·)
  | "-nt" => return (m.find? a).isSome && (m.find? b).isNone
  | "-ot" => return (m.find? a).isNone && (m.find? b).isSome
  | _ => Condition.compare operator a b

/-! ## Arguments of `test` -/

/-- A condition with an operator between its operands. -/
def compared (operator a b : String) : Action Bool :=
  compares conditionNumber operator a b

/-- The condition of one operator with its operand. -/
def twoArguments (a b : String) : Action Bool := do
  if a = "!" then return b.isEmpty
  else if isUnary a then holds a b
  else refuseCondition (a ++ ": unary operator expected")

/-- The condition of three arguments. -/
def threeArguments (a b c : String) : Action Bool := do
  if binaryOperators.contains b then compared b a c
  else if b = "-a" then return !a.isEmpty && !c.isEmpty
  else if b = "-o" then return !a.isEmpty || !c.isEmpty
  else if a = "!" then return !(← twoArguments b c)
  else if a = "(" && c = ")" then return !b.isEmpty
  else refuseCondition (b ++ ": binary operator expected")

mutual

/-- Conditions one of which is to hold, and the arguments behind them. `closing` stands behind all arguments. -/
def anyOf (closing : String) : (fuel : Nat) → List String → Action (Bool × List String)
  | 0, rest => return (false, rest)
  | fuel + 1, rest => do
    let (a, rest) ← allOf closing fuel rest
    match rest with
    | "-o" :: rest =>
      let (b, rest) ← anyOf closing fuel rest
      return (a || b, rest)
    | rest => return (a, rest)

/-- Conditions all of which are to hold, and the arguments behind them. -/
def allOf (closing : String) : (fuel : Nat) → List String → Action (Bool × List String)
  | 0, rest => return (false, rest)
  | fuel + 1, rest => do
    let (a, rest) ← single closing fuel rest
    match rest with
    | "-a" :: rest =>
      let (b, rest) ← allOf closing fuel rest
      return (a && b, rest)
    | rest => return (a, rest)

/-- One condition, and the arguments behind it. -/
def single (closing : String) : (fuel : Nat) → List String → Action (Bool × List String)
  | 0, rest => return (false, rest)
  | fuel + 1, rest => do
    match rest with
    | [] => refuseCondition "argument expected"
    | "!" :: rest =>
      let (b, rest) ← single closing fuel rest
      return (!b, rest)
    | "(" :: rest =>
      let (b, rest) ← anyOf closing fuel rest
      match rest with
      | ")" :: rest => return (b, rest)
      | [] =>
        refuseCondition (ScriptReader.named ")" ++ " expected" ++ (if closing.isEmpty then "" else ", found " ++ closing))
      | found :: _ => refuseCondition (ScriptReader.named ")" ++ " expected, found " ++ found)
    | a :: o :: b :: rest =>
      if binaryOperators.contains o then return (← compared o a b, rest)
      else if isUnary a then return (← holds a o, b :: rest)
      else return (!a.isEmpty, o :: b :: rest)
    | [a, b] => if isUnary a then return (← holds a b, []) else return (!a.isEmpty, [b])
    | [a] => return (!a.isEmpty, [])

end

/-- The condition of any number of arguments. -/
def manyArguments (closing : String) (arguments : List String) : Action Bool := do
  let (b, rest) ← anyOf closing (4 * arguments.length + 4) arguments
  match rest with
  | [] => return b
  | s :: _ =>
    if s.startsWith "-" then
      refuseCondition ("syntax error: " ++ ScriptReader.named s ++ " unexpected")
    else refuseCondition "too many arguments"

/-- Decides the condition that arguments stand for. -/
def decideArguments (closing : String) : List String → Action Bool
  | [] => return false
  | [a] => return !a.isEmpty
  | [a, b] => twoArguments a b
  | [a, b, c] => threeArguments a b c
  | [a, b, c, d] => do
    if a = "!" then return !(← threeArguments b c d)
    else if a = "(" && d = ")" then twoArguments b c
    else manyArguments closing [a, b, c, d]
  | arguments => manyArguments closing arguments

/-! ## Conditions between double brackets -/

/-- A field as the text of a regular expression, in which what stands for itself is escaped. -/
def expressionText (f : Field) : List Char :=
  f.flatMap fun (c, isLiteral) =>
    if isLiteral && "\\^$.|?*+()[]\x7b\x7d".toList.contains c then ['\\', c] else [c]

/-- The style of regular expressions between double brackets. -/
def conditionStyle : Expression.Style :=
  ⟨true, true, false, false⟩

/-- Whether a text matches a regular expression; the parts that matched are kept in a list. -/
def matchesExpression (text : String) (pattern : Field) : Action Bool := do
  match Expression.parse conditionStyle (expressionText pattern) with
  | .error _ =>
    modify fun m => { m with status := 2 }
    throw .failure
  | .ok e =>
    let e := if (← get).hasChoice "nocasematch" then e.ignoringCase else e
    let cs := text.toList
    let between (i j : Nat) : String := String.ofList ((cs.drop i).take (j - i))
    match e.search? (Expression.subject cs) 0 with
    | none =>
      storeList "BASH_REMATCH" (Elements.empty false)
      return false
    | some (i, j, groups) =>
      let parts := (List.range e.groupCount).map fun n =>
        match Expression.find? groups (n + 1) with
        | some (i, j) => between i j
        | none => ""
      storeList "BASH_REMATCH" (Elements.ofValues (between i j :: parts))
      return true

/-- A sum in a condition. -/
def conditionSum (s : String) : Action Int := do
  match ← reckon? s with
  | .ok n => return n
  | .error message =>
    modify fun m => { m with command := some "[[" }
    complain message
    modify fun m => { m with command := none, status := 1 }
    throw .failure

/-- Decides a condition between double brackets. -/
def decideTest (capture : Capture) : Test → Action Bool
  | .word w => do return !(← Expansion.text capture w).isEmpty
  | .one operator w => do holds operator (← Expansion.text capture w)
  | .two operator first second => do
    let a ← Expansion.text capture first
    let field ← Expansion.field capture second
    let m ← get
    match operator with
    | "=~" => matchesExpression a field
    | "==" | "=" => return m.matchesPattern true (m.hasChoice "nocasematch") field.pattern a.toList
    | "!=" => return !m.matchesPattern true (m.hasChoice "nocasematch") field.pattern a.toList
    | _ => compares conditionSum operator a field.text
  | .both first second => do
    if ← decideTest capture first then decideTest capture second else return false
  | .either first second => do
    if ← decideTest capture first then return true else decideTest capture second
  | .negation t => do return !(← decideTest capture t)

end AddonAtlas.Shell.Wide
