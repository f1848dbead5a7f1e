import AddonAtlas.Number.Instances
import AddonAtlas.Shell.Syntax

/-!
# Arithmetic of scripts

Expressions over variables and integers of 64 bits, which wrap around. An expression is read and its
value found at once, from the weakest operators to the strongest. Where the value of a part cannot
matter, the part is read all the same, but nothing is assigned in it and no division fails.
-/

namespace AddonAtlas.Shell

/-- What is wrong with an expression. -/
inductive ArithmeticProblem
  | noOperand
  | noColon
  | noChoice
  | openParenthesis
  | noEnd
  | zeroDivisor
  | assignment
  | negativeExponent
  | digit
  | base
  | constant
  | index
  | sign
deriving DecidableEq, Repr

/-- Why an expression has no value. -/
inductive ArithmeticFault
  /-- The expression is not well formed, or divides by zero, where a part of it begins. -/
  | expression (problem : ArithmeticProblem) (token : String)
  /-- A variable's value is no number. -/
  | number (text : String)
deriving DecidableEq, Repr

namespace Arithmetic

/-! ## Integers -/

/-- The integer of 64 bits that a number is, up to multiples of their range. -/
def wrap (n : Int) : Int :=
  (n + 2 ^ 63) % 2 ^ 64 - 2 ^ 63

def greatest : Int := 2 ^ 63 - 1

def least : Int := -2 ^ 63

/-- The value of a digit of any base. -/
def digitValue (c : Char) : Nat :=
  if isDigit c then c.toNat - 48
  else if 'a' ≤ c ∧ c ≤ 'z' then c.toNat - 87
  else if 'A' ≤ c ∧ c ≤ 'Z' then c.toNat - 55
  else 36

/-- The number that leading digits of a base stand for, and what follows them. -/
def digitsOf (base : Nat) (cs : List Char) : Nat × List Char :=
  let ds := cs.takeWhile fun c => digitValue c < base
  (ds.foldl (fun n c => base * n + digitValue c) 0, cs.drop ds.length)

/-- The number that leading digits stand for, in the base that their first ones mark: hexadecimal, octal or
decimal. -/
def unsigned (cs : List Char) : Nat × List Char :=
  match cs with
  | '0' :: x :: d :: rest =>
    if (x = 'x' ∨ x = 'X') ∧ digitValue d < 16 then digitsOf 16 (d :: rest) else digitsOf 8 cs
  | '0' :: _ => digitsOf 8 cs
  | _ => digitsOf 10 cs

def isSpace (c : Char) : Bool :=
  c == ' ' || ('\t' ≤ c && c ≤ '\r')

/-- A number at the start of a text: white space, a sign and digits; what follows it, which is the whole text
if there are no digits. -/
def leadingNumber (base? : Option Nat) (cs : List Char) : Int × List Char :=
  let body := cs.dropWhile isSpace
  let (negative, digits) :=
    match body with
    | '-' :: rest => (true, rest)
    | '+' :: rest => (false, rest)
    | rest => (false, rest)
  if digits.head?.any isDigit then
    let (n, rest) :=
      match base? with
      | some base => digitsOf base digits
      | none => unsigned digits
    (if negative then -(n : Int) else n, rest)
  else (0, cs)

/-- The integer that a whole text stands for, with white space around it. In a base of its own it may be
blank, which is zero. -/
def readInteger? (base? : Option Nat) (s : String) : Option Int :=
  let cs := s.toList
  let (n, rest) := leadingNumber base? cs
  if n < least ∨ greatest < n then none
  else if base?.isSome ∧ rest.length = cs.length then none
  else if rest.all isSpace then some n
  else none

/-! ## Symbols -/

inductive Symbol
  | number (n : Int)
  | name (s : String)
  | operator (s : String)
  /-- Something that belongs to no expression. -/
  | stray (p : ArithmeticProblem)
deriving DecidableEq, Repr

/-- The operators, those first that begin with others. -/
def operators : List String :=
  ["<<=", ">>=", "<=", ">=", "<<", ">>", "<", ">", "==", "=", "||", "|=", "|", "&&", "&=", "&", "!=", "!",
    "(", ")", "*=", "*", "/=", "/", "%=", "%", "+=", "+", "-=", "-", "~", "^=", "^", "?", ":"]

/-- The symbols of an expression, up to something that is none. -/
def symbols : (fuel : Nat) → List Char → List (Symbol × String)
  | 0, _ => []
  | _ + 1, [] => []
  | fuel + 1, c :: cs =>
    let here := String.ofList (c :: cs)
    if c = ' ' ∨ c = '\t' ∨ c = '\n' then symbols fuel cs
    else if isDigit c then
      let (n, rest) := unsigned (c :: cs)
      (.number (min n greatest), here) :: symbols fuel rest
    else if isNameStart c then
      let name := (c :: cs).takeWhile isNamePart
      (.name (String.ofList name), here) :: symbols fuel ((c :: cs).drop name.length)
    else
      match operators.find? fun o => o.toList.isPrefixOf (c :: cs) with
      | some o => (.operator o, here) :: symbols fuel ((c :: cs).drop o.length)
      | none => [(.stray .noOperand, here)]

/-! ### The wide dialect -/

/-- The value of a digit of a large base. -/
def wideDigit (base : Nat) (c : Char) : Nat :=
  if c = '@' then 62
  else if c = '_' then 63
  else if base ≤ 36 then digitValue c
  else if 'A' ≤ c ∧ c ≤ 'Z' then c.toNat - 29
  else digitValue c

/-- The number that a constant is, perhaps with its base in front. -/
def constant (cs : List Char) : Except ArithmeticProblem Int :=
  let inBase (base : Nat) (ds : List Char) : Except ArithmeticProblem Int :=
    if ds.all fun c => wideDigit base c < base then
      .ok (wrap (ds.foldl (fun (n : Int) c => base * n + wideDigit base c) 0))
    else .error .digit
  let front := cs.takeWhile (· != '#')
  match cs.drop front.length with
  | _ :: ds =>
    match inBase 10 front with
    | .ok base =>
      if base < 2 ∨ 64 < base then .error .base
      else if ds.isEmpty then .error .constant
      else inBase base.toNat ds
    | .error e => .error e
  | [] =>
    match cs with
    | '0' :: x :: ds =>
      if x = 'x' ∨ x = 'X' then inBase 16 ds else inBase 8 (x :: ds)
    | _ => inBase 10 cs

/-- An index behind a name, with its brackets, and what follows it. -/
def indexText? : (depth : Nat) → List Char → Option (List Char × List Char)
  | _, [] => none
  | depth, c :: cs =>
    if c = ']' && depth = 1 then some ([c], cs)
    else
      let depth := if c = '[' then depth + 1 else if c = ']' then depth - 1 else depth
      (indexText? depth cs).map fun (text, rest) => (c :: text, rest)

/-- The symbols of an expression of the wide dialect; `afterName` says that a name stands in front. -/
def wideSymbols : (fuel : Nat) → (afterName : Bool) → List Char → List (Symbol × String)
  | 0, _, _ => []
  | _ + 1, _, [] => []
  | fuel + 1, afterName, c :: cs =>
    let here := String.ofList (c :: cs)
    if c = ' ' ∨ c = '\t' ∨ c = '\n' then wideSymbols fuel afterName cs
    else if isDigit c then
      let text := (c :: cs).takeWhile fun d => isNamePart d || d == '#' || d == '@'
      let symbol : Symbol :=
        match constant text with
        | .ok n => .number n
        | .error p => .stray p
      (symbol, here) :: wideSymbols fuel false ((c :: cs).drop text.length)
    else if isNameStart c then
      let name := (c :: cs).takeWhile isNamePart
      let rest := (c :: cs).drop name.length
      match rest with
      | '[' :: _ =>
        match indexText? 0 rest with
        | some (index, rest) => (.name (String.ofList (name ++ index)), here) :: wideSymbols fuel true rest
        | none => [(.stray .index, here)]
      | _ => (.name (String.ofList name), here) :: wideSymbols fuel true rest
    else
      let isDouble := (c = '+' || c = '-') && cs.head? = some c
      let standsAtName := afterName || ((cs.drop 1).dropWhile isSpace).head?.any isNameStart
      if isDouble && standsAtName then
        (.operator (String.ofList [c, c]), here) :: wideSymbols fuel false (cs.drop 1)
      else if c = '*' && cs.head? = some '*' && (cs.drop 1).head? ≠ some '=' then
        (.operator "**", here) :: wideSymbols fuel false (cs.drop 1)
      else if c = ',' then (.operator ",", here) :: wideSymbols fuel false cs
      else
        match operators.find? fun o => o.toList.isPrefixOf (c :: cs) with
        | some o => (.operator o, here) :: wideSymbols fuel false ((c :: cs).drop o.length)
        | none => [(.stray .sign, here)]

/-! ## Values -/

def truth (b : Bool) : Int :=
  if b then 1 else 0

/-- The strength of an operator between two values, which is less the stronger it binds. -/
def strength? (operator : String) : Option Nat :=
  [["*", "/", "%"], ["+", "-"], ["<<", ">>"], ["<", "<=", ">", ">="], ["==", "!="], ["&"], ["^"],
    ["|"]].findIdx? fun level => level.contains operator

/-- The strength behind those of all operators. -/
def weakest : Nat := 8

/-- A number by its bits. -/
def bits (n : Int) : Nat :=
  (n % 2 ^ 64).toNat

/-- The value of an operator between two values; division by zero has none. -/
def operate (operator : String) (a b : Int) : Option Int :=
  match operator with
  | "*" => some (wrap (a * b))
  | "/" => if b = 0 then none else some (wrap (a.tdiv b))
  | "%" => if b = 0 then none else some (a.tmod b)
  | "+" => some (wrap (a + b))
  | "-" => some (wrap (a - b))
  | "<<" => some (wrap (a * 2 ^ (bits b % 64)))
  | ">>" => some (a / 2 ^ (bits b % 64))
  | "<" => some (truth (a < b))
  | "<=" => some (truth (a ≤ b))
  | ">" => some (truth (b < a))
  | ">=" => some (truth (b ≤ a))
  | "==" => some (truth (a == b))
  | "!=" => some (truth (a != b))
  | "&" => some (wrap (bits a &&& bits b : Nat))
  | "^" => some (wrap (bits a ^^^ bits b : Nat))
  | _ => some (wrap (bits a ||| bits b : Nat))

/-- What variables are worth. -/
structure Valuation where
  value : String → Option String
  /-- Whether the places of a variable's values are names. -/
  isNamed : String → Bool
  dialect : Dialect

/-- A number raised to a power. -/
def raise : (fuel : Nat) → (a : Int) → (n : Nat) → Int
  | 0, _, _ => 1
  | fuel + 1, a, n =>
    if n = 0 then 1
    else
      let half := raise fuel (wrap (a * a)) (n / 2)
      if n % 2 = 1 then wrap (a * half) else half

/-- An expression that is being read: its remaining symbols, each with the text that it begins, the text of the
symbol before, and what the expression has assigned. -/
structure Reading where
  rest : List (Symbol × String)
  last : String
  assigned : List (String × Int)

abbrev Reckoner := StateT Reading (Except ArithmeticFault)

/-- Refuses the expression at the next symbol, or at the last one. -/
def fail {α : Type} (p : ArithmeticProblem) : Reckoner α := do
  let r ← get
  match r.rest with
  | (.stray q, token) :: _ =>
    throw (.expression (if q = .noOperand || (q = .sign && p = .noOperand) then p else q) token)
  | (_, token) :: _ => throw (.expression p token)
  | [] => throw (.expression p r.last)

/-- Refuses the expression at the last symbol. -/
def failBefore {α : Type} (p : ArithmeticProblem) : Reckoner α := do
  throw (.expression p (← get).last)

/-- The operator that comes next. -/
def ahead : Reckoner (Option String) := do
  match (← get).rest with
  | (.operator o, _) :: _ => return some o
  | _ => return none

def skip : Reckoner Unit :=
  modify fun r => { r with rest := r.rest.drop 1, last := (r.rest.head?.map (·.2)).getD r.last }

def compute (operator : String) (a b : Int) : Reckoner Int :=
  match operate operator a b with
  | some n => return n
  | none => failBefore .zeroDivisor

/-- The operator of an assignment that also computes. -/
def assigning? (operator : String) : Option String :=
  if operator = "=" then some ""
  else
    match operator.toList.reverse with
    | '=' :: rest => some (String.ofList rest.reverse) |>.filter fun o => (strength? o).isSome && o != "<" && o != ">"
    | _ => none

/-- The name of a variable, and the index with its brackets. -/
def nameParts (s : String) : String × Option String :=
  let name := s.toList.takeWhile (· != '[')
  match s.toList.drop name.length with
  | [] => (s, none)
  | index => (String.ofList name, some (String.ofList ((index.drop 1).dropLast)))

mutual

/-- Expressions of which the last one's value counts. -/
def sequence (v : Valuation) : (fuel : Nat) → (idle : Bool) → Reckoner Int
  | 0, _ => fail .noOperand
  | fuel + 1, idle => do
    let n ← expression v fuel idle
    if (← ahead) = some "," then
      skip
      sequence v fuel idle
    else return n

/-- A whole expression: an assignment, or a value. `idle` says that the value cannot matter. -/
def expression (v : Valuation) : (fuel : Nat) → (idle : Bool) → Reckoner Int
  | 0, _ => fail .noOperand
  | fuel + 1, idle => do
    match (← get).rest with
    | (.name name, _) :: (.operator o, _) :: _ =>
      match assigning? o with
      | none => choice v fuel idle
      | some computing =>
        skip
        skip
        let n ← expression v fuel idle
        if idle then return n
        else
          let name ← settled v fuel name
          let n ← if computing = "" then pure n else do compute computing (← valueOf v fuel name) n
          modify fun r => { r with assigned := (name, n) :: r.assigned }
          return n
    | _ => choice v fuel idle

/-- The name of a variable with its index worked out. -/
def settled (v : Valuation) : (fuel : Nat) → (name : String) → Reckoner String
  | 0, _ => fail .noOperand
  | fuel + 1, name => do
    match nameParts name with
    | (_, none) => return name
    | (base, some index) =>
      if v.isNamed base then return name
      else return base ++ "[" ++ toString (← inner v fuel index) ++ "]"

/-- The value of an expression inside of another one. -/
def inner (v : Valuation) : (fuel : Nat) → (text : String) → Reckoner Int
  | 0, _ => fail .noOperand
  | fuel + 1, text => do
    let r ← get
    let symbols := wideSymbols (text.length + 1) false text.toList
    if symbols.isEmpty then return 0
    else
      set { r with rest := symbols, last := text }
      let n ← sequence v fuel false
      if !(← get).rest.isEmpty then fail .noEnd
      modify fun after => { after with rest := r.rest, last := r.last }
      return n

/-- The value of a variable. One without a value is zero. -/
def valueOf (v : Valuation) : (fuel : Nat) → (name : String) → Reckoner Int
  | 0, _ => fail .noOperand
  | fuel + 1, name => do
    match (← get).assigned.find? fun x => x.1 = name with
    | some (_, n) => return n
    | none =>
      let text := (v.value name).getD ""
      match readInteger? none text with
      | some n => return n
      | none => if v.dialect = .wide then inner v fuel text else throw (.number text)

/-- A value, perhaps one of two that a condition chooses from. -/
def choice (v : Valuation) : (fuel : Nat) → (idle : Bool) → Reckoner Int
  | 0, _ => fail .noOperand
  | fuel + 1, idle => do
    let a ← disjunction v fuel idle
    if (← ahead) = some "?" then
      skip
      let b ← expression v fuel (idle || a == 0)
      if (← ahead) ≠ some ":" then fail .noColon
      skip
      if (← get).rest.isEmpty then fail .noChoice
      let c ← choice v fuel (idle || a != 0)
      return if a != 0 then b else c
    else return a

def disjunction (v : Valuation) : (fuel : Nat) → (idle : Bool) → Reckoner Int
  | 0, _ => fail .noOperand
  | fuel + 1, idle => do
    let a ← conjunction v fuel idle
    if (← ahead) = some "||" then
      skip
      let b ← disjunction v fuel (idle || a != 0)
      return truth (a != 0 || b != 0)
    else return a

def conjunction (v : Valuation) : (fuel : Nat) → (idle : Bool) → Reckoner Int
  | 0, _ => fail .noOperand
  | fuel + 1, idle => do
    let a ← operation v fuel weakest idle (← power v fuel idle)
    if (← ahead) = some "&&" then
      skip
      let b ← conjunction v fuel (idle || a == 0)
      return truth (a != 0 && b != 0)
    else return a

/-- What follows a value: operators that bind more strongly than `limit`, each with another value. -/
def operation (v : Valuation) : (fuel limit : Nat) → (idle : Bool) → Int → Reckoner Int
  | 0, _, _, _ => fail .noOperand
  | fuel + 1, limit, idle, a => do
    match (← ahead).bind fun o => (strength? o).map fun s => (o, s) with
    | some (o, s) =>
      if s < limit then
        skip
        let b ← operation v fuel s idle (← power v fuel idle)
        let a ← if idle then pure b else compute o a b
        operation v fuel limit idle a
      else return a
    | none => return a

/-- A value, perhaps raised to a power. -/
def power (v : Valuation) : (fuel : Nat) → (idle : Bool) → Reckoner Int
  | 0, _ => fail .noOperand
  | fuel + 1, idle => do
    let a ← primary v fuel idle
    if (← ahead) = some "**" then
      skip
      let b ← power v fuel idle
      if b < 0 then failBefore .negativeExponent
      return raise 64 a b.toNat
    else return a

/-- Changes a variable by one; the values before and after. -/
def change (v : Valuation) : (fuel : Nat) → (idle : Bool) → (operator name : String) → Reckoner (Int × Int)
  | 0, _, _, _ => fail .noOperand
  | fuel + 1, idle, operator, name => do
    if idle then return (0, 0)
    else
      let name ← settled v fuel name
      let n ← valueOf v fuel name
      let m := wrap (if operator = "++" then n + 1 else n - 1)
      modify fun r => { r with assigned := (name, m) :: r.assigned }
      return (n, m)

/-- A number, a variable, a value in parentheses, or one of these behind signs. -/
def primary (v : Valuation) : (fuel : Nat) → (idle : Bool) → Reckoner Int
  | 0, _ => fail .noOperand
  | fuel + 1, idle => do
    match (← get).rest with
    | (.number n, _) :: _ =>
      skip
      return n
    | (.name name, _) :: _ =>
      skip
      match ← ahead with
      | some "++" | some "--" =>
        let operator := (← ahead).getD ""
        skip
        return (← change v fuel idle operator name).1
      | _ => if idle then return 0 else valueOf v fuel (← settled v fuel name)
    | (.operator "(", _) :: _ =>
      skip
      let n ← sequence v fuel idle
      if (← ahead) ≠ some ")" then fail .openParenthesis
      skip
      return n
    | (.operator "+", _) :: _ =>
      skip
      primary v fuel idle
    | (.operator "-", _) :: _ =>
      skip
      return wrap (-(← primary v fuel idle))
    | (.operator "!", _) :: _ =>
      skip
      return truth ((← primary v fuel idle) == 0)
    | (.operator "~", _) :: _ =>
      skip
      return wrap (-(← primary v fuel idle) - 1)
    | (.operator o, _) :: (.name name, _) :: _ =>
      if o = "++" || o = "--" then
        skip
        skip
        return (← change v fuel idle o name).2
      else fail .noOperand
    | _ => fail .noOperand

end

/-- The value of an expression, and the variables it assigns, the first one first. -/
def evaluate (v : Valuation) (source : String) : Except ArithmeticFault (Int × List (String × Int)) := do
  let cs := source.toList
  let symbols :=
    match v.dialect with
    | .plain => symbols (cs.length + 1) cs
    | .wide => wideSymbols (cs.length + 1) false cs
  if v.dialect = .wide && symbols.isEmpty then return (0, [])
  else
    let whole : Reckoner Int := do
      let n ← if v.dialect = .wide then sequence v (8 * symbols.length + 1000) false
        else expression v (8 * symbols.length + 16) false
      match (← get).rest with
      | [] => return n
      | (.operator "=", _) :: _ => fail .assignment
      | _ => fail .noEnd
    let (n, r) ← whole.run ⟨symbols, source, []⟩
    return (n, r.assigned.reverse)

end Arithmetic

/-- What the plain dialect says of a problem. -/
def ArithmeticProblem.plainMessage : ArithmeticProblem → String
  | noColon => "expecting ':'"
  | openParenthesis => "expecting ')'"
  | zeroDivisor => "division by zero"
  | noOperand => "expecting primary"
  | _ => "expecting EOF"

/-- What the wide dialect says of a problem. -/
def ArithmeticProblem.wideMessage : ArithmeticProblem → String
  | noOperand => "syntax error: operand expected"
  | noColon => String.ofList [Char.ofNat 96] ++ ":' expected for conditional expression"
  | noChoice => "expression expected"
  | openParenthesis => "missing " ++ String.ofList [Char.ofNat 96] ++ ")'"
  | noEnd => "syntax error in expression"
  | zeroDivisor => "division by 0"
  | assignment => "attempted assignment to non-variable"
  | negativeExponent => "exponent less than 0"
  | digit => "value too great for base"
  | base => "invalid arithmetic base"
  | constant => "invalid integer constant"
  | index => "bad array subscript"
  | sign => "syntax error: invalid arithmetic operator"

/-- Whether a character may stand in front of an expression without meaning anything. -/
def isBlankOrNewline (c : Char) : Bool :=
  c == ' ' || c == '\t' || c == '\n'

/-- What is said of a faulty expression. -/
def ArithmeticFault.message (d : Dialect) (source : String) : ArithmeticFault → String
  | expression p token =>
    match d with
    | .plain => "arithmetic expression: " ++ p.plainMessage ++ ": \"" ++ source ++ "\""
    | .wide => String.ofList (source.toList.dropWhile isBlankOrNewline) ++ ": " ++ p.wideMessage ++ " (error token is \"" ++ token ++ "\")"
  | number text => "Illegal number: " ++ text

end AddonAtlas.Shell
