import AddonAtlas.Shell.Expression

/-!
# Expressions in programs that work on records

How regular expressions are written in such programs: braces stand for themselves, a backslash takes away the
meaning of a character or makes it a control character, and an operand is never missing.
-/

namespace AddonAtlas.Shell.Records

namespace Pattern

/-- What is wrong with an expression. -/
inductive Fault
  | missingOperand
  | missingClosing
  | badClass

def Fault.message : Fault → String
  | missingOperand => "missing operand"
  | missingClosing => "missing ')'"
  | badClass => "bad class -- [], [^] or ["

/-- The character for the text behind a backslash, and what follows it. -/
def escaped (cs : List Char) : Char × List Char :=
  match cs with
  | [] => ('\\', [])
  | c :: rest =>
    let octal := (cs.take 3).takeWhile fun c => '0' ≤ c && c ≤ '7'
    if !octal.isEmpty then
      (Char.ofNat (octal.foldl (fun n d => 8 * n + (d.toNat - 48)) 0 % 256), cs.drop octal.length)
    else
      match c with
      | 'a' => ('\x07', rest)
      | 'b' => ('\x08', rest)
      | 'f' => ('\x0c', rest)
      | 'n' => ('\n', rest)
      | 'r' => ('\r', rest)
      | 't' => ('\t', rest)
      | 'v' => ('\x0b', rest)
      | c => (c, rest)

/-- The characters of a class of a name. -/
def ofClass? (name : String) : Option (List (Char × Char)) :=
  match name with
  | "alpha" => some [('a', 'z'), ('A', 'Z')]
  | "digit" => some [('0', '9')]
  | "alnum" => some [('0', '9'), ('a', 'z'), ('A', 'Z')]
  | "upper" => some [('A', 'Z')]
  | "lower" => some [('a', 'z')]
  | "space" => some [('\t', '\r'), (' ', ' ')]
  | "blank" => some [('\t', '\t'), (' ', ' ')]
  | "punct" => some [('!', '/'), (':', '@'), ('[', Char.ofNat 96), ('\x7b', '~')]
  | "print" => some [(' ', '~')]
  | "graph" => some [('!', '~')]
  | "cntrl" => some [('\x00', '\x1f'), ('\x7f', '\x7f')]
  | "xdigit" => some [('0', '9'), ('a', 'f'), ('A', 'F')]
  | _ => none

/-- The ranges of a class up to its closing bracket, and what follows it. -/
def ranges : (fuel : Nat) → (isFirst : Bool) → List (Char × Char) → List Char →
    Except Fault (List (Char × Char) × List Char)
  | 0, _, _, _ => .error .badClass
  | _ + 1, _, _, [] => .error .badClass
  | fuel + 1, isFirst, found, c :: rest =>
    if c = ']' && !isFirst then .ok (found.reverse, rest)
    else
      let named : Option (List (Char × Char) × List Char) :=
        match c, rest with
        | '[', ':' :: more =>
          let name := more.takeWhile fun d => 'a' ≤ d && d ≤ 'z'
          match more.drop name.length with
          | ':' :: ']' :: after => (ofClass? (String.ofList name)).map fun r => (r, after)
          | _ => none
        | _, _ => none
      match named with
      | some (r, after) => ranges fuel false (r.reverse ++ found) after
      | none =>
        let (low, after) := if c = '\\' then escaped rest else (c, rest)
        match after with
        | '-' :: d :: more =>
          if d = ']' then ranges fuel false ((low, low) :: found) after
          else
            let (high, after) := if d = '\\' then escaped more else (d, more)
            ranges fuel false ((low, high) :: found) after
        | _ => ranges fuel false ((low, low) :: found) after

mutual

/-- Alternatives up to the end, or to a closing parenthesis in a group. -/
def alternatives : (fuel : Nat) → (depth : Nat) → List Char → Except Fault (Expression × List Char)
  | 0, _, _ => .error .missingOperand
  | fuel + 1, depth, cs => do
    let (first, rest) ← sequence fuel depth none cs
    match rest with
    | '|' :: rest => do
      let (second, rest) ← alternatives fuel depth rest
      return (.alt first second, rest)
    | rest => return (first, rest)

/-- Parts one after the other. -/
def sequence : (fuel : Nat) → (depth : Nat) → (before : Option Expression) → List Char →
    Except Fault (Expression × List Char)
  | 0, _, _, _ => .error .missingOperand
  | fuel + 1, depth, before, cs => do
    let ends :=
      match cs with
      | [] => true
      | '|' :: _ => true
      | ')' :: _ => depth != 0
      | _ => false
    if ends then
      match before with
      | some e => return (e, cs)
      | none => throw (if depth != 0 && cs.isEmpty then .missingClosing else .missingOperand)
    else
      let (e, rest) ← single fuel depth cs
      let (e, rest) := repetitions e rest (rest.length + 1)
      sequence fuel depth (some ((before.map fun b => .seq b e).getD e)) rest

/-- One part without what repeats it. -/
def single : (fuel : Nat) → (depth : Nat) → List Char → Except Fault (Expression × List Char)
  | 0, _, _ => .error .missingOperand
  | _ + 1, _, [] => .error .missingOperand
  | fuel + 1, depth, c :: rest =>
    match c with
    | '(' => do
      let (e, rest) ← alternatives fuel (depth + 1) rest
      match rest with
      | ')' :: rest => return (e, rest)
      | _ => throw .missingClosing
    | '*' | '+' | '?' => throw .missingOperand
    | '^' => return (.start, rest)
    | '$' => return (.finish, rest)
    | '.' => return (.member true [], rest)
    | '[' => do
      let (isInverted, rest) :=
        match rest with
        | '^' :: rest => (true, rest)
        | rest => (false, rest)
      let (found, rest) ← ranges (rest.length + 1) true [] rest
      return (.member isInverted found, rest)
    | '\\' =>
      let (c, rest) := escaped rest
      return (.only c, rest)
    | c => return (.only c, rest)

/-- A part with the signs behind it that repeat it. -/
def repetitions (e : Expression) (cs : List Char) : (fuel : Nat) → Expression × List Char
  | 0 => (e, cs)
  | fuel + 1 =>
    match cs with
    | '*' :: rest => repetitions (.repeated 0 none e) rest fuel
    | '+' :: rest => repetitions (.repeated 1 none e) rest fuel
    | '?' :: rest => repetitions (.repeated 0 (some 1) e) rest fuel
    | _ => (e, cs)

end

/-- The expression that a text stands for. -/
def read (s : String) : Except Fault Expression := do
  let cs := s.toList
  if cs.isEmpty then return .empty
  let (e, rest) ← alternatives (3 * cs.length + 3) 0 cs
  if rest.isEmpty then return e else throw .missingOperand

end Pattern

end AddonAtlas.Shell.Records
