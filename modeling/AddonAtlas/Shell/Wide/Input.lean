import AddonAtlas.Shell.Wide.Variables

/-!
# Input of the wide dialect

The commands that take values from what can be read: `read` takes a line, or so many characters, and divides it
among variables; `mapfile` takes all lines as the values of a list.
-/

namespace AddonAtlas.Shell.Wide

open Shell.Action

/-! ## Words of a line -/

/-- Characters, each with whether it may divide words. -/
abbrev Marked := List (Char × Bool)

/-- Whether a character divides words, and whether it does so as a blank. -/
def divides (separators : List Char) (x : Char × Bool) : Bool :=
  x.2 && separators.contains x.1

def isBlankBetween (separators : List Char) (x : Char × Bool) : Bool :=
  divides separators x && Mark.isBlank x.1

/-- What follows a separator: the blanks behind it, and one more separator with its blanks if it was a blank. -/
def behindSeparator (separators : List Char) : Marked → Marked
  | [] => []
  | x :: rest =>
    let rest := rest.dropWhile (isBlankBetween separators)
    match rest with
    | y :: after =>
      if isBlankBetween separators x && divides separators y then after.dropWhile (isBlankBetween separators)
      else rest
    | [] => []

/-- The first word, and what follows it. -/
def firstWord (separators : List Char) (line : Marked) : Marked × Marked :=
  let line := line.dropWhile (isBlankBetween separators)
  let word := line.takeWhile fun x => !divides separators x
  (word, behindSeparator separators (line.drop word.length))

/-- All words of a line. -/
def allWords (separators : List Char) : (fuel : Nat) → Marked → List Marked
  | 0, _ => []
  | fuel + 1, line =>
    let line := line.dropWhile (isBlankBetween separators)
    if line.isEmpty then []
    else
      let (word, rest) := firstWord separators line
      word :: allWords separators fuel rest

/-- A line without the blanks at its end. -/
def withoutLastBlanks (separators : List Char) (line : Marked) : Marked :=
  (line.reverse.dropWhile (isBlankBetween separators)).reverse

/-- The words of a line for so many names; the last one takes the rest. -/
def wordsFor (separators : List Char) : (count : Nat) → Marked → List Marked
  | 0, _ => []
  | 1, line =>
    let (word, rest) := firstWord separators line
    [if rest.isEmpty then word else withoutLastBlanks separators (line.dropWhile (isBlankBetween separators))]
  | count + 1, line =>
    let (word, rest) := firstWord separators line
    word :: wordsFor separators count rest

def textOf (line : Marked) : String :=
  String.ofList (line.map (·.1))

/-! ## Reading -/

/-- How input is taken. -/
structure Taking where
  /-- Whether backslashes stand for themselves. -/
  isRaw : Bool
  /-- What ends the input. -/
  ending : Option Char
  /-- How many characters are taken at most. -/
  most : Option Nat

/-- Takes input: its characters, whether it was ended in time, and what follows. -/
def take (t : Taking) : (fuel : Nat) → (count : Nat) → List Char → Marked × Bool × List Char
  | 0, _, cs => ([], false, cs)
  | fuel + 1, count, cs =>
    if t.most = some count then ([], true, cs)
    else
      let more (x : Char × Bool) (cs : List Char) : Marked × Bool × List Char :=
        let (line, ended, rest) := take t fuel (count + 1) cs
        (x :: line, ended, rest)
      match cs with
      | [] => ([], false, [])
      | c :: cs =>
        if t.ending = some c then ([], true, cs)
        else if c = '\x00' then take t fuel count cs
        else if c = '\\' && !t.isRaw then
          match cs with
          | [] => ([], false, [])
          | '\n' :: cs => take t fuel count cs
          | d :: cs => more (d, false) cs
        else more (c, true) cs

/-- The characters that can still be read from a descriptor, and the machine from which they are taken. -/
def inputFrom (m : Machine) (descriptor : Nat) : Machine × List Char :=
  let (m, b) := m.takeFrom descriptor
  (m, (ofBytes b).toList)

/-- The descriptor that an option asks for. -/
def descriptorOf (found : List (Char × String)) : Action Nat := do
  match (found.filter fun o => o.1 = 'u').getLast? with
  | none => return 0
  | some (_, s) =>
    match s.toNat? with
    | none => giveUp (s ++ ": invalid file descriptor specification") 1
    | some d =>
      if ((← get).fileNumber? d).isNone then giveUp (s ++ ": invalid file descriptor: Bad file descriptor") 1
      else return d

def isTimeout (s : String) : Bool :=
  let cs := s.toList
  !cs.isEmpty && cs.all (fun c => isDigit c || c == '.') && (cs.filter (· == '.')).length ≤ 1

/-- Reads a line, or some characters, into variables. -/
def read (arguments : List String) : Action Nat := do
  let (found, names) ← optionsOf "ersa:d:i:n:N:p:t:u:" arguments
  let last (c : Char) : Option String := ((found.filter fun o => o.1 = c).getLast?).map (·.2)
  if let some t := last 't' then
    if !isTimeout t then giveUp (t ++ ": invalid timeout specification") 1
  let exact := last 'N'
  let most? := exact.or (last 'n')
  if let some n := most? then
    if n.toNat?.isNone then giveUp (n ++ ": invalid number") 1
  let descriptor ← descriptorOf found
  if let some t := last 't' then
    if t.toList.all fun c => c == '0' || c == '.' then return 0
  if let some name := (last 'a').or names.head? then
    if !isReference name then
      refuseName name
      return 1
  let ending : Option Char :=
    if exact.isSome then none else some (match last 'd' with
      | some s => s.toList.headD '\x00'
      | none => '\n')
  let t : Taking := ⟨(last 'r').isSome, ending, most?.bind String.toNat?⟩
  let m ← get
  let (m, cs) := inputFrom m descriptor
  let (line, ended, rest) := take t (cs.length + 1) 0 cs
  MonadState.set (m.returnTo descriptor (toBytes rest))
  let separators := m.separators
  match last 'a' with
  | some name =>
    let words := (allWords separators (line.length + 1) line).map textOf
    storeList name (Elements.ofValues words)
  | none =>
    match names with
    | [] => assign "REPLY" (textOf line)
    | names =>
      let values :=
        if exact.isSome then [textOf line]
        else (wordsFor separators names.length line).map textOf
      for (name, value) in names.zip (values ++ List.replicate names.length "") do
        if !isReference name then
          refuseName name
          endWith 1
        assign name value
  return if ended then 0 else 1

/-- The lines of a text, each with the character at its end if there is one. -/
def linesOf (ending : Char) (cs : List Char) : List (List Char) :=
  go [] cs
where
  /-- Goes on from a line that is being read, the last character first. -/
  go (current : List Char) : List Char → List (List Char)
    | [] => if current.isEmpty then [] else [current.reverse]
    | c :: cs => if c = ending then (c :: current).reverse :: go [] cs else go (c :: current) cs

/-- Reads lines into a list; `callback` runs a command now and then. -/
def mapfile (callback : String → Action Unit) (arguments : List String) : Action Nat := do
  let (found, names) ← optionsOf "d:n:O:s:tu:C:c:" arguments
  let last (c : Char) : Option String := ((found.filter fun o => o.1 = c).getLast?).map (·.2)
  let number (c : Char) (fallback : Nat) (what : String) : Action Nat := do
    match last c with
    | none => return fallback
    | some s =>
      match s.toNat? with
      | some n => return n
      | none => giveUp (s ++ ": invalid " ++ what) 1
  let most ← number 'n' 0 "line count"
  let skipped ← number 's' 0 "line count"
  let origin ← number 'O' 0 "array origin"
  let quantum ← number 'c' 5000 "callback quantum"
  let descriptor ← descriptorOf found
  let name := names.headD "MAPFILE"
  if !isName name then
    refuseName name
    return 1
  let ending := match last 'd' with
    | some s => s.toList.headD '\x00'
    | none => '\n'
  let m ← get
  let (m, cs) := inputFrom m descriptor
  let lines := linesOf ending cs
  let taken := if most = 0 then lines.drop skipped else (lines.drop skipped).take most
  let rest := if most = 0 then [] else (lines.drop (skipped + most)).flatten
  MonadState.set (m.returnTo descriptor (toBytes rest))
  if (m.binding? name).any fun v => v.isFixed then abandon (name ++ ": readonly variable")
  let before := if (last 'O').isSome then listOf m name else Elements.empty false
  let mut e := { before with isAssigned := true }
  for (line, i) in taken.zipIdx do
    let line := if (last 't').isSome && line.getLast? = some ending then line.dropLast else line
    let value := String.ofList (line.filter (· ≠ '\x00'))
    if let some command := last 'C' then
      if (i + 1) % quantum = 0 then
        callback (command ++ " " ++ toString (origin + i) ++ " " ++ backslashed value)
    e := { e with items := (toString (origin + i), value) :: e.items.filter fun x => x.1 ≠ toString (origin + i) }
  storeList name e
  return 0

end AddonAtlas.Shell.Wide
