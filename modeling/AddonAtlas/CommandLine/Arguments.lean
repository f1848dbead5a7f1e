import AddonAtlas.Text.Character
import AddonAtlas.Text.Quoted

/-!
# Command line arguments

The program takes options only. An option may be shortened as long as it is clear which one is meant,
and its argument follows it, or stands behind an equals sign. All arguments are classified first, then
the options are taken from left to right; what is left over is refused in the end.
-/

namespace AddonAtlas.CommandLine

open AddonAtlas.Text

inductive Transport
  | stdio
  | sse
deriving DecidableEq, Repr

def Transport.name : Transport → String
  | stdio => "stdio"
  | sse => "sse"

def Transport.ofName? (s : String) : Option Transport :=
  if s = "stdio" then some .stdio else if s = "sse" then some .sse else none

/-- What the arguments say. -/
structure Arguments where
  addonsPath : Option String
  /-- The transport; nothing if an option for it names none. -/
  transport : Option Transport
  indexOnly : Bool
deriving DecidableEq, Repr

inductive Flag
  | help
  | addonsPath
  | transport
  | indexOnly
deriving DecidableEq, Repr

namespace Flag

/-- The spellings of options, in the order in which they are matched. -/
def spellings : List (String × Flag) :=
  [("-h", help), ("--help", help), ("--addons-path", addonsPath), ("--transport", transport),
    ("--index-only", indexOnly)]

def ofSpelling? (s : String) : Option Flag :=
  (spellings.find? fun x => x.1 = s).map (·.2)

/-- All spellings of an option, as messages name it. -/
def title (f : Flag) : String :=
  "/".intercalate ((spellings.filter fun x => x.2 = f).map (·.1))

def takesArgument : Flag → Bool
  | addonsPath | transport => true
  | help | indexOnly => false

end Flag

/-- An option as it stands among the arguments, perhaps with an argument of its own. -/
structure Use where
  flag : Flag
  spelling : String
  argument : Option String
deriving DecidableEq, Repr

/-- What one argument is. -/
inductive Class
  | option (u : Use)
  /-- It looks like an option, but there is no such one. -/
  | unknown
  | plain
  /-- The two dashes after which there are no options. -/
  | dashes
deriving DecidableEq, Repr

/-- The parts of a text before and after its first equals sign. -/
def splitEquals (cs : List Char) : Option (List Char × List Char) :=
  match cs.dropWhile (· != '=') with
  | [] => none
  | _ :: rest => some (cs.takeWhile (· != '='), rest)

/-- Whether a text is a negative number. -/
def isNegativeNumber (cs : List Char) : Bool :=
  let cs := if cs.getLast? = some '\n' then cs.dropLast else cs
  let isDigit (c : Char) : Bool := (digitValue? c).isSome
  match cs with
  | '-' :: body =>
    (!body.isEmpty && body.all isDigit) ||
      (match body.dropWhile isDigit with
        | '.' :: fraction => !fraction.isEmpty && fraction.all isDigit
        | _ => false)
  | _ => false

/-- The options that a shortened one may stand for. -/
def candidates (cs : List Char) : List Use :=
  match cs with
  | '-' :: '-' :: _ =>
    let (start, argument) :=
      match splitEquals cs with
      | some (start, argument) => (start, some (String.ofList argument))
      | none => (cs, none)
    Flag.spellings.filterMap fun (spelling, flag) =>
      if start.isPrefixOf spelling.toList then some ⟨flag, spelling, argument⟩ else none
  | _ =>
    Flag.spellings.filterMap fun (spelling, flag) =>
      if spelling.toList = cs.take 2 then
        some ⟨flag, spelling, some (String.ofList (cs.drop 2))⟩
      else if cs.isPrefixOf spelling.toList then some ⟨flag, spelling, none⟩
      else none

/-- The option that is spelled out in front of an equals sign. -/
def spelledOut? (cs : List Char) : Option Use := do
  let (start, argument) ← splitEquals cs
  let flag ← Flag.ofSpelling? (String.ofList start)
  return ⟨flag, String.ofList start, some (String.ofList argument)⟩

/-- Classifies an argument in front of the two dashes. Several candidates are a fault. -/
def classify (s : String) : Except String Class :=
  let cs := s.toList
  if cs.head? ≠ some '-' then .ok .plain
  else
    match Flag.ofSpelling? s with
    | some flag => .ok (.option ⟨flag, s, none⟩)
    | none =>
      if cs.length = 1 then .ok .plain
      else
        match spelledOut? cs with
        | some u => .ok (.option u)
        | none =>
          match candidates cs with
          | [u] => .ok (.option u)
          | [] =>
            if isNegativeNumber cs || cs.contains ' ' then .ok .plain else .ok .unknown
          | us =>
            .error ("ambiguous option: " ++ s ++ " could match " ++
              ", ".intercalate (us.map (·.spelling)))

/-- Classifies all arguments. -/
def classifyAll : List String → Except String (List (String × Class))
  | [] => .ok []
  | s :: rest =>
    if s = "--" then .ok ((s, .dashes) :: rest.map fun r => (r, .plain))
    else do
      let c ← classify s
      let cs ← classifyAll rest
      return (s, c) :: cs

/-! ## Taking options -/

/-- How the reading of arguments ends. -/
inductive Parsed
  | arguments (a : Arguments)
  | help
  | refused (message : String)
deriving DecidableEq, Repr

def refusal (flag : Flag) (message : String) : Parsed :=
  .refused ("argument " ++ flag.title ++ ": " ++ message)

/-- Puts an option's argument among the arguments. Two dashes for an argument are none at all: no roots,
and no transport. -/
def set (a : Arguments) (flag : Flag) (argument : String) : Except Parsed Arguments :=
  let isNone := argument = "--"
  match flag with
  | .addonsPath => .ok { a with addonsPath := some (if isNone then "" else argument) }
  | .transport =>
    match Transport.ofName? argument with
    | some t => .ok { a with transport := some t }
    | none =>
      if isNone then .ok { a with transport := none }
      else
        .error (refusal .transport
          ("invalid choice: " ++ quoted argument ++ " (choose from 'stdio', 'sse')"))
  | _ => .ok a

/-- Takes an option that has no argument. -/
def take (a : Arguments) (flag : Flag) : Except Parsed Arguments :=
  match flag with
  | .help => .error .help
  | .indexOnly => .ok { a with indexOnly := true }
  | _ => .ok a

/-- Takes an option that should have no argument but does. Behind the letter `h` there may be the same
letter again, which is the same option again. -/
def takeAttached (a : Arguments) (u : Use) (argument : String) : Except Parsed Arguments :=
  let ignored := argument.toList.dropWhile fun c => u.spelling = "-h" && c == 'h'
  if ignored.isEmpty && argument ≠ "" then take a u.flag
  else .error (refusal u.flag ("ignored explicit argument " ++ quoted (String.ofList ignored)))

/-- Takes the options from left to right. `left` holds what is left over, the last one first. -/
def takeAll (a : Arguments) (left : List String) : List (String × Class) → Parsed
  | [] =>
    if left.isEmpty then .arguments a
    else .refused ("unrecognized arguments: " ++ " ".intercalate left.reverse)
  | (s, .plain) :: rest => takeAll a (s :: left) rest
  | (s, .dashes) :: rest => takeAll a (s :: left) rest
  | (s, .unknown) :: rest => takeAll a (s :: left) rest
  | (_, .option u) :: rest =>
    match u.flag.takesArgument, u.argument with
    | true, some argument =>
      match set a u.flag argument with
      | .ok a => takeAll a left rest
      | .error p => p
    | true, none =>
      match rest with
      | (argument, .plain) :: rest =>
        match set a u.flag argument with
        | .ok a => takeAll a left rest
        | .error p => p
      | _ => refusal u.flag "expected one argument"
    | false, some argument =>
      match takeAttached a u argument with
      | .ok a => takeAll a left rest
      | .error p => p
    | false, none =>
      match take a u.flag with
      | .ok a => takeAll a left rest
      | .error p => p

/-- Reads the command line. -/
def parse (arguments : List String) : Parsed :=
  match classifyAll arguments with
  | .error message => .refused message
  | .ok classes => takeAll ⟨none, some .stdio, false⟩ [] classes

end AddonAtlas.CommandLine
