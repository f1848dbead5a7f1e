import AddonAtlas.Shell.Utility.Files

/-!
# Arguments for scripts

The arguments of a script are put in order: each option by itself with what belongs to it, then two hyphens, and
all else behind them. Every text is quoted, so that a shell reads it as it is.
-/

namespace AddonAtlas.Shell

namespace Utility

open Shell.Action

namespace Arranging

/-- What belongs to an option. -/
inductive Need
  | nothing
  | something
  | perhaps
deriving DecidableEq

/-- Where the options of a script may stand. -/
inductive Order
  | anywhere
  /-- In front of all else. -/
  | inFront
  /-- All stays where it is. -/
  | asGiven
deriving DecidableEq

/-- The options that a script knows, and how they are read. -/
structure Plan where
  letters : List (Char × Need)
  names : List (String × Need)
  order : Order
  /-- Names may stand behind one hyphen. -/
  alternative : Bool

/-- What was read: the options and what stays in its place, all else, and what is wrong. -/
structure Arranged where
  items : List (String × Option String)
  others : List String
  faults : List String

/-- The letters of a description, with what belongs to each. -/
def lettersOf : List Char → List (Char × Need)
  | c :: ':' :: ':' :: rest => (c, .perhaps) :: lettersOf rest
  | c :: ':' :: rest => (c, .something) :: lettersOf rest
  | c :: rest => (c, .nothing) :: lettersOf rest
  | [] => []

/-- A name of a description, with what belongs to it. -/
def nameOf (cs : List Char) : String × Need :=
  if "::".toList.isSuffixOf cs then (String.ofList (cs.dropLast.dropLast), .perhaps)
  else if cs.getLast? = some ':' then (String.ofList cs.dropLast, .something)
  else (String.ofList cs, .nothing)

/-- The names of a description, between commas and blanks. -/
def namesOf (s : String) : List (String × Need) :=
  ((s.toList.splitOnP fun c => c = ',' || c = ' ' || c = '\t' || c = '\n').filter (!·.isEmpty)).map nameOf

/-- The plan for a description of letters, with names. -/
def Plan.of (description : String) (names : List (String × Need)) (alternative inFront : Bool) : Plan :=
  match description.toList with
  | '+' :: rest => ⟨lettersOf (rest.dropWhile (· = ':')), names, .inFront, alternative⟩
  | '-' :: rest => ⟨lettersOf (rest.dropWhile (· = ':')), names, .asGiven, alternative⟩
  | cs => ⟨lettersOf (cs.dropWhile (· = ':')), names, if inFront then .inFront else .anywhere, alternative⟩

/-- The name that a beginning stands for; or what is wrong with it. -/
def Plan.name (p : Plan) (mark start : String) : Except String (String × Need) :=
  match p.names.find? fun n => n.1 = start with
  | some n => .ok n
  | none =>
    match p.names.filter fun n => n.1.startsWith start with
    | [] => .error ("unrecognized option '" ++ mark ++ start ++ "'")
    | [n] => .ok n
    | several => .error ("option '" ++ mark ++ start ++ "' is ambiguous; possibilities:" ++
        String.join (several.map fun n => " '" ++ mark ++ n.1 ++ "'"))

/-- Reads the letters of one argument; the options, what is wrong, and what is left of the arguments. -/
def letters (p : Plan) : List Char → (rest : List String) → List (String × Option String) × List String × List String
  | [], rest => ([], [], rest)
  | c :: cs, rest =>
    match if c = ':' then none else p.letters.lookup c with
    | none =>
      let (items, faults, rest) := letters p cs rest
      (items, ("invalid option -- '" ++ String.singleton c ++ "'") :: faults, rest)
    | some .nothing =>
      let (items, faults, rest) := letters p cs rest
      ((String.ofList ['-', c], none) :: items, faults, rest)
    | some .perhaps => ([(String.ofList ['-', c], some (String.ofList cs))], [], rest)
    | some .something =>
      if !cs.isEmpty then ([(String.ofList ['-', c], some (String.ofList cs))], [], rest)
      else
        match rest with
        | v :: rest => ([(String.ofList ['-', c], some v)], [], rest)
        | [] => ([], ["option requires an argument -- '" ++ String.singleton c ++ "'"], [])

/-- Reads an option by its name. -/
def named (p : Plan) (mark : String) (cs : List Char) (rest : List String) :
    List (String × Option String) × List String × List String :=
  let start := String.ofList (cs.takeWhile (· ≠ '='))
  let value? := if cs.contains '=' then some (String.ofList (cs.drop (start.length + 1))) else none
  match p.name mark start with
  | .error fault => ([], [fault], rest)
  | .ok (name, need) =>
    match need, value? with
    | .nothing, some _ => ([], ["option '" ++ mark ++ name ++ "' doesn't allow an argument"], rest)
    | .nothing, none => ([("--" ++ name, none)], [], rest)
    | .perhaps, v => ([("--" ++ name, some (v.getD ""))], [], rest)
    | .something, some v => ([("--" ++ name, some v)], [], rest)
    | .something, none =>
      match rest with
      | v :: rest => ([("--" ++ name, some v)], [], rest)
      | [] => ([], ["option '" ++ mark ++ name ++ "' requires an argument"], [])

/-- Reads arguments by a plan. -/
def read (p : Plan) : (fuel : Nat) → List String → Arranged
  | 0, arguments => ⟨[], arguments, []⟩
  | fuel + 1, arguments =>
    let go (items : List (String × Option String)) (others faults rest : List String) : Arranged :=
      let r := read p fuel rest
      ⟨items ++ r.items, others ++ r.others, faults ++ r.faults⟩
    match arguments with
    | [] => ⟨[], [], []⟩
    | a :: rest =>
      match a.toList with
      | ['-', '-'] => ⟨[], rest, []⟩
      | '-' :: '-' :: cs =>
        let (items, faults, rest) := named p "--" cs rest
        go items [] faults rest
      | '-' :: c :: cs =>
        let isName := p.alternative &&
          ((p.name "-" (String.ofList ((c :: cs).takeWhile (· ≠ '=')))).isOk || (p.letters.lookup c).isNone)
        let (items, faults, rest) := if isName then named p "-" (c :: cs) rest else letters p (c :: cs) rest
        go items [] faults rest
      | _ =>
        match p.order with
        | .anywhere => go [] [a] [] rest
        | .inFront => ⟨[], arguments, []⟩
        | .asGiven => go [("", some a)] [] [] rest

/-- A text in quotes for a shell; another kind of shell needs more escapes. -/
def inQuotes (isOther : Bool) (s : String) : String :=
  "'" ++ String.ofList (s.toList.flatMap fun c =>
    if c = '\'' then "'\\''".toList
    else if isOther && c = '\\' then "\\\\".toList
    else if isOther && c = '!' then "'\\!'".toList
    else if isOther && c = '\n' then "\\n".toList
    else if isOther && (c = ' ' || c = '\t') then ['\'', '\\', c, '\'']
    else [c]) ++ "'"

end Arranging

open Arranging in
/-- Puts the arguments of a script in order. -/
def arrange (name : String) (arguments : List String) : Action Nat := do
  let isPlain := arguments.head?.any fun a => !a.startsWith "-"
  let r := if isPlain then ⟨[], arguments, none⟩ else
    Options.read (.of "+ao:l:n:qQs:TuhV" [("alternative", "a"), ("options=", "o"), ("longoptions=", "l"), ("name=", "n"),
      ("quiet", "q"), ("quiet-output", "Q"), ("shell=", "s"), ("test", "T"), ("unquoted", "u"), ("help", "help"),
      ("version", "version")]) false arguments
  match r.fault? with
  | some fault => misuse name fault 2
  | none =>
    let given := r.options
    if has given "T" then return 4
    else
      match (value? given "s").filter fun s => !(["sh", "bash", "csh", "tcsh"].contains s) with
      | some _ => misuse name "unknown shell after -s or --shell argument" 2
      | none =>
        let (description?, parameters) :=
          match value? given "o" with
          | some s => (some s, r.operands)
          | none => (r.operands.head?, r.operands.drop 1)
        match description? with
        | none => misuse name "missing optstring argument" 2
        | some description =>
          let parameters := if isPlain && parameters.head? = some "--" then parameters.drop 0 else parameters
          let isOther := ["csh", "tcsh"].contains ((value? given "s").getD "sh")
          let quote (s : String) : String := if isPlain || has given "u" then s else inQuotes isOther s
          let names := (given.filter fun g => g.option = "l").flatMap fun g => namesOf (g.value.getD "")
          let inFront := ((← get).value? "POSIXLY_CORRECT").isSome
          let found := Arranging.read (Plan.of description names (has given "a") inFront) (parameters.length + 1) parameters
          let caller := (value? given "n").getD name
          if !has given "q" then
            for fault in found.faults do complain caller fault
          let items := found.items.map fun (option, v) =>
            if option.isEmpty then " " ++ quote (v.getD "")
            else " " ++ option ++ (v.elim "" fun v => " " ++ quote v)
          let text := String.join items ++ " --" ++ String.join (found.others.map fun s => " " ++ quote s) ++ "\n"
          let status := if found.faults.isEmpty then 0 else 1
          if has given "Q" then return status else finish name 1 text.toList status

end Utility

end AddonAtlas.Shell
