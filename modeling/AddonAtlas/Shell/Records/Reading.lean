import AddonAtlas.Shell.Records.Token

/-!
# Reading programs that work on records

The first token with which no program could go on is the fault that is told. Expressions with faults are told
too, and reading goes on behind them.
-/

namespace AddonAtlas.Shell.Records

/-- What reading has come to. -/
structure Source where
  tokens : List (Token × Nat)
  /-- What is wrong with expressions, the last one first. -/
  faults : List String
  procedure : Option String
  parameters : List String
  /-- How many loops are open. -/
  loops : Nat
  inMain : Bool
  /-- The names that are used as tables, with the procedure whose parameters they are. -/
  tables : List (String × String)
  /-- The names that are used as variables which are no tables. -/
  plain : List (String × String)
  /-- Names that are handed on: the procedure and the name, and the procedure and the number of the parameter. -/
  handed : List (String × String × String × Nat)
  /-- The procedures that are called: with how many arguments, and on which line. -/
  calls : List (String × Nat × Nat)
  ranges : Nat

/-- Reads a program; a fault ends it. -/
abbrev Reader := StateT Source (Except (List String))

namespace Reader

def peek : Reader Token := do
  return ((← get).tokens.head?.map (·.1)).getD .finish

def line : Reader Nat := do
  return ((← get).tokens.head?.map (·.2)).getD 1

def next : Reader Token := do
  let s ← get
  match s.tokens with
  | (t, _) :: rest =>
    if !(t matches .finish) then set { s with tokens := rest }
    return t
  | [] => return .finish

def fault {α : Type} (message : String) : Reader α := do
  let faults := (← get).faults.reverse
  throw (faults ++ [Token.messageAt (← line) message])

/-- Refuses the next token. -/
def refuse {α : Type} : Reader α := do
  match ← peek with
  | .finish => fault "syntax error at or near end of file"
  | t => fault ("syntax error at or near " ++ t.shown)

/-- Takes a sign if it is the next token. -/
def takes (s : String) : Reader Bool := do
  if (← peek).isSign s then
    let _ ← next
    return true
  else return false

def takesWord (s : String) : Reader Bool := do
  if (← peek).isWord s then
    let _ ← next
    return true
  else return false

/-- A sign that has to be the next token. -/
def expect (s : String) : Reader Unit := do
  if !(← takes s) then refuse

/-- The parenthesis that closes what was opened. -/
def close : Reader Unit := do
  if !(← takes ")") then fault ("missing ) near " ++ (← peek).shown)

def skipLines : (fuel : Nat) → Reader Unit
  | 0 => return
  | fuel + 1 => do
    if (← peek) matches .newline then
      let _ ← next
      skipLines fuel

/-- Goes over the ends of lines. -/
def newlines : Reader Unit := do
  skipLines ((← get).tokens.length + 1)

/-- A name of this place: of a parameter, or of the whole program. -/
def scope (name : String) : Reader String := do
  let s ← get
  return if s.parameters.contains name then s.procedure.getD "" else ""

/-- Notes that a name is that of a variable which is no table. -/
def notePlain (name : String) : Reader Unit := do
  let f ← scope name
  if (← get).tables.contains (f, name) then fault ("illegal reference to array " ++ name)
  modify fun s => { s with plain := (f, name) :: s.plain }

/-- Notes the variable that a place is. -/
def notePlace : Term → Reader Unit
  | .variable_ name => notePlain name
  | _ => return

/-- Notes that a name is that of a table. -/
def noteTable (name : String) : Reader Unit := do
  let f ← scope name
  if (← get).plain.contains (f, name) then fault ("illegal reference to variable " ++ name)
  modify fun s => if s.tables.contains (f, name) then s else { s with tables := (f, name) :: s.tables }

/-- The expression that a text stands for. -/
def pattern (source : String) : Reader Expression := do
  match Pattern.read source with
  | .ok e => return e
  | .error f =>
    let message := Token.messageAt (← line) ("regular expression compile failed (" ++ f.message ++ ")\n" ++ source)
    modify fun s => { s with faults := message :: s.faults }
    return .empty

def isPlace : Term → Bool
  | .variable_ _ | .element _ _ | .field _ => true
  | _ => false

/-- Whether a token may begin a term that is joined to another one. -/
def begins : Token → Bool
  | .number _ _ | .text _ | .pattern _ | .name _ | .call _ | .function _ _ => true
  | .sign s => ["$", "!", "(", "-", "+", "++", "--"].contains s
  | .word s => s = "getline"
  | _ => false

/-- Whether a statement ends in front of a token. -/
def ends : Token → Bool
  | .newline | .finish => true
  | .sign s => s = ";" || s = "\x7d"
  | _ => false

def assignments : List (String × Option Operation) :=
  [("=", none), ("+=", some .add), ("-=", some .subtract), ("*=", some .multiply), ("/=", some .divide),
    ("%=", some .remainder), ("^=", some .power)]

def relations : List (String × Relation) :=
  [("==", .equal), ("!=", .unequal), ("<", .less), ("<=", .lessOrEqual), (">", .greater), (">=", .greaterOrEqual)]

/-- The least and the greatest number of arguments of a function. -/
def arity : Function → Nat × Nat
  | .length => (0, 1)
  | .index | .atan2 | .match_ => (2, 2)
  | .substr | .split | .sub | .gsub => (2, 3)
  | .sprintf => (1, 1000)
  | .rand => (0, 0)
  | .srand | .fflush => (0, 1)
  | _ => (1, 1)

mutual

/-- A term. `isPrinted` says that it is printed, and that what is greater is a destination. -/
def term (isPrinted : Bool) : (fuel : Nat) → Reader Term
  | 0 => refuse
  | fuel + 1 => do
    let c ← either isPrinted fuel
    if ← takes "?" then
      newlines
      let yes ← term isPrinted fuel
      newlines
      expect ":"
      newlines
      let no ← term isPrinted fuel
      return .choice c yes no
    else return c

def either (isPrinted : Bool) : (fuel : Nat) → Reader Term
  | 0 => refuse
  | fuel + 1 => do
    let first ← both isPrinted fuel
    if ← takes "||" then
      newlines
      return .either first (← either isPrinted fuel)
    else return first

def both (isPrinted : Bool) : (fuel : Nat) → Reader Term
  | 0 => refuse
  | fuel + 1 => do
    let first ← contained isPrinted fuel
    if ← takes "&&" then
      newlines
      return .both first (← both isPrinted fuel)
    else return first

/-- Terms that may be keys of a table. -/
def contained (isPrinted : Bool) : (fuel : Nat) → Reader Term
  | 0 => refuse
  | fuel + 1 => do
    let t ← matched isPrinted fuel
    moreKeys fuel t

def moreKeys : (fuel : Nat) → Term → Reader Term
  | 0, t => return t
  | fuel + 1, t => do
    if ← takesWord "in" then
      match ← next with
      | .name table =>
        noteTable table
        let keys := match t with
          | .several keys => keys
          | t => [t]
        moreKeys fuel (.contains table keys)
      | _ => refuse
    else return t

def matched (isPrinted : Bool) : (fuel : Nat) → Reader Term
  | 0 => refuse
  | fuel + 1 => do
    let t ← compared isPrinted fuel
    moreMatches isPrinted fuel t

def moreMatches (isPrinted : Bool) : (fuel : Nat) → Term → Reader Term
  | 0, t => return t
  | fuel + 1, t => do
    let isInverted := (← peek).isSign "!~"
    if isInverted || (← peek).isSign "~" then
      let _ ← next
      let p ← compared isPrinted fuel
      let p ← match p with
        | .text s => pure (.pattern s (← pattern s))
        | p => pure p
      moreMatches isPrinted fuel (.matches_ isInverted t p)
    else return t

def compared (isPrinted : Bool) : (fuel : Nat) → Reader Term
  | 0 => refuse
  | fuel + 1 => do
    let t ← joined isPrinted fuel
    moreComparisons isPrinted fuel t

def moreComparisons (isPrinted : Bool) : (fuel : Nat) → Term → Reader Term
  | 0, t => return t
  | fuel + 1, t => do
    match ← peek with
    | .sign s =>
      match if isPrinted && s = ">" then none else relations.lookup s with
      | some r =>
        let _ ← next
        let u ← joined isPrinted fuel
        moreComparisons isPrinted fuel (.compare r t u)
      | none => return t
    | _ => return t

/-- Terms one behind the other. A place at the front may be assigned to. -/
def joined (isPrinted : Bool) : (fuel : Nat) → Reader Term
  | 0 => refuse
  | fuel + 1 => do
    let t ← sum isPrinted fuel
    let assignment :=
      match ← peek with
      | .sign s => if isPlace t then assignments.lookup s else none
      | _ => none
    match assignment with
    | some operation =>
      let _ ← next
      notePlace t
      newlines
      return .assign t operation (← term isPrinted fuel)
    | none => moreJoined isPrinted fuel t

def moreJoined (isPrinted : Bool) : (fuel : Nat) → Term → Reader Term
  | 0, t => return t
  | fuel + 1, t => do
    if begins (← peek) then
      let u ← sum isPrinted fuel
      moreJoined isPrinted fuel (.join t u)
    else return t

def sum (isPrinted : Bool) : (fuel : Nat) → Reader Term
  | 0 => refuse
  | fuel + 1 => do
    let t ← product isPrinted fuel
    moreSummands isPrinted fuel t

def moreSummands (isPrinted : Bool) : (fuel : Nat) → Term → Reader Term
  | 0, t => return t
  | fuel + 1, t => do
    if ← takes "+" then
      let u ← product isPrinted fuel
      moreSummands isPrinted fuel (.operate .add t u)
    else if ← takes "-" then
      let u ← product isPrinted fuel
      moreSummands isPrinted fuel (.operate .subtract t u)
    else return t

def product (isPrinted : Bool) : (fuel : Nat) → Reader Term
  | 0 => refuse
  | fuel + 1 => do
    let t ← signed isPrinted fuel
    moreFactors isPrinted fuel t

def moreFactors (isPrinted : Bool) : (fuel : Nat) → Term → Reader Term
  | 0, t => return t
  | fuel + 1, t => do
    let operation : Option Operation :=
      match ← peek with
      | .sign "*" => some .multiply
      | .sign "/" => some .divide
      | .sign "%" => some .remainder
      | _ => none
    match operation with
    | some o =>
      let _ ← next
      let u ← signed isPrinted fuel
      moreFactors isPrinted fuel (.operate o t u)
    | none => return t

def signed (isPrinted : Bool) : (fuel : Nat) → Reader Term
  | 0 => refuse
  | fuel + 1 => do
    if ← takes "!" then return .not (← signed isPrinted fuel)
    else if ← takes "-" then return .negate (← signed isPrinted fuel)
    else if ← takes "+" then return .plus (← signed isPrinted fuel)
    else
      let t ← powered isPrinted fuel
      moreInput isPrinted fuel t

/-- Command lines whose output is read. -/
def moreInput (isPrinted : Bool) : (fuel : Nat) → Term → Reader Term
  | 0, t => return t
  | fuel + 1, t => do
    if !isPrinted && (← peek).isSign "|" then
      let _ ← next
      if !(← takesWord "getline") then refuse
      let place ← inputPlace fuel
      moreInput isPrinted fuel (.getline (.command t) place)
    else return t

def powered (isPrinted : Bool) : (fuel : Nat) → Reader Term
  | 0 => refuse
  | fuel + 1 => do
    let t ← stepped fuel
    if ← takes "^" then
      let isSigned :=
        match ← peek with
        | .sign s => s = "-" || s = "+" || s = "!"
        | _ => false
      let u ← if isSigned then signed true fuel else powered isPrinted fuel
      return .operate .power t u
    else return t

/-- A term that may be made more or less by one. -/
def stepped : (fuel : Nat) → Reader Term
  | 0 => refuse
  | fuel + 1 => do
    if ← takes "++" then return .step (← place fuel) true true
    else if ← takes "--" then return .step (← place fuel) false true
    else
      let t ← single fuel
      if isPlace t then
        let isMore ← takes "++"
        if isMore || (← takes "--") then
          notePlace t
          return .step t isMore false
        else return t
      else return t

/-- A place that has to be one. -/
def place : (fuel : Nat) → Reader Term
  | 0 => refuse
  | fuel + 1 => do
    match ← peek with
    | .name _ => single fuel
    | .sign "$" => single fuel
    | _ => refuse

/-- The place that a record is read into. -/
def inputPlace : (fuel : Nat) → Reader (Option Term)
  | 0 => return none
  | fuel + 1 => do
    match ← peek with
    | .name _ => return some (← single fuel)
    | .sign "$" => return some (← single fuel)
    | _ => return none

/-- Terms with commas between them, up to a closing sign. -/
def terms (closing : String) : (fuel : Nat) → Reader (List Term)
  | 0 => refuse
  | fuel + 1 => do
    newlines
    let t ← term false fuel
    newlines
    if ← takes "," then return t :: (← terms closing fuel)
    else
      if closing = ")" then close else expect closing
      return [t]

def single : (fuel : Nat) → Reader Term
  | 0 => refuse
  | fuel + 1 => do
    match ← peek with
    | .number x _ =>
      let _ ← next
      return .number x
    | .text s =>
      let _ ← next
      return .text s
    | .pattern s =>
      let _ ← next
      return .pattern s (← pattern s)
    | .name s =>
      let _ ← next
      if ← takes "[" then
        noteTable s
        return .element s (← terms "]" fuel)
      else return .variable_ s
    | .call s =>
      let at_ ← line
      let _ ← next
      let _ ← next
      newlines
      let arguments ← if ← takes ")" then pure [] else terms ")" fuel
      for (t, i) in arguments.zipIdx do
        if let .variable_ v := t then
          let f ← scope v
          modify fun s' => { s' with handed := (f, v, s, i) :: s'.handed }
      modify fun s' => { s' with calls := (s, arguments.length, at_) :: s'.calls }
      return .call s arguments
    | .function f name =>
      let _ ← next
      let arguments ←
        if ← takes "(" then
          newlines
          if ← takes ")" then pure [] else terms ")" fuel
        else if f = .length then pure []
        else refuse
      let (least, most) := arity f
      if arguments.length < least || most < arguments.length then
        fault ("wrong number of arguments in call to " ++ name)
      if f = .split then
        match arguments.drop 1 with
        | Term.variable_ table :: _ => noteTable table
        | _ => pure ()
      let places := if f = .match_ then [1] else if f = .split then [2] else if f = .sub || f = .gsub then [0] else []
      let arguments ← arguments.zipIdx.mapM fun (t, i) => do
        match t with
        | .text s => if places.contains i && !(f = .split && s.length ≤ 1) then return .pattern s (← pattern s) else return t
        | t => return t
      return .apply f arguments
    | .sign "$" =>
      let _ ← next
      if ← takes "++" then return .field (.step (← place fuel) true true)
      else if ← takes "--" then return .field (.step (← place fuel) false true)
      else if ← takes "-" then return .field (.negate (← single fuel))
      else return .field (← single fuel)
    | .sign "(" =>
      let _ ← next
      match ← terms ")" fuel with
      | [t] => return .grouped t
      | several => return .several several
    | .word "getline" =>
      let _ ← next
      let target ← inputPlace fuel
      if ← takes "<" then return .getline (.file (← powered true fuel)) target
      else return .getline .input target
    | _ => refuse

end

/-- The bound for the depth of terms: the number of tokens, several times. -/
def depth : Reader Nat := do
  return 20 * ((← get).tokens.length + 2)

/-- The end of a statement. -/
def terminator : Reader Unit := do
  match ← peek with
  | .newline => newlines
  | .sign ";" =>
    let _ ← next
    newlines
  | .sign "\x7d" => return
  | .sign ")" => fault "extra ')'"
  | _ => refuse

/-- Where something is printed, if a destination is given. -/
def destination : Reader (Option Destination) := do
  let bound ← depth
  if ← takes ">" then return some (.file (← term false bound))
  else if ← takes ">>" then return some (.append (← term false bound))
  else if ← takes "|" then return some (.command (← term false bound))
  else return none

/-- What is printed: terms with commas between them, maybe in parentheses. -/
def printed (bound : Nat) : (fuel : Nat) → Reader (List Term)
  | 0 => refuse
  | fuel + 1 => do
    let t ← term true bound
    if ← takes "," then
      newlines
      return t :: (← printed bound fuel)
    else
      match t with
      | .several terms => return terms
      | t => return [t]

mutual

def statement : (fuel : Nat) → Reader Statement
  | 0 => refuse
  | fuel + 1 => do
    let bound ← depth
    match ← peek with
    | .sign "\x7b" => block fuel
    | .sign ";" =>
      let _ ← next
      newlines
      return .nothing
    | .word "if" =>
      let _ ← next
      expect "("
      newlines
      let c ← term false bound
      newlines
      close
      newlines
      let yes ← statement fuel
      newlines
      if ← takesWord "else" then
        newlines
        return .choice c yes (some (← statement fuel))
      else return .choice c yes none
    | .word "while" =>
      let _ ← next
      expect "("
      newlines
      let c ← term false bound
      newlines
      close
      if ← takes ";" then
        newlines
        return .while_ c .nothing
      else
        newlines
        return .while_ c (← body fuel)
    | .word "do" =>
      let _ ← next
      newlines
      let b ← body fuel
      newlines
      if !(← takesWord "while") then refuse
      expect "("
      newlines
      let c ← term false bound
      newlines
      close
      terminator
      return .doWhile b c
    | .word "for" =>
      let _ ← next
      expect "("
      newlines
      match (← get).tokens with
      | (.name v, _) :: (.word "in", _) :: (.name table, _) :: (.sign ")", _) :: rest =>
        modify fun s => { s with tokens := rest }
        noteTable table
        notePlain v
        newlines
        return .forKeys (.variable_ v) table (← body fuel)
      | _ =>
        let first ← if (← peek).isSign ";" then pure none else pure (some (← simple bound))
        expect ";"
        newlines
        let c ← if (← peek).isSign ";" then pure none else pure (some (← term false bound))
        newlines
        expect ";"
        newlines
        let step ← if (← peek).isSign ")" then pure none else pure (some (← simple bound))
        newlines
        close
        if ← takes ";" then
          newlines
          return .for_ first c step .nothing
        else
          newlines
          return .for_ first c step (← body fuel)
    | _ =>
      let s ← simple bound
      terminator
      return s

/-- The body of a loop. -/
def body : (fuel : Nat) → Reader Statement
  | 0 => refuse
  | fuel + 1 => do
    modify fun s => { s with loops := s.loops + 1 }
    let b ← statement fuel
    modify fun s => { s with loops := s.loops - 1 }
    return b

/-- A statement without others in it. -/
def simple : (fuel : Nat) → Reader Statement
  | 0 => refuse
  | fuel + 1 => do
    let bound ← depth
    let s ← get
    match ← peek with
    | .word "print" =>
      let _ ← next
      let isBare :=
        match ← peek with
        | .sign s => s = ">" || s = ">>" || s = "|" || s = ";" || s = "\x7d"
        | t => ends t
      let terms ← if isBare then pure [] else printed bound fuel
      return .print terms (← destination)
    | .word "printf" =>
      let _ ← next
      if ends (← peek) then fault "no arguments in call to printf"
      let terms ← printed bound fuel
      return .printf terms (← destination)
    | .word "delete" =>
      let _ ← next
      match ← peek with
      | .name table =>
        let _ ← next
        noteTable table
        if ← takes "[" then return .delete table (some (← terms "]" bound))
        else return .delete table none
      | _ => refuse
    | .word "next" =>
      if !s.inMain && s.procedure.isNone then fault "improper use of next"
      let _ ← next
      return .next
    | .word "nextfile" =>
      if !s.inMain && s.procedure.isNone then fault "improper use of nextfile"
      let _ ← next
      return .nextFile
    | .word "exit" =>
      let _ ← next
      if ends (← peek) then return .exit none else return .exit (some (← term false bound))
    | .word "return" =>
      if s.procedure.isNone then fault "return outside function body"
      let _ ← next
      if ends (← peek) then return .return_ none else return .return_ (some (← term false bound))
    | .word "break" =>
      if s.loops = 0 then fault "break statement outside of loop"
      let _ ← next
      return .break_
    | .word "continue" =>
      if s.loops = 0 then fault "continue statement outside of loop"
      let _ ← next
      return .continue_
    | _ => return .evaluate (← term false bound)

/-- Statements in braces. -/
def block : (fuel : Nat) → Reader Statement
  | 0 => refuse
  | fuel + 1 => do
    expect "\x7b"
    newlines
    let statements ← inBraces fuel
    newlines
    return .block statements

def inBraces : (fuel : Nat) → Reader (List Statement)
  | 0 => refuse
  | fuel + 1 => do
    match ← peek with
    | .sign "\x7d" =>
      let _ ← next
      return []
    | .finish => fault "missing \x7d near end of file"
    | _ =>
      let s ← statement fuel
      return s :: (← inBraces fuel)

end

/-- The parameters of a procedure up to the closing parenthesis. -/
def parameters : (fuel : Nat) → Reader (List String)
  | 0 => refuse
  | fuel + 1 => do
    newlines
    match ← peek with
    | .sign ")" =>
      let _ ← next
      return []
    | .name s =>
      let _ ← next
      newlines
      if ← takes "," then return s :: (← parameters fuel)
      else
        expect ")"
        return [s]
    | _ => refuse

/-- A block that is done at a time when there is no record, or when there is one. -/
def blockFor (inMain : Bool) (fuel : Nat) : Reader Statement := do
  modify fun s => { s with inMain := inMain, loops := 0 }
  let b ← block fuel
  let _ ← takes ";"
  return b

/-- The parts of a program. -/
def parts : (fuel : Nat) → List Rule → List (String × Procedure) → Reader (List Rule × List (String × Procedure))
  | 0, _, _ => refuse
  | fuel + 1, rules, procedures => do
    newlines
    match ← peek with
    | .finish => return (rules.reverse, procedures.reverse)
    | .sign ";" =>
      let _ ← next
      parts fuel rules procedures
    | .sign "\x7d" =>
      let message := Token.messageAt (← line) "extra '\x7d'"
      modify fun s => { s with faults := message :: s.faults }
      let _ ← next
      refuse
    | .word "BEGIN" =>
      let _ ← next
      let b ← blockFor false fuel
      parts fuel (⟨.begin, b⟩ :: rules) procedures
    | .word "END" =>
      let _ ← next
      let b ← blockFor false fuel
      parts fuel (⟨.finish, b⟩ :: rules) procedures
    | .word "function" =>
      let _ ← next
      let name ←
        match ← peek with
        | .name s => pure s
        | .call s => pure s
        | _ => refuse
      let _ ← next
      expect "("
      let found ← parameters fuel
      newlines
      modify fun s => { s with procedure := some name, parameters := found, loops := 0 }
      let b ← block fuel
      let _ ← takes ";"
      modify fun s => { s with procedure := none, parameters := [] }
      parts fuel rules ((name, ⟨found, b⟩) :: procedures)
    | .sign "\x7b" =>
      let b ← blockFor true fuel
      parts fuel (⟨.always, b⟩ :: rules) procedures
    | _ =>
      let bound ← depth
      let t ← term false bound
      let condition ←
        if ← takes "," then
          newlines
          let u ← term false bound
          let n := (← get).ranges
          modify fun s => { s with ranges := n + 1 }
          pure (Condition.range n t u)
        else pure (Condition.when_ t)
      if (← peek).isSign "\x7b" then
        let b ← blockFor true fuel
        parts fuel (⟨condition, b⟩ :: rules) procedures
      else
        match ← peek with
        | .newline | .finish => pure ()
        | .sign ";" => pure ()
        | _ => refuse
        parts fuel (⟨condition, .print [] none⟩ :: rules) procedures

/-- Which names are tables: those that are used as such, and those that are handed on as such or for them. -/
def allTables (procedures : List (String × Procedure)) (handed : List (String × String × String × Nat)) :
    (fuel : Nat) → List (String × String) → List (String × String)
  | 0, tables => tables
  | fuel + 1, tables =>
    let more := handed.foldl (fun tables (f, v, g, i) =>
      match (procedures.lookup g).bind fun p => p.parameters[i]? with
      | none => tables
      | some parameter =>
        let isTable := tables.contains (f, v)
        let isNeeded := tables.contains (g, parameter)
        if isTable && !isNeeded then (g, parameter) :: tables
        else if isNeeded && !isTable then (f, v) :: tables
        else tables) tables
    if more.length = tables.length then tables else allTables procedures handed fuel more

end Reader

/-- The program that a text stands for, or what is wrong with it. -/
def Program.read (source : String) : Except (List String) Program :=
  let cs := source.toList
  let cs := if cs.getLast? = some '\n' then cs else cs ++ ['\n']
  match Token.read (2 * cs.length + 2) 1 .newline cs with
  | .error message => .error [message]
  | .ok tokens =>
    let start : Source := ⟨Token.withCalls tokens, [], none, [], 0, false, [], [], [], [], 0⟩
    let bound := 2 * tokens.length + 4
    match (Reader.parts bound [] []).run start with
    | .error messages => .error messages
    | .ok ((rules, procedures), s) =>
      let lastLine := ((tokens.getLast?).map (·.2)).getD 1
      let undefined := s.calls.reverse.filterMap fun (f, n, line) =>
        match procedures.lookup f with
        | none => some (Token.messageAt lastLine ("function " ++ f ++ " never defined"))
        | some p =>
          if p.parameters.length < n then some (Token.messageAt line ("too many arguments in call to " ++ f)) else none
      let faults := s.faults.reverse ++ undefined.take 1
      if faults.isEmpty then
        let tables := Reader.allTables procedures s.handed (s.handed.length + 1) s.tables
        let names := "" :: procedures.map (·.1)
        .ok ⟨rules, procedures, names.map fun f => (f, (tables.filter fun t => t.1 = f).map (·.2))⟩
      else .error faults

end AddonAtlas.Shell.Records
