import AddonAtlas.Shell.Expression.Reading
import AddonAtlas.Shell.Utility.Listing
import AddonAtlas.TreeSearch

/-!
# Finding files

The program that goes through directories and decides, for each file, an expression of tests and actions:
conjunctions, disjunctions and negations of them. An action may write the file's path or run a command for it.
If there is no such action, the paths of all files for which the expression holds are written.
-/

namespace AddonAtlas.Shell

namespace Utility

open Shell.Action

namespace Find

/-- How a number is compared: it may be less, the same, or greater. -/
structure Measure where
  order : Ordering
  amount : Nat

def Measure.holds (m : Measure) (n : Nat) : Bool :=
  Ord.compare n m.amount == m.order

/-- A test or an action for a file, or several of them. -/
inductive Term
  | always
  | never
  | name (pattern : String) (ignoresCase : Bool)
  | path (pattern : String) (ignoresCase : Bool)
  | target (pattern : String)
  | regex (e : Expression)
  | kind (letters : List Char) (follows : Bool)
  | size (unit : Nat) (m : Measure)
  | age (m : Measure)
  | links (m : Measure)
  | isEmpty
  | mode (how : Char) (mode : Nat)
  | executable
  | same (file : String)
  | write (ending : Char)
  | format (text : String)
  | writeTo (file : String) (ending : Char)
  | list
  | run (command : List String) (isInDirectory : Bool)
  | collect (number : Nat) (command : List String) (isInDirectory : Bool)
  | delete
  | prune
  | quit
  | not (t : Term)
  | and (a b : Term)
  | or (a b : Term)
  | both (a b : Term)

/-- What holds for the whole search. -/
structure Settings where
  most : Option Nat
  least : Nat
  isDeep : Bool
  /-- Whether links are followed: always, or those that are given. -/
  follows : Bool
  followsGiven : Bool
  /-- Whether there is an action that writes or runs something. -/
  acts : Bool
  isExtended : Bool
  /-- How many commands for several files there are. -/
  collections : Nat

/-- What is read of the arguments. -/
structure Reading where
  rest : List String
  settings : Settings
  /-- The last predicate read. -/
  last : String

abbrev Reader := StateT Reading (Except String)

/-- An expression in which the signs that stand for themselves, and those that do not, are exchanged. -/
def exchanged : List Char → List Char
  | '\\' :: c :: rest => if "(|)".toList.contains c then c :: exchanged rest else '\\' :: c :: exchanged rest
  | c :: rest => if "(|)\x7b\x7d".toList.contains c then '\\' :: c :: exchanged rest else c :: exchanged rest
  | [] => []

/-- The argument of a predicate. -/
def argument (predicate : String) : Reader String := do
  let r ← get
  match r.rest with
  | [] => throw ("missing argument to " ++ String.ofList [Char.ofNat 96] ++ predicate ++ "'")
  | a :: rest =>
    set { r with rest := rest }
    return a

/-- A number that is to be compared. -/
def measure? (s : String) : Option Measure :=
  match s.toList with
  | '+' :: ds => (natural? ds).map fun n => ⟨.gt, n⟩
  | '-' :: ds => (natural? ds).map fun n => ⟨.lt, n⟩
  | ds => (natural? ds).map fun n => ⟨.eq, n⟩

def measure (predicate : String) : Reader Measure := do
  let s ← argument predicate
  match measure? s with
  | some m => return m
  | none => throw ("invalid argument " ++ Quotation.quoted s ++ " to " ++ String.ofList [Char.ofNat 96] ++ predicate ++ "'")

/-- Notes that something is done with files. -/
def acting (t : Term) : Reader Term := do
  modify fun r => { r with settings := { r.settings with acts := true } }
  return t

/-- The words of a command up to the mark behind it, and whether that asks for several files at once. -/
def commandWords (predicate : String) : (fuel : Nat) → List String → List String → Except String (List String × Bool × List String)
  | 0, _, _ | _, _, [] => .error ("missing argument to " ++ String.ofList [Char.ofNat 96] ++ predicate ++ "'")
  | fuel + 1, words, a :: rest =>
    if a = ";" then .ok (words.reverse, false, rest)
    else if a = "+" ∧ words.head? = some "\x7b\x7d" then .ok (words.reverse.dropLast, true, rest)
    else commandWords predicate fuel (a :: words) rest

/-- A predicate with its arguments. -/
def predicate (p : String) : Reader Term := do
  let change (f : Settings → Settings) : Reader Term := do
    modify fun r => { r with settings := f r.settings }
    return .always
  let depthOf : Reader Nat := do
    let s ← argument p
    match natural? s.toList with
    | some n => return n
    | none =>
      throw ("Expected a positive decimal integer argument to " ++ p ++ ", but got " ++ Quotation.quoted s)
  match p with
  | "-true" => return .always
  | "-false" => return .never
  | "-name" => return .name (← argument p) false
  | "-iname" => return .name (← argument p) true
  | "-path" | "-wholename" => return .path (← argument p) false
  | "-ipath" | "-iwholename" => return .path (← argument p) true
  | "-lname" | "-ilname" => return .target (← argument p)
  | "-regex" | "-iregex" =>
    let s ← argument p
    let isExtended := (← get).settings.isExtended
    let cs := if isExtended then s.toList else exchanged s.toList
    match Expression.parse (Expression.searching true) cs with
    | .ok e => return .regex (if p = "-iregex" then e.ignoringCase else e)
    | .error f => throw ("failed to compile regular expression " ++ Quotation.quoted s ++ ": " ++ f.message)
  | "-regextype" =>
    let s ← argument p
    change fun t => { t with isExtended := ["posix-extended", "posix-egrep", "egrep", "awk", "gnu-awk", "posix-awk"].contains s }
  | "-type" | "-xtype" =>
    let s ← argument p
    let letters := s.toList.splitOn ','
    match letters.find? fun l => l.length ≠ 1 with
    | some _ =>
      throw (if s.isEmpty then "Arguments to " ++ p ++ " should contain at least one letter"
        else "Must separate multiple arguments to " ++ p ++ " using: ','")
    | none =>
      let letters := letters.flatten
      match letters.find? fun c => !"bcdpflsD".toList.contains c with
      | some c => throw ("Unknown argument to " ++ p ++ ": " ++ String.ofList [c])
      | none => return .kind letters (p = "-xtype")
  | "-size" =>
    let s ← argument p
    let cs := s.toList
    let (unit, ds) :=
      match cs.getLast? with
      | some 'b' => (512, cs.dropLast)
      | some 'c' => (1, cs.dropLast)
      | some 'w' => (2, cs.dropLast)
      | some 'k' => (1024, cs.dropLast)
      | some 'M' => (1048576, cs.dropLast)
      | some 'G' => (1073741824, cs.dropLast)
      | _ => (512, cs)
    match measure? (String.ofList ds) with
    | some m => return .size unit m
    | none => throw ("Invalid argument " ++ Quotation.quoted s ++ " to -size")
  | "-mtime" | "-atime" | "-ctime" | "-mmin" | "-amin" | "-cmin" => return .age (← measure p)
  | "-links" => return .links (← measure p)
  | "-empty" => return .isEmpty
  | "-perm" =>
    let s ← argument p
    let (how, text) :=
      match s.toList with
      | '-' :: cs => ('-', cs)
      | '/' :: cs => ('/', cs)
      | cs => ('=', cs)
    match modeChange? (String.ofList text) with
    | some change => return .mode how (change false 0 0)
    | none => throw ("invalid mode " ++ Quotation.quoted s)
  | "-executable" => return .executable
  | "-readable" | "-writable" => return .always
  | "-samefile" => return .same (← argument p)
  | "-newer" | "-anewer" | "-cnewer" =>
    let _ ← argument p
    return .never
  | "-user" | "-group" =>
    let s ← argument p
    return if s = "root" ∨ s = "0" then .always else .never
  | "-print" => acting (.write '\n')
  | "-print0" => acting (.write '\x00')
  | "-printf" => acting (.format (← argument p))
  | "-fprint" => acting (.writeTo (← argument p) '\n')
  | "-fprint0" => acting (.writeTo (← argument p) '\x00')
  | "-ls" => acting .list
  | "-exec" | "-execdir" | "-ok" | "-okdir" =>
    let r ← get
    match commandWords p (r.rest.length + 1) [] r.rest with
    | .error e => throw e
    | .ok ([], _, _) => throw ("missing argument to " ++ String.ofList [Char.ofNat 96] ++ p ++ "'")
    | .ok (words, isCollected, rest) =>
      let n := r.settings.collections
      set { r with rest := rest, settings := { r.settings with collections := n + 1 } }
      if p.startsWith "-ok" then acting .never
      else if isCollected then acting (.collect n words (p = "-execdir"))
      else acting (.run words (p = "-execdir"))
  | "-delete" =>
    let _ ← change fun t => { t with isDeep := true }
    acting .delete
  | "-prune" => return .prune
  | "-quit" => return .quit
  | "-maxdepth" =>
    let n ← depthOf
    change fun t => { t with most := some n }
  | "-mindepth" =>
    let n ← depthOf
    change fun t => { t with least := n }
  | "-depth" | "-d" => change fun t => { t with isDeep := true }
  | "-follow" => change fun t => { t with follows := true }
  | "-mount" | "-xdev" | "-noleaf" | "-warn" | "-nowarn" | "-daystart" | "-ignore_readdir_race" => return .always
  | _ =>
    if p.startsWith "-" then throw ("unknown predicate " ++ String.ofList [Char.ofNat 96] ++ p ++ "'")
    else
      let last := (← get).last
      throw ("paths must precede expression: " ++ String.ofList [Char.ofNat 96] ++ p ++ "'" ++
        (if last.isEmpty then "" else "\nfind: possible unquoted pattern after predicate " ++
          String.ofList [Char.ofNat 96] ++ last ++ "'?"))

/-- An expression at a level: a list, a disjunction, a conjunction, or a single term. -/
def expression : (fuel : Nat) → (level : Nat) → Reader Term
  | 0, _ => throw "invalid expression"
  | fuel + 1, level => do
    if level = 3 then
      let r ← get
      match r.rest with
      | [] => throw ("invalid expression; I was expecting to find a ')' somewhere but did not see one.")
      | a :: rest =>
        set { r with rest := rest }
        if a = "!" ∨ a = "-not" then
          if rest.isEmpty then throw "expected an expression after '!'"
          return .not (← expression fuel 3)
        else if a = "(" then
          if rest.isEmpty then throw "invalid expression; expected to find a ')' but didn't see one.  Perhaps you need an extra predicate after '('"
          if rest.head? = some ")" then
            throw "invalid expression; empty parentheses are not allowed."
          let t ← expression fuel 0
          let r ← get
          match r.rest with
          | ")" :: rest =>
            set { r with rest := rest }
            return t
          | _ => throw "invalid expression; I was expecting to find a ')' somewhere but did not see one."
        else if a = ")" then
          throw "invalid expression; you have too many ')'"
        else if ["-o", "-or", "-a", "-and", ","].contains a then
          throw ("invalid expression; you have used a binary operator '" ++ a ++ "' with nothing before it.")
        else
          let t ← predicate a
          if a.startsWith "-" then modify fun r => { r with last := a }
          return t
    else
      let t ← expression fuel (level + 1)
      more fuel level t
where
  /-- Goes on with the operators of a level. -/
  more : (fuel : Nat) → (level : Nat) → Term → Reader Term
    | 0, _, t => return t
    | fuel + 1, level, t => do
      let r ← get
      let joins (o : String) : Bool :=
        match level with
        | 0 => o = ","
        | 1 => o = "-o" || o = "-or"
        | _ => o = "-a" || o = "-and"
      match r.rest with
      | [] => return t
      | o :: rest =>
        let build (u : Term) : Term := if level = 0 then .both t u else if level = 1 then .or t u else .and t u
        if joins o then
          if rest.isEmpty then throw ("expected an expression after '" ++ o ++ "'")
          set { r with rest := rest }
          let u ← expression fuel (level + 1)
          more fuel level (build u)
        else if level = 2 && !([")", ",", "-o", "-or"].contains o) then
          let u ← expression fuel 3
          more fuel level (.and t u)
        else return t

/-! ## Going through files -/

/-- A file on the way. -/
structure Visit where
  /-- The path from which the search went out. -/
  origin : String
  path : String
  place : Location
  entry : Entry
  depth : Nat

/-- What changes during a search. -/
structure State where
  isPruned : Bool
  isOver : Bool
  status : Nat
  /-- The files for commands that take several, by the number of the command, with the words of the command and
  the directory in which it runs, the last one first. -/
  collected : List (Nat × List String × Option Location × String)

abbrev Search := StateT State Action

/-- The path of a file behind the one from which the search went out. -/
def Visit.relative (v : Visit) : String :=
  if v.depth = 0 then "" else (v.path.drop (TreeSearch.withSlash v.origin).length).toString

/-- The name of a file. -/
def Visit.name (v : Visit) : String :=
  basename v.path

/-- The path of the directory that holds a file. -/
def Visit.directory (v : Visit) : String :=
  let cs := withoutLastSlashes v.path.toList
  let front := (cs.reverse.dropWhile (· != '/')).reverse
  if front.isEmpty then "." else
    let kept := withoutLastSlashes front
    if kept.isEmpty then "" else String.ofList kept

def kindLetter (e : Entry) (place : Location) : Char :=
  match e, place with
  | .file _ _, ["/", "dev", _] => 'c'
  | .file _ _, _ => 'f'
  | .directory, _ => 'd'
  | .link _, _ => 'l'

/-- What a letter stands for in the format of a file. -/
def fileProperty (m : Machine) (v : Visit) (letter : Char) : String :=
  match letter with
  | 'f' => v.name
  | 'p' => v.path
  | 'P' => v.relative
  | 'H' => v.origin
  | 'h' => v.directory
  | 'd' => toString v.depth
  | 'y' | 'Y' => String.ofList [kindLetter v.entry v.place]
  | 'l' =>
    match v.entry with
    | .link target => encode target
    | _ => ""
  | 'm' => property m v.path v.place v.entry 'a'
  | 'M' => property m v.path v.place v.entry 'A'
  | 'n' => property m v.path v.place v.entry 'h'
  | 'k' => toString (ListStyle.blocks v.entry)
  | c => property m v.path v.place v.entry c

/-- A command for files: their paths stand where the marks for them are. -/
def filledIn (words : List String) (path : String) : List String :=
  words.map fun w => path.intercalate (w.splitOn "\x7b\x7d")

/-- The path of a file as a command in its directory sees it. -/
def Visit.localPath (v : Visit) : String :=
  "./" ++ v.name

section
variable (command : List String → Action (Except Errno Nat))

/-- Runs a command, if need be in a directory; whether it succeeds. -/
def runCommand (directory : Option Location) (words : List String) : Action Bool := do
  let here := (← get).here
  if let some d := directory then modify fun m => { m with here := d }
  let r ← command words
  modify fun m => { m with here := here }
  match r with
  | .ok status => return status = 0
  | .error e =>
    complain "find" (Quotation.quoted (words.headD "") ++ ": " ++ e.description)
    return false

/-- Decides a term for a file, and does what it asks for. -/
def decide (v : Visit) : Term → Search Bool
  | .always => return true
  | .never => return false
  | .name p ignoresCase =>
    let fold (s : String) : List Char := if ignoresCase then s.toList.map Char.toLower else s.toList
    return Pattern.isMatch (fold p) (fold v.name)
  | .path p ignoresCase =>
    let fold (s : String) : List Char := if ignoresCase then s.toList.map Char.toLower else s.toList
    return Pattern.isMatch (fold p) (fold v.path)
  | .target p =>
    match v.entry with
    | .link target => return Pattern.isMatch p.toList (encode target).toList
    | _ => return false
  | .regex e =>
    let cs := v.path.toList
    return (e.endsAt (Expression.subject cs) 0).contains cs.length
  | .kind letters follows => do
    let m ← getThe Machine
    let letter :=
      match v.entry with
      | .link _ =>
        if follows then
          match resolve m v.path with
          | .ok (place, e) => kindLetter e place
          | .error _ => 'l'
        else 'l'
      | e => kindLetter e v.place
    return letters.contains letter
  | .size unit m => return m.holds ((ListStyle.sizeOf v.entry + unit - 1) / unit)
  | .age m => return m.holds 0
  | .links m => do return m.holds (ListStyle.links ⟨[], ← getThe Machine⟩ ⟨v.path, v.place, v.entry⟩)
  | .isEmpty => do
    match v.entry with
    | .file content _ => return content.size = 0
    | .directory => return ((← getThe Machine).tree.children v.place).isEmpty
    | .link _ => return false
  | .mode how mode => do
    let own := (← getThe Machine).tree.mode v.place
    match how with
    | '-' => return own &&& mode = mode
    | '/' => return mode = 0 || own &&& mode ≠ 0
    | _ => return own = mode
  | .executable => do
    match v.entry with
    | .file _ executable => return executable
    | .directory => return true
    | .link _ => return ((← getThe Machine).find? v.path).any Found.isExecutable
  | .same file => do
    match resolve (← getThe Machine) file with
    | .ok (place, _) => return place = v.place
    | .error _ => return false
  | .write ending => do
    let _ ← put (toBytes (v.path.toList ++ [ending]))
    return true
  | .format text => do
    let m ← getThe Machine
    let _ ← put (toBytes (describedBy (fileProperty m v) true (text.length + 1) text.toList))
    return true
  | .writeTo file ending => do
    let _ ← writeFile file true (toBytes (v.path.toList ++ [ending]))
    return true
  | .list => do
    let m ← getThe Machine
    let s : ListStyle := ⟨[⟨"l", none, 0⟩], m⟩
    let line := " ".intercalate (s.columns ⟨v.path, v.place, v.entry⟩) ++ " Jan  1 00:00 " ++ v.path ++ "\n"
    let _ ← put (toBytes line.toList)
    return true
  | .run words isInDirectory => do
    let path := if isInDirectory then v.localPath else v.path
    runCommand command (if isInDirectory then some (FileTree.parent v.place) else none) (filledIn words path)
  | .collect n words isInDirectory => do
    let path := if isInDirectory then v.localPath else v.path
    let directory := if isInDirectory then some (FileTree.parent v.place) else none
    modify fun s => { s with collected := (n, words, directory, path) :: s.collected }
    return true
  | .delete => do
    let m ← getThe Machine
    if v.path = "." then return true
    else if v.entry matches .directory && !(below m.tree v.place).isEmpty then
      complain "find" ("cannot delete " ++ Quotation.quoted v.path ++ ": Directory not empty")
      modify fun s => { s with status := 1 }
      return false
    else
      (MonadState.set { m with tree := m.tree.remove v.place } : Action Unit)
      return true
  | .prune => do
    modify fun s => { s with isPruned := true }
    return true
  | .quit => do
    modify fun s => { s with isOver := true }
    return true
  | .not t => do return !(← decide v t)
  | .and a b => do
    if ← decide v a then
      if (← get).isOver then return false else decide v b
    else return false
  | .or a b => do
    if ← decide v a then return true
    else if (← get).isOver then return false
    else decide v b
  | .both a b => do
    let _ ← decide v a
    if (← get).isOver then return false else decide v b

/-- Goes through a file and, if it is a directory, through those in it. -/
def visit (s : Settings) (t : Term) : (fuel : Nat) → (above : List Location) → Visit → Search Unit
  | 0, _, _ => return
  | fuel + 1, above, v => do
    if (← get).isOver then return
    modify fun st => { st with isPruned := false }
    let apply : Search Unit := do
      if s.least ≤ v.depth && !(← get).isOver then
        let _ ← decide command v t
    if !s.isDeep then apply
    let isPruned := (← get).isPruned && !s.isDeep
    if v.entry matches .directory && !isPruned && s.most.all (v.depth < ·) then
      if above.contains v.place then
        complain "find" ("File system loop detected; " ++ Quotation.quoted v.path ++
          " is part of the same file system loop as " ++ Quotation.quoted v.origin ++ ".")
        modify fun st => { st with status := 1 }
      else
        let m ← getThe Machine
        for name in m.tree.children v.place do
          let place := v.place ++ [name]
          let path := TreeSearch.withSlash v.path ++ encode name
          let found :=
            match m.tree.find? place with
            | some (.link target) =>
              if s.follows then
                match m.tree.resolveIn v.place name with
                | .ok r => some r
                | .error _ => some (place, .link target)
              else some (place, .link target)
            | some e => some (place, e)
            | none => none
          if let some (place, e) := found then
            visit s t fuel (v.place :: above) ⟨v.origin, path, place, e, v.depth + 1⟩
    if s.isDeep then apply

/-- Runs the commands that take several files. -/
def runCollected (s : Settings) : Search Unit := do
  for n in List.range s.collections do
    let files := ((← get).collected.filter fun c => c.1 = n).reverse
    for group in files.splitBy fun a b => a.2.2.1 = b.2.2.1 do
      if let (_, words, directory, _) :: _ := group then
        if !(← runCommand command directory (words ++ group.map (·.2.2.2))) then
          modify fun st => { st with status := 1 }

end

end Find

def find (command : List String → Action (Except Errno Nat)) (name : String) (arguments : List String) : Action Nat := do
  let flags := arguments.takeWhile fun a => ["-H", "-L", "-P", "--"].contains a || a.startsWith "-O" || a = "-D"
  let arguments := arguments.drop flags.length
  let isExpression (a : String) : Bool :=
    match a.toList with
    | '-' :: _ :: _ => true
    | ['('] | [')'] | [','] | ['!'] => true
    | _ => false
  let paths := arguments.takeWhile (!isExpression ·)
  let expression := arguments.drop paths.length
  let lastFlag := (flags.filter fun a => a ≠ "--").getLast?
  let start : Find.Settings := ⟨none, 0, false, lastFlag = some "-L", lastFlag = some "-H", false, false, 0⟩
  let parsed :=
    if expression.isEmpty then .ok (Find.Term.always, (⟨[], start, ""⟩ : Find.Reading))
    else (Find.expression (8 * expression.length + 16) 0).run ⟨expression, start, ""⟩
  match parsed with
  | .error e => giveUp name e 1
  | .ok (t, r) =>
    match r.rest with
    | ")" :: _ => giveUp name "invalid expression; you have too many ')'" 1
    | a :: _ => giveUp name ("paths must precede expression: " ++ String.ofList [Char.ofNat 96] ++ a ++ "'") 1
    | [] =>
      let s := r.settings
      let t := if s.acts then t else .and t (.write '\n')
      let search : Find.Search Unit := do
        for path in if paths.isEmpty then ["."] else paths do
          let m ← getThe Machine
          let found :=
            if s.follows || s.followsGiven then (resolve m path).orElseLazy fun _ => entryOf m path else entryOf m path
          match found with
          | .error e =>
            complain name (Quotation.quoted path ++ ": " ++ e.description)
            modify fun (st : Find.State) => { st with status := 1 }
          | .ok (place, e) =>
            Find.visit command s t (m.tree.entries.length + 3) [] ⟨path, path, place, e, 0⟩
        Find.runCollected command s
      let ((), st) ← search.run ⟨false, false, 0, []⟩
      return st.status

end Utility

end AddonAtlas.Shell
