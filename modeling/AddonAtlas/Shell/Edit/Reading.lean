import AddonAtlas.Shell.Edit
import AddonAtlas.Shell.Quotation

/-!
# Reading scripts that edit lines

A script is read character by character from one or more texts. What is wrong with it is told with the number
of characters that were read until that was known, or with the line.
-/

namespace AddonAtlas.Shell

namespace Edit

/-! ## Escapes -/

/-- The character that a code behind a backslash stands for, and what follows it: control characters, and
characters by their numbers. -/
def numbered? (cs : List Char) : Option (Char × List Char) :=
  let digits (base most : Nat) (rest : List Char) : Option (Char × List Char) :=
    let ds := (rest.take most).takeWhile fun c => Arithmetic.digitValue c < base
    if ds.isEmpty then none
    else some (Char.ofNat ((Arithmetic.digitsOf base ds).1 % 256), rest.drop ds.length)
  match cs with
  | 'a' :: rest => some ('\x07', rest)
  | 'f' :: rest => some ('\x0c', rest)
  | 'r' :: rest => some ('\r', rest)
  | 't' :: rest => some ('\t', rest)
  | 'v' :: rest => some ('\x0b', rest)
  | 'c' :: c :: rest =>
    let n := c.toUpper.toNat
    some (Char.ofNat (if n / 64 % 2 = 1 then n - 64 else n + 64), rest)
  | 'd' :: rest => digits 10 3 rest
  | 'o' :: rest => digits 8 3 rest
  | 'x' :: rest => digits 16 2 rest
  | _ => none

/-- An expression with the characters that codes stand for in the place of the codes. -/
def unescapedExpression : (fuel : Nat) → (inBrackets : Bool) → List Char → List Char
  | 0, _, cs => cs
  | _ + 1, _, [] => []
  | fuel + 1, inBrackets, '\\' :: rest =>
    match numbered? rest with
    | some (c, after) => c :: unescapedExpression fuel inBrackets after
    | none =>
      match rest with
      | 'n' :: after => '\n' :: unescapedExpression fuel inBrackets after
      | c :: after =>
        if inBrackets then '\\' :: unescapedExpression fuel inBrackets (c :: after)
        else '\\' :: c :: unescapedExpression fuel inBrackets after
      | [] => ['\\']
  | fuel + 1, inBrackets, c :: rest =>
    if inBrackets then
      match c, rest with
      | '[', m :: more =>
        if m = ':' ∨ m = '.' ∨ m = '=' then
          let name := more.takeWhile (· != m)
          if (more.drop name.length).take 2 = [m, ']'] then
            '[' :: m :: name ++ [m, ']'] ++ unescapedExpression fuel true (more.drop (name.length + 2))
          else c :: unescapedExpression fuel true rest
        else c :: unescapedExpression fuel true rest
      | _, _ => c :: unescapedExpression fuel (c != ']') rest
    else if c = '[' then
      let opening :=
        match rest with
        | '^' :: ']' :: _ => rest.take 2
        | ']' :: _ => rest.take 1
        | '^' :: _ => rest.take 1
        | _ => []
      c :: opening ++ unescapedExpression fuel true (rest.drop opening.length)
    else c :: unescapedExpression fuel false rest

/-- A text without the backslashes in it, with the characters that codes stand for. -/
def unescapedText : (fuel : Nat) → List Char → List Char
  | 0, cs => cs
  | _ + 1, [] => []
  | fuel + 1, '\\' :: rest =>
    match numbered? rest with
    | some (c, after) => c :: unescapedText fuel after
    | none =>
      match rest with
      | 'n' :: after => '\n' :: unescapedText fuel after
      | c :: after => c :: unescapedText fuel after
      | [] => []
  | fuel + 1, c :: rest => c :: unescapedText fuel rest

/-- The pieces of a replacement. `letters` is how letters are changed from here on, and `lasting` how they are
changed behind the next piece. -/
def pieces (letters lasting : LetterCase) : (fuel : Nat) → (text : List Char) → List Char → List Piece
  | 0, text, _ => [⟨text.reverse, none, letters⟩]
  | _ + 1, text, [] => if text.isEmpty then [] else [⟨text.reverse, none, letters⟩]
  | fuel + 1, text, '&' :: rest => ⟨text.reverse, some 0, letters⟩ :: pieces lasting lasting fuel [] rest
  | fuel + 1, text, '\\' :: rest =>
    match numbered? rest, rest with
    | some (c, after), _ => pieces letters lasting fuel (c :: text) after
    | none, [] => [⟨('\\' :: text).reverse, none, letters⟩]
    | none, c :: after =>
      let done : List Piece := if text.isEmpty then [] else [⟨text.reverse, none, letters⟩]
      let lasting' := if text.isEmpty then letters else lasting
      if isDigit c then ⟨text.reverse, some (c.toNat - 48), letters⟩ :: pieces lasting lasting fuel [] after
      else
        match c with
        | 'n' => pieces letters lasting fuel ('\n' :: text) after
        | 'U' => done ++ pieces ⟨some true, none⟩ ⟨some true, none⟩ fuel [] after
        | 'L' => done ++ pieces ⟨some false, none⟩ ⟨some false, none⟩ fuel [] after
        | 'E' => done ++ pieces .kept .kept fuel [] after
        | 'u' => done ++ pieces { lasting' with first := some true } { lasting with first := none } fuel [] after
        | 'l' => done ++ pieces { lasting' with first := some false } { lasting with first := none } fuel [] after
        | c => pieces letters lasting fuel (c :: text) after
  | fuel + 1, text, c :: rest => pieces letters lasting fuel (c :: text) rest

/-! ## Sources -/

/-- A sign of a script, as messages show it. -/
def quoted (sign : String) : String :=
  String.ofList [Char.ofNat 96] ++ sign ++ "'"

/-- A text that is being read. -/
structure Source where
  rest : List Char
  /-- How many characters were read. -/
  consumed : Nat
  line : Nat
  isExtended : Bool
  /-- Whether the text is the first one. -/
  isFirst : Bool
  instructions : Array Instruction
  /-- The numbers of the blocks that are open. -/
  blocks : List Nat
  /-- Whether the text of the last instruction is still to come. -/
  isPending : Bool
  isSilent : Bool
  /-- The files that are to be written. -/
  files : List String

/-- Reads a script; a fault comes with the place where it was found. -/
abbrev Reader := ExceptT String (StateM Source)

namespace Reader

/-- Takes the next character. -/
def next : Reader (Option Char) := do
  let s ← get
  match s.rest with
  | [] => return none
  | c :: rest =>
    set { s with rest := rest, consumed := s.consumed + 1, line := if c = '\n' then s.line + 1 else s.line }
    return some c

/-- Gives a character back. -/
def back (c : Option Char) : Reader Unit :=
  match c with
  | none => return
  | some c =>
    modify fun s =>
      { s with rest := c :: s.rest, consumed := s.consumed - 1, line := if c = '\n' then s.line - 1 else s.line }

/-- Takes the characters at the front that satisfy a condition. -/
def span (p : Char → Bool) : Reader (List Char) := do
  let s ← get
  let found := s.rest.takeWhile p
  set
    { s with
      rest := s.rest.drop found.length
      consumed := s.consumed + found.length
      line := s.line + (found.filter (· == '\n')).length }
  return found

def isBlank (c : Char) : Bool :=
  c == ' ' || c == '\t'

/-- Takes the next character that is no blank. -/
def nextNonblank : Reader (Option Char) := do
  let _ ← span isBlank
  next

/-- A number, of which the first digit was taken. -/
def number (c : Option Char) : Reader Nat := do
  back c
  return (Arithmetic.digitsOf 10 (← span isDigit)).1

/-- Checks that an order ends. -/
def ending : Reader Unit := do
  let c ← nextNonblank
  match c with
  | none => return
  | some d =>
    if d = '\x7d' ∨ d = '#' then back c
    else if d ≠ '\n' ∧ d ≠ ';' then throw "extra characters after command"

/-- What stands up to a delimiter; nothing if there is none. In an expression, a delimiter between brackets is
not meant. -/
def delimited (d : Char) (isExpression : Bool) : (fuel : Nat) → (inBrackets : Bool) → List Char →
    Reader (Option (List Char))
  | 0, _, _ => return none
  | fuel + 1, inBrackets, done => do
    let c ← next
    match c with
    | none => return none
    | some c =>
      if c = d ∧ ¬ inBrackets then return some done.reverse
      else if c = '\n' ∧ isExpression then
        back (some c)
        return none
      else if c = '\\' ∧ ¬ inBrackets then
        match ← next with
        | none => return none
        | some e =>
          if e = d ∧ (isExpression ∨ e ≠ '&') then delimited d isExpression fuel false (e :: done)
          else if e = '\n' ∧ ¬ isExpression then delimited d isExpression fuel false ('\n' :: '\\' :: done)
          else delimited d isExpression fuel false (e :: '\\' :: done)
      else if c = '\n' then
        back (some c)
        return none
      else if isExpression ∧ c = '[' ∧ ¬ inBrackets then
        let rest := (← get).rest
        let opening :=
          match rest with
          | '^' :: ']' :: _ => 2
          | ']' :: _ | '^' :: _ => 1
          | _ => 0
        let taken := rest.take opening
        for _ in taken do
          let _ ← next
        delimited d isExpression fuel true (taken.reverse ++ c :: done)
      else if isExpression ∧ c = '[' ∧ inBrackets then
        let rest := (← get).rest
        match rest with
        | m :: more =>
          let name := more.takeWhile (· != m)
          if (m = ':' ∨ m = '.' ∨ m = '=') ∧ (more.drop name.length).take 2 = [m, ']'] then
            let taken := m :: name ++ [m, ']']
            for _ in taken do
              let _ ← next
            delimited d isExpression fuel true (taken.reverse ++ c :: done)
          else delimited d isExpression fuel true (c :: done)
        | [] => delimited d isExpression fuel true (c :: done)
      else if isExpression ∧ c = ']' ∧ inBrackets then delimited d isExpression fuel false (c :: done)
      else delimited d isExpression fuel inBrackets (c :: done)

/-- What stands up to a delimiter. -/
def upTo (d : Char) (isExpression : Bool) : Reader (Option (List Char)) := do
  delimited d isExpression ((← get).rest.length + 1) false []

/-- The expression that a text stands for; none for an empty text. -/
def expression (text : List Char) (ignoresCase isByLines : Bool) : Reader (Option Expression) := do
  if text.isEmpty then
    if ignoresCase || isByLines then throw "cannot specify modifiers on empty regexp"
    return none
  else
    let isExtended := (← get).isExtended
    match Expression.parse (Expression.editing isExtended isByLines) (unescapedExpression (text.length + 1) false text) with
    | .ok e => return some (if ignoresCase then e.ignoringCase else e)
    | .error f => throw f.message

/-- The signs behind an expression that stands for lines: whether it ignores case, and goes by lines. -/
def addressFlags : (fuel : Nat) → (ignoresCase isByLines : Bool) → Reader (Bool × Bool)
  | 0, i, m => return (i, m)
  | fuel + 1, i, m => do
    let c ← nextNonblank
    match c with
    | some 'I' => addressFlags fuel true m
    | some 'M' => addressFlags fuel i true
    | c =>
      back c
      return (i, m)

/-- An address that begins with a character. -/
def address (c : Option Char) : Reader (Option Until) := do
  match c with
  | none => return none
  | some c =>
    if c = '/' ∨ c = '\\' then
      let d ← if c = '\\' then next else pure (some c)
      match d with
      | none => throw "unterminated address regex"
      | some d =>
        match ← upTo d true with
        | none => throw "unterminated address regex"
        | some text =>
          let (i, m) ← addressFlags ((← get).rest.length + 1) false false
          return some (.address (.matching (← expression text i m)))
    else if isDigit c then
      let n ← number (some c)
      let d ← nextNonblank
      if d = some '~' then
        let e ← nextNonblank
        let step ← number e
        return some (.address (if step = 0 then .line n else .every n step))
      else
        back d
        return some (.address (.line n))
    else if c = '+' ∨ c = '~' then
      let n ← number (← nextNonblank)
      return some (if c = '+' then .further n else .multiple n)
    else if c = '$' then return some (.address .last)
    else return none

/-- The name of a file, up to the end of the line. -/
def file : Reader String := do
  let _ ← span isBlank
  let name ← span (· != '\n')
  let _ ← next
  if name.isEmpty then throw "missing filename in r/R/w/W commands"
  return String.ofList name

/-- The name of a file that is to be written. -/
def writtenFile : Reader String := do
  let name ← file
  modify fun s => { s with files := s.files ++ [name] }
  return name

/-- A label, up to a blank or a semicolon. -/
def labelName (isEnded : Char → Bool) : Reader String := do
  let _ ← span isBlank
  return String.ofList (← span fun c => !(Arithmetic.isSpace c || c == ';' || isEnded c))

/-- The text of an order up to the end of a line that has no backslash at its end. -/
def textLines : (fuel : Nat) → List Char → Reader (List Char)
  | 0, done => return done.reverse
  | fuel + 1, done => do
    match ← next with
    | none | some '\n' => return ('\n' :: done).reverse
    | some '\\' =>
      match ← next with
      | none => return ('\n' :: done).reverse
      | some c => textLines fuel (c :: '\\' :: done)
    | some c => textLines fuel (c :: done)

/-- The text behind an order that adds lines; nothing if it is still to come. -/
def addedText : Reader (Option (List Char)) := do
  let _ ← span isBlank
  match (← get).rest with
  | [] => throw ("expected \\ after " ++ quoted "a" ++ ", " ++ quoted "c" ++ " or " ++ quoted "i")
  | '\\' :: rest =>
    let _ ← next
    let blanks := rest.takeWhile isBlank
    match rest.drop blanks.length with
    | [] => if blanks.isEmpty then return none
    | '\n' :: _ =>
      let _ ← span isBlank
      let _ ← next
      if (← get).rest.isEmpty then return none
    | _ => pure ()
  | _ => pure ()
  let text ← textLines ((← get).rest.length + 1) []
  return some (unescapedText (text.length + 1) text)

/-- The flags of a substitution, whose expression is read behind them. -/
structure Flags where
  number : Option Nat
  isGlobal : Bool
  printsBefore : Bool
  prints : Bool
  isRun : Bool
  ignoresCase : Bool
  isByLines : Bool
  file : Option String

def flags : (fuel : Nat) → Flags → Reader Flags
  | 0, f => return f
  | fuel + 1, f => do
    let c ← next
    match c with
    | none | some '\n' | some ';' => return f
    | some 'i' | some 'I' => flags fuel { f with ignoresCase := true }
    | some 'm' | some 'M' => flags fuel { f with isByLines := true }
    | some 'e' => flags fuel { f with isRun := true }
    | some 'p' =>
      if f.prints || f.printsBefore then throw ("multiple " ++ quoted "p" ++ " options to " ++ quoted "s" ++ " command")
      flags fuel (if f.isRun then { f with prints := true } else { f with printsBefore := true })
    | some 'g' =>
      if f.isGlobal then throw ("multiple " ++ quoted "g" ++ " options to " ++ quoted "s" ++ " command")
      flags fuel { f with isGlobal := true }
    | some 'w' => return { f with file := some (← writtenFile) }
    | some '\x7d' | some '#' =>
      back c
      return f
    | some d =>
      if isDigit d then
        if f.number.isSome then throw ("multiple number options to " ++ quoted "s" ++ " command")
        let n ← number c
        if n = 0 then throw ("number option to " ++ quoted "s" ++ " command may not be zero")
        flags fuel { f with number := some n }
      else if isBlank d ∨ d = '\r' then flags fuel f
      else throw ("unknown option to " ++ quoted "s")

def substitution : Reader Order := do
  let unterminated := "unterminated " ++ quoted "s" ++ " command"
  match ← next with
  | none | some '\n' | some '\\' => throw unterminated
  | some d =>
    match ← upTo d true with
    | none => throw unterminated
    | some pattern =>
      match ← upTo d false with
      | none => throw unterminated
      | some text =>
        let f ← flags ((← get).rest.length + 1) ⟨none, false, false, false, false, false, false, none⟩
        let found := pieces .kept .kept (text.length + 1) [] text
        let e ← expression pattern f.ignoresCase f.isByLines
        let most := (found.filterMap (·.group)).foldl max 0
        let groups := (e.map Expression.groupCount).getD 9
        if groups < most then throw ("invalid reference \\" ++ toString most ++ " on " ++ quoted "s" ++ " command's RHS")
        -- Without a run, it makes no difference when the line is written.
        let prints := f.prints || (f.printsBefore && !f.isRun)
        return .substitute
          ⟨e, found, f.number.getD 1, f.isGlobal, f.printsBefore && f.isRun, prints, f.isRun, f.file⟩

/-- The characters of a text for a transliteration. -/
def characters : (fuel : Nat) → List Char → List Char
  | 0, _ => []
  | _ + 1, [] => []
  | fuel + 1, '\\' :: rest =>
    match numbered? rest, rest with
    | some (c, after), _ => c :: characters fuel after
    | none, '\\' :: after => '\\' :: characters fuel after
    | none, 'n' :: after => '\n' :: characters fuel after
    | none, '\n' :: after => '\n' :: characters fuel after
    | none, _ => '\\' :: characters fuel rest
  | fuel + 1, c :: rest => c :: characters fuel rest

def transliteration : Reader Order := do
  let unterminated := "unterminated " ++ quoted "y" ++ " command"
  match ← next with
  | none | some '\n' | some '\\' => throw unterminated
  | some d =>
    match ← upTo d false with
    | none => throw unterminated
    | some a =>
      match ← upTo d false with
      | none => throw unterminated
      | some b =>
        let a := characters (a.length + 1) a
        let b := characters (b.length + 1) b
        if a.length ≠ b.length then throw ("strings for " ++ quoted "y" ++ " command are different lengths")
        ending
        return .transliterate (a.zip b)

/-- The orders of a single letter. -/
def plainOrder? (c : Char) : Option Order :=
  match c with
  | '=' => some .number
  | 'd' => some .delete
  | 'D' => some .deleteFirst
  | 'F' => some .name
  | 'g' => some .fetch
  | 'G' => some .fetchMore
  | 'h' => some .hold
  | 'H' => some .holdMore
  | 'n' => some .next
  | 'N' => some .join
  | 'p' => some .print
  | 'P' => some .printFirst
  | 'z' => some .clear
  | 'x' => some .exchange
  | _ => none

/-- Adds an instruction. -/
def push (i : Instruction) : Reader Unit :=
  modify fun s => { s with instructions := s.instructions.push i }

/-- Reads an order by its letter, and adds it with its lines. -/
def order (a : Option Address) (u : Option Until) (isInverted : Bool) (c : Char) : Reader Unit := do
  let add (o : Order) : Reader Unit := push ⟨a, u, isInverted, o⟩
  let optionalNumber : Reader (Option Nat) := do
    let d ← nextNonblank
    if d.any isDigit then return some (← number d)
    else
      back d
      return none
  match c with
  | '#' =>
    if a.isSome then throw "comments don't accept any addresses"
    let s ← get
    if s.isFirst && s.consumed = 1 then
      match s.rest with
      | ['n'] => modify fun s => { s with isSilent := true }
      | 'n' :: '\n' :: _ => modify fun s => { s with isSilent := true }
      | _ => pure ()
    let _ ← span (· != '\n')
    let _ ← next
  | 'v' =>
    let name ← labelName fun _ => false
    let parts := (name.splitOn ".").map fun s => s.toNat?
    match parts with
    | (some major) :: rest =>
      let minor := (rest.head?.join).getD 0
      if 4 < major ∨ (major = 4 ∧ 9 < minor) then throw "expected newer version of sed"
    | _ => if !name.isEmpty then throw "invalid version"
    ending
  | '\x7b' =>
    modify fun s => { s with blocks := s.instructions.size :: s.blocks }
    add (.block 0)
  | '\x7d' =>
    match (← get).blocks with
    | [] => throw ("unexpected " ++ quoted "\x7d")
    | start :: blocks =>
      if a.isSome then throw (quoted "\x7d" ++ " doesn't want any addresses")
      ending
      modify fun s =>
        { s with
          blocks := blocks
          instructions := s.instructions.modify start fun i =>
            { i with order := .block (s.instructions.size - start - 1) } }
  | 'e' =>
    let _ ← span isBlank
    match (← get).rest with
    | [] => add (.run [])
    | '\n' :: _ => add (.run [])
    | _ =>
      let text ← textLines ((← get).rest.length + 1) []
      add (.run text)
  | 'a' | 'i' | 'c' =>
    let text ← addedText
    let t := text.getD []
    add (if c = 'a' then .append t else if c = 'i' then .insert t else .change t)
    modify fun s => { s with isPending := text.isNone }
  | ':' =>
    if a.isSome then throw ": doesn't want any addresses"
    let name ← labelName fun _ => false
    if name.isEmpty then throw "\":\" lacks a label"
    add (.label name)
  | 'b' => add (.jump .always (← labelName (· == '\x7d')))
  | 't' => add (.jump .ifReplaced (← labelName (· == '\x7d')))
  | 'T' => add (.jump .ifNothingReplaced (← labelName (· == '\x7d')))
  | 'q' | 'Q' =>
    if u.isSome then throw "command only uses one address"
    let n ← optionalNumber
    ending
    add (.quit (c = 'Q') (n.getD 0))
  | 'l' | 'L' =>
    let n ← optionalNumber
    ending
    add (.show_ n)
  | 'r' => add (.readFile (← file))
  | 'R' => add (.readLine (← file))
  | 'w' => add (.writeLine (← writtenFile))
  | 'W' => add (.writeFirst (← writtenFile))
  | 's' => add (← substitution)
  | 'y' => add (← transliteration)
  | c =>
    match plainOrder? c with
    | some o =>
      ending
      add o
    | none => throw ("unknown command: " ++ quoted (String.ofList [c]))

/-- Reads instructions up to the end. -/
def instructions : (fuel : Nat) → Reader Unit
  | 0 => return
  | fuel + 1 => do
    let _ ← span fun c => c == ';' || Arithmetic.isSpace c
    let c ← next
    if c.isNone then return
    let first ← address c
    let (a, c) ←
      match first with
      | none => pure (none, c)
      | some (.address a) => pure (some a, ← nextNonblank)
      | some _ => throw "invalid usage of +N or ~N as first address"
    let (u, c) ←
      if a.isSome && c = some ',' then do
        match ← address (← nextNonblank) with
        | none => throw ("unexpected " ++ quoted ",")
        | some u => pure (some u, ← nextNonblank)
      else pure (none, c)
    let isZero :=
      match a with
      | some (.line 0) => true
      | _ => false
    let endsInMatch :=
      match u with
      | some (.address (.matching _)) => true
      | _ => false
    if isZero && !endsInMatch then throw "invalid usage of line address 0"
    let (isInverted, c) ←
      if c = some '!' then do
        let c ← nextNonblank
        if c = some '!' then throw ("multiple " ++ quoted "!" ++ "s")
        pure (true, c)
      else pure (false, c)
    match c with
    | none => throw "missing command"
    | some c =>
      order a u isInverted c
      instructions fuel

/-- Reads one of several texts that make up a script. -/
def text : Reader Unit := do
  let s ← get
  if s.isPending then
    let found ← textLines (s.rest.length + 1) []
    let found := unescapedText (found.length + 1) found
    modify fun s =>
      { s with
        isPending := false
        instructions := s.instructions.modify (s.instructions.size - 1) fun i =>
          let o := match i.order with
            | .append _ => .append found
            | .insert _ => .insert found
            | .change _ => .change found
            | o => o
          { i with order := o } }
  instructions (s.rest.length + 2)

end Reader

/-- A text that a script is read from: an argument, or a file of a name. -/
structure ScriptText where
  file : Option String
  content : List Char
  isExtended : Bool

/-- What is wrong with a script, and the files to be written that it names before that. -/
structure Script.Fault where
  message : String
  files : List String

/-- The script that texts make up, or what is wrong with them. -/
def Script.read (texts : List ScriptText) : Except Script.Fault Script :=
  go 1 texts ⟨[], 0, 1, false, true, #[], [], false, false, []⟩
where
  /-- Reads the texts from the one of a number on; only arguments are counted. -/
  go (number : Nat) (rest : List ScriptText) (s : Source) : Except Script.Fault Script :=
    let fault (message : String) (s : Source) : Except Script.Fault Script :=
      .error ⟨message, s.files⟩
    let place (t : Option String) (s : Source) (number : Nat) : String :=
      match t with
      | some file => "file " ++ file ++ " line " ++ toString s.line ++ ": "
      | none => "-e expression #" ++ toString number ++ ", char " ++ toString s.consumed ++ ": "
    match rest with
    | [] =>
      if !s.blocks.isEmpty then fault (place none { s with consumed := 0 } (number - 1) ++ "unmatched " ++ quoted "\x7b") s
      else .ok ⟨s.instructions, s.isSilent, s.files, number - 1⟩
    | t :: rest =>
      let (result, s') := Reader.text
        { s with
          rest := t.content
          consumed := 0
          line := 1
          isExtended := t.isExtended
          isFirst := number = 1 && s.isFirst }
      match result with
      | .error message => fault (place t.file s' number ++ message) s'
      | .ok () => go (if t.file.isSome then number else number + 1) rest { s' with isFirst := false }

end Edit

end AddonAtlas.Shell
