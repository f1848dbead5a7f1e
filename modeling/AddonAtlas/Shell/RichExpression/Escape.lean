import AddonAtlas.Shell.Pattern
import AddonAtlas.Shell.RichExpression
import AddonAtlas.Shell.RichExpression.Fault
import AddonAtlas.Shell.RichExpression.Property

/-!
# Escapes and brackets of the rich notation

What a backslash and the signs behind it stand for, and which characters the members of a bracket name.
-/

namespace AddonAtlas.Shell.RichExpression

open Expression (rangesOf isWithin)

/-! ## State -/

/-- What the letters of options say. -/
structure Mode where
  ignoresCase : Bool := false
  /-- Lines have a start and an end of their own. -/
  isByLines : Bool := false
  /-- A dot stands for newlines, too. -/
  dotsAll : Bool := false
  /-- Blanks and comments do not count. -/
  ignoresBlanks : Bool := false
  /-- Blanks do not count in brackets either. -/
  ignoresAllBlanks : Bool := false
  /-- Only groups with names take something. -/
  namesOnly : Bool := false
  /-- Several groups may have one name. -/
  sharesNames : Bool := false
  /-- Repetitions are lazy unless they are marked. -/
  isLazy : Bool := false

/-- What was read so far, and what is left to read. -/
structure Reader where
  rest : List Char
  mode : Mode
  /-- How many groups were opened. -/
  count : Nat
  groups : List (Nat × Part)
  names : List (String × Nat)
  /-- Everything stands for itself. -/
  isLiteral : Bool

/-- A part, or nothing but a change of how the rest is read; and whether it can be repeated. -/
structure Item where
  part : Option Part
  isRepeatable : Bool


/-! ## Sets of characters -/

/-- The part for the characters of some ranges. -/
def setOf (mode : Mode) (isInverted : Bool) (ranges : List (Char × Char)) : Part :=
  if mode.ignoresCase then
    .member isInverted (rangesOf fun n =>
      let c := Char.ofNat n
      isWithin ranges c || isWithin ranges c.toUpper || isWithin ranges c.toLower)
  else .member isInverted ranges

def literal (mode : Mode) (c : Char) : Part :=
  if mode.ignoresCase && c.isAlpha then setOf mode false [(c, c)] else .member false [(c, c)]

def characters (cs : List Char) : List (Char × Char) :=
  cs.map fun c => (c, c)

def digits : List (Char × Char) := [('0', '9')]

def wordRanges : List (Char × Char) := [('0', '9'), ('A', 'Z'), ('_', '_'), ('a', 'z')]

def blanks : List (Char × Char) := [('\t', '\r'), (' ', ' ')]

def horizontal : List (Char × Char) := characters ['\t', ' ', '\xa0']

def vertical : List (Char × Char) := [('\n', '\r'), ('\x85', '\x85')]

/-- The ranges that a letter behind a backslash stands for, and whether they are inverted. -/
def escapedSet? (c : Char) : Option (Bool × List (Char × Char)) :=
  let ranges? :=
    match c.toLower with
    | 'd' => some digits
    | 'w' => some wordRanges
    | 's' => some blanks
    | 'h' => some horizontal
    | 'v' => some vertical
    | _ => none
  ranges?.map fun ranges => (c.isUpper, ranges)

/-- All characters that are in no range. -/
def complement (ranges : List (Char × Char)) : List (Char × Char) :=
  rangesOf fun n => !isWithin ranges (Char.ofNat n)

/-- A property behind a backslash. -/
def property (isInverted : Bool) (cs : List Char) : Except Fault (Bool × List (Char × Char) × List Char) := do
  let (name, negates, after) ←
    match cs with
    | '\x7b' :: rest =>
      let (negates, rest) :=
        match rest with
        | '^' :: rest => (true, rest)
        | _ => (false, rest)
      let name := rest.takeWhile fun c => c ≠ '\x7d' && (isNamePart c || " -&=:\t".toList.contains c)
      match rest.drop name.length with
      | '\x7d' :: after => pure (name, negates, after)
      | _ => .error .malformedProperty
    | c :: rest => if c.isAlpha then pure ([c], false, rest) else .error .malformedProperty
    | [] => .error .malformedProperty
  match property? (withoutBlanks name) with
  | some runs => return (isInverted != negates, rangesOfRuns runs, after)
  | none => .error .unknownProperty

/-! ## Numbers and names -/

/-- The greatest number of groups. -/
def maxGroups : Nat := 65535

/-- A number, which with a sign counts from the groups that are open; nothing if there is none. -/
def groupNumber? (count : Nat) (cs : List Char) : Except Fault (Option (Nat × List Char)) := do
  let (sign, rest) :=
    match cs with
    | '+' :: rest => ('+', rest)
    | '-' :: rest => ('-', rest)
    | _ => (' ', cs)
  let ds := rest.takeWhile isDigit
  if ds.isEmpty then return none
  else
    let n := (Arithmetic.digitsOf 10 ds).1
    if maxGroups < n then .error .bigGroup
    else if n = 0 && sign ≠ ' ' then .error .zeroDistance
    else
      match sign with
      | '+' => return some (count + n, rest.drop ds.length)
      | '-' => if count < n then .error .missingGroup else return some (count + 1 - n, rest.drop ds.length)
      | _ => return some (n, rest.drop ds.length)

/-- A name up to a character that ends it. -/
def name (finish : Char) (cs : List Char) : Except Fault (String × List Char) := do
  if cs.isEmpty then .error .noName
  let text := cs.takeWhile isNamePart
  match cs with
  | c :: _ => if isDigit c then .error .digitInName
  | [] => pure ()
  if text.isEmpty then .error .noName
  else if 32 < text.length then .error .longName
  else
    match cs.drop text.length with
    | c :: rest => if c = finish then return (String.ofList text, rest) else .error .openName
    | [] => .error .openName

/-- The character that ends a name which another one has opened. -/
def closing? : Char → Option Char
  | '<' => some '>'
  | '\x7b' => some '\x7d'
  | '\'' => some '\''
  | _ => none

/-! ## Escapes -/

/-- What a backslash and what follows it stand for. -/
inductive Escape
  | char (c : Char)
  | set (isInverted : Bool) (ranges : List (Char × Char))
  | part (p : Part) (isRepeatable : Bool)
  | nothing

/-- The character of a code. -/
def codeOf (limit : Fault) (n : Nat) : Except Fault Char :=
  if n ≤ 255 then .ok (Char.ofNat n) else .error limit

/-- A code between braces, in a base. -/
def bracedCode (base : Nat) (isDigit_ : Char → Bool) (bad : Fault) (cs : List Char) :
    Except Fault (Escape × List Char) := do
  match cs with
  | [] | '\x7d' :: _ => .error .noCodeDigits
  | _ =>
    let ds := cs.takeWhile isDigit_
    let n := (Arithmetic.digitsOf base ds).1
    if 255 < n then .error .bigCode
    else
      match cs.drop ds.length with
      | '\x7d' :: rest => return (.char (Char.ofNat n), rest)
      | _ => .error bad

def isOctal (c : Char) : Bool :=
  '0' ≤ c && c ≤ '7'

def isHexadecimal (c : Char) : Bool :=
  isDigit c || ('a' ≤ c && c ≤ 'f') || ('A' ≤ c && c ≤ 'F')

/-- A character by octal digits, of which there are at most three. -/
def octalCode (cs : List Char) : Except Fault (Escape × List Char) := do
  let ds := (cs.take 3).takeWhile isOctal
  match ds with
  | [] => return (.char (cs.headD '0'), cs.drop 1)
  | _ => return (.char (← codeOf .bigOctal (Arithmetic.digitsOf 8 ds).1), cs.drop ds.length)

/-- Whether bounds of a repetition follow, in braces. -/
def bounds? (cs : List Char) : Except Fault (Option (Nat × Option Nat × List Char)) := do
  let low := cs.takeWhile isDigit
  let number (ds : List Char) : Except Fault Nat :=
    let n := (Arithmetic.digitsOf 10 ds).1
    if 65535 < n then .error .bigBound else .ok n
  if low.isEmpty then return none
  else
    match cs.drop low.length with
    | '\x7d' :: rest =>
      let n ← number low
      return some (n, some n, rest)
    | ',' :: rest =>
      let high := rest.takeWhile isDigit
      match rest.drop high.length with
      | '\x7d' :: rest =>
        let least ← number low
        if high.isEmpty then return some (least, none, rest)
        else
          let most ← number high
          if most < least then .error .disorderedBounds else return some (least, some most, rest)
      | _ => return none
    | _ => return none

/-- The place for a letter behind a backslash. -/
def place? : Char → Option Part
  | 'A' => some (.place .start)
  | 'z' => some (.place .finish)
  | 'Z' => some (.alt (.place .finish) (.look false (.seq (.member false [('\n', '\n')]) (.place .finish))))
  | 'b' => some (.place (.wordEdge true true))
  | 'B' => some (.place .noWordEdge)
  | 'G' => some .origin
  | _ => none

def newlines : Part :=
  .atomic (.alt (.seq (.member false [('\r', '\r')]) (.member false [('\n', '\n')])) (.member false vertical))

/-- Reads what follows a backslash. -/
def escape (r : Reader) (inBracket : Bool) : Except Fault (Escape × List Char) := do
  match r.rest with
  | [] => .error .trailingBackslash
  | c :: rest =>
    match c with
    | 'a' => return (.char '\x07', rest)
    | 'e' => return (.char '\x1b', rest)
    | 'f' => return (.char '\x0c', rest)
    | 'n' => return (.char '\n', rest)
    | 'r' => return (.char '\r', rest)
    | 't' => return (.char '\t', rest)
    | 'E' => return (.nothing, rest)
    | 'c' =>
      match rest with
      | [] => .error .trailingControl
      | d :: rest =>
        if d.toNat < 32 ∨ 126 < d.toNat then .error .badControl
        else return (.char (Char.ofNat (d.toUpper.toNat ^^^ 64)), rest)
    | 'x' =>
      match rest with
      | '\x7b' :: rest => bracedCode 16 isHexadecimal .badHexadecimal rest
      | _ =>
        let ds := (rest.take 2).takeWhile isHexadecimal
        return (.char (Char.ofNat (Arithmetic.digitsOf 16 ds).1), rest.drop ds.length)
    | 'o' =>
      match rest with
      | '\x7b' :: rest => bracedCode 8 isOctal .badOctal rest
      | _ => .error .noOctalBrace
    | 'p' | 'P' => do
      let (isInverted, ranges, rest) ← property (c = 'P') rest
      return (.set isInverted ranges, rest)
    | 'N' =>
      let counts ←
        match rest with
        | '\x7b' :: after => do
          match ← bounds? after with
          | some _ => pure true
          | none =>
            match after with
            | 'U' :: '+' :: _ => .error .namedCode
            | _ => .error .foreignEscape
        | _ => pure true
      if inBracket then .error .lineClassInBracket
      else return (.set counts [('\n', '\n')], rest)
    | 'F' | 'L' | 'l' | 'U' | 'u' => .error .foreignEscape
    | _ =>
      if let some (isInverted, ranges) := escapedSet? c then return (.set isInverted ranges, rest)
      else if '1' ≤ c && c ≤ '9' then
        let ds := (c :: rest).takeWhile isDigit
        let n := (Arithmetic.digitsOf 10 ds).1
        if inBracket then octalCode (c :: rest)
        else if maxGroups < n then .error .bigGroup
        else if n < 10 ∨ '8' ≤ c ∨ n ≤ r.count then
          return (.part (.back (.number n) r.mode.ignoresCase) true, (c :: rest).drop ds.length)
        else octalCode (c :: rest)
      else if c = '0' then octalCode (c :: rest)
      else if !c.isAlpha then return (.char c, rest)
      else if inBracket then
        match c with
        | 'b' => return (.char '\x08', rest)
        | 'g' => return (.char 'g', rest)
        | _ => if "ABCGKRXZkz".toList.contains c then .error .badBracketEscape else .error .unknownEscape
      else if let some p := place? c then return (.part p false, rest)
      else
        match c with
        | 'C' => return (.part (.member true []) true, rest)
        | 'R' => return (.part newlines true, rest)
        | 'X' =>
          return (.part (.atomic (.alt (.seq (.member false [('\r', '\r')]) (.member false [('\n', '\n')]))
            (.member true []))) true, rest)
        | 'K' => return (.part .keep false, rest)
        | 'k' =>
          match rest with
          | d :: rest =>
            match closing? d with
            | some finish =>
              let (s, rest) ← name finish rest
              return (.part (.back (.name s) r.mode.ignoresCase) true, rest)
            | none => .error .badNameReference
          | [] => .error .badNameReference
        | 'g' =>
          match rest with
          | '\x7b' :: inner =>
            match ← groupNumber? r.count inner with
            | none =>
              let (s, rest) ← name '\x7d' inner
              return (.part (.back (.name s) r.mode.ignoresCase) true, rest)
            | some (n, '\x7d' :: rest) =>
              if n = 0 then .error .missingGroup
              else return (.part (.back (.number n) r.mode.ignoresCase) true, rest)
            | some _ => .error .badGroupReference
          | d :: inner =>
            if d = '<' ∨ d = '\'' then
              let finish := if d = '<' then '>' else '\''
              match ← groupNumber? r.count inner with
              | some (n, e :: rest) =>
                if e = finish then return (.part (.call (.number n)) true, rest) else .error .badGroupReference
              | some _ => .error .badGroupReference
              | none =>
                let (s, rest) ← name finish inner
                return (.part (.call (.name s)) true, rest)
            else
              match ← groupNumber? r.count rest with
              | some (n, rest) =>
                if n = 0 then .error .missingGroup
                else return (.part (.back (.number n) r.mode.ignoresCase) true, rest)
              | none => .error .badGroupReference
          | [] => .error .badGroupReference
        | _ => .error .unknownEscape

/-! ## Brackets -/

/-- Whether a class in brackets of its own follows, and what is behind its name. -/
def classEnd? (mark : Char) : List Char → Option (List Char × List Char)
  | c :: d :: rest =>
    if c = '\\' && (d = ']' || d = '\\') then (classEnd? mark rest).map fun (t, after) => (c :: d :: t, after)
    else if (c = '[' && d = mark) || c = ']' then none
    else if c = mark && d = ']' then some ([], rest)
    else (classEnd? mark (d :: rest)).map fun (t, after) => (c :: t, after)
  | _ => none

/-- What may follow the last member of a bracket. -/
inductive Following
  /-- No range can begin with it. -/
  | nothing
  | low (c : Char)
  /-- A range has begun. -/
  | open_ (c : Char)

/-- Whether a hyphen follows that does not end a bracket. -/
def hyphenFollows : List Char → Bool
  | '-' :: c :: _ => c ≠ ']'
  | _ => false

/-- The members of a bracket from a place on, and what follows it. -/
def bracketMembers (r : Reader) : (fuel : Nat) → (isFirst isLiteral : Bool) → Following → List Char →
    Except Fault (List (Char × Char) × List Char)
  | 0, _, _, _, _ => .error .openBracket
  | fuel + 1, isFirst, isLiteral, following, cs => do
    let add (ranges : List (Char × Char)) (next : Following) (isLiteral : Bool) (rest : List Char) :
        Except Fault (List (Char × Char) × List Char) := do
      let (found, after) ← bracketMembers r fuel false isLiteral next rest
      return (ranges ++ found, after)
    let single (c : Char) (mayBegin isLiteral : Bool) (rest : List Char) :
        Except Fault (List (Char × Char) × List Char) := do
      match following with
      | .open_ low => if c < low then .error .disorderedRange else add [(low, c)] .nothing isLiteral rest
      | _ => add [(c, c)] (if mayBegin then .low c else .nothing) isLiteral rest
    let whole (ranges : List (Char × Char)) (rest : List Char) :
        Except Fault (List (Char × Char) × List Char) := do
      match following with
      | .open_ _ => .error .badRange
      | _ => if hyphenFollows rest then .error .badRange else add ranges .nothing false rest
    match cs with
    | [] => .error .openBracket
    | c :: rest =>
      if isLiteral then
        match cs with
        | '\\' :: 'E' :: rest => bracketMembers r fuel isFirst false following rest
        | _ => single c true true rest
      else if c = ']' && !isFirst then
        match following with
        | .open_ low => return ([('-', '-'), (low, low)], rest)
        | _ => return ([], rest)
      else if r.mode.ignoresAllBlanks && (c = ' ' || c = '\t') then
        bracketMembers r fuel isFirst false following rest
      else
        match cs with
        | '[' :: mark :: inner =>
          match if mark = ':' ∨ mark = '.' ∨ mark = '=' then classEnd? mark inner else none with
          | some (text, after) =>
            match following with
            | .open_ _ => .error .badRange
            | _ =>
              if mark ≠ ':' then .error .collatingElement
              else
                let (negates, text) :=
                  match text with
                  | '^' :: text => (true, text)
                  | _ => (false, text)
                let class_ := String.ofList text
                let class_ :=
                  if r.mode.ignoresCase && (class_ = "upper" || class_ = "lower") then "alpha" else class_
                let ranges? :=
                  match class_ with
                  | "word" => some wordRanges
                  | "ascii" => some [('\x00', '\x7f')]
                  | _ => (Pattern.classes.find? fun x => x.1 = class_).map fun x => rangesOf x.2
                match ranges? with
                | none => .error .unknownClass
                | some ranges => whole (if negates then complement ranges else ranges) after
          | none => single '[' true false (mark :: inner)
        | '-' :: rest =>
          match following with
          | .low low =>
            if rest.head? = some ']' then add [('-', '-')] .nothing false rest
            else bracketMembers r fuel false false (.open_ low) rest
          | _ => single '-' true false rest
        | '\\' :: 'Q' :: rest => bracketMembers r fuel isFirst true following rest
        | '\\' :: 'E' :: rest => bracketMembers r fuel isFirst false following rest
        | '\\' :: rest =>
          match ← escape { r with rest := rest } true with
          | (.char c, rest) => single c true false rest
          | (.set isInverted ranges, rest) => whole (if isInverted then complement ranges else ranges) rest
          | (_, rest) => bracketMembers r fuel isFirst false following rest
        | _ => single c true false rest

/-- The part for a bracket, behind its opening sign. -/
def bracket (r : Reader) : Except Fault (Part × Reader) := do
  let edge (atStart : Bool) (rest : List Char) : Except Fault (Part × Reader) :=
    .ok (.place (.wordEdge atStart !atStart), { r with rest := rest })
  match r.rest with
  | '[' :: ':' :: '<' :: ':' :: ']' :: ']' :: rest => edge true rest
  | '[' :: ':' :: '>' :: ':' :: ']' :: ']' :: rest => edge false rest
  | mark :: inner =>
    if (mark = ':' ∨ mark = '.' ∨ mark = '=') && (classEnd? mark inner).isSome then
      .error (if mark = ':' then .bareClass else .collatingElement)
    else
      let isInverted := mark = '^'
      let cs := if isInverted then inner else r.rest
      let (ranges, rest) ← bracketMembers r (2 * cs.length + 2) true false .nothing cs
      return (setOf r.mode isInverted ranges, { r with rest := rest })
  | [] => .error .openBracket

end AddonAtlas.Shell.RichExpression
