import AddonAtlas.Shell.Expression
import AddonAtlas.Shell.Pattern

/-!
# Reading regular expressions

Expressions are written in the basic notation, where signs for groups, alternatives and bounds follow a
backslash, or in the extended one, where they stand alone. Programs differ in what they make of signs that
have nothing to act on; a `Style` says which way is meant.
-/

namespace AddonAtlas.Shell.Expression

/-- How expressions are written. -/
structure Style where
  isExtended : Bool
  /-- Signs of repetition with nothing to repeat are refused, and so are closing signs without partner, and
  bounds that are none. -/
  isStrict : Bool
  /-- Letters behind a backslash stand for control characters. -/
  hasControls : Bool
  /-- Lines have a start and an end of their own, and only a newline itself matches newlines. -/
  isByLines : Bool := false

/-- What is wrong with a written expression. -/
inductive Fault
  | malformed
  | unmatchedOpening
  | unmatchedClosing
  | unmatchedBracket
  | unmatchedBrace
  | trailingBackslash
  | unknownClass
  /-- A class stands in brackets of its own, but not inside of others. -/
  | bareClass
  | collatingElement
  | badReference
  | badRange
  | badBounds
  | badRepetition
  | tooBig
deriving DecidableEq, Repr

def Fault.message : Fault → String
  | malformed => "Invalid regular expression"
  | unmatchedOpening => "Unmatched ( or \\("
  | unmatchedClosing => "Unmatched ) or \\)"
  | unmatchedBracket => "Unmatched [, [^, [:, [., or [="
  | unmatchedBrace => "Unmatched \\\x7b"
  | trailingBackslash => "Trailing backslash"
  | unknownClass => "Invalid character class name"
  | bareClass => "character class syntax is [[:space:]], not [:space:]"
  | collatingElement => "Invalid collation character"
  | badReference => "Invalid back reference"
  | badRange => "Invalid range end"
  | badBounds => "Invalid content of \\\x7b\\\x7d"
  | badRepetition => "Invalid preceding regular expression"
  | tooBig => "Regular expression too big"

/-! ## Classes and brackets -/

/-- The ranges of a class of a name. -/
def classRanges? (name : String) : Option (List (Char × Char)) :=
  (Pattern.classes.find? fun c => c.1 = name).map fun c => rangesOf c.2

def namedRanges (name : String) : List (Char × Char) :=
  (classRanges? name).getD []

def wordRanges : List (Char × Char) :=
  namedRanges "alnum" ++ [('_', '_')]

/-- Any character but NUL. -/
def anyCharacter : Expression :=
  member true [('\x00', '\x00')]

/-- An expression that matches no newline unless it says so. -/
def Style.withoutNewline (st : Style) (e : Expression) : Expression :=
  match e with
  | member true ranges => if st.isByLines then member true (('\n', '\n') :: ranges) else e
  | _ => e

/-- The text up to a mark and a closing bracket, and what follows these. -/
def upToMark (mark : Char) : List Char → Except Fault (List Char × List Char)
  | [] => .error .unmatchedBracket
  | c :: rest =>
    match rest with
    | ']' :: after => if c = mark then .ok ([], after) else (upToMark mark rest).map fun (t, r) => (c :: t, r)
    | _ => (upToMark mark rest).map fun (t, r) => (c :: t, r)

/-- A member of brackets: a single character, or the ranges of a class; and what follows. -/
def bracketMember (cs : List Char) : Except Fault ((Char ⊕ List (Char × Char)) × List Char) :=
  match cs with
  | '[' :: ':' :: rest => do
    let (name, after) ← upToMark ':' rest
    match classRanges? (String.ofList name) with
    | some ranges => .ok (.inr ranges, after)
    | none => .error .unknownClass
  | '[' :: mark :: rest =>
    if mark = '.' ∨ mark = '=' then do
      let (name, after) ← upToMark mark rest
      match name with
      | [c] => .ok (.inl c, after)
      | _ => .error .collatingElement
    else .ok (.inl '[', mark :: rest)
  | c :: rest => .ok (.inl c, rest)
  | [] => .error .unmatchedBracket

/-- The ranges between brackets, and what follows them; `isFirst` says that a bracket would be a member. -/
def bracketRanges : (fuel : Nat) → (isFirst : Bool) → List Char →
    Except Fault (List (Char × Char) × List Char)
  | 0, _, _ => .error .unmatchedBracket
  | fuel + 1, isFirst, cs => do
    match cs with
    | [] => .error .unmatchedBracket
    | ']' :: rest => if !isFirst then return ([], rest)
    | '-' :: c :: _ => if !isFirst && c ≠ ']' then .error .badRange
    | _ => pure ()
    let (low, rest) ← bracketMember cs
    let isRange : Bool :=
      match rest with
      | '-' :: c :: _ => c != ']'
      | _ => false
    if isRange then
      let (high, rest) ← bracketMember (rest.drop 1)
      match low, high with
      | .inl a, .inl b =>
        if b < a then .error .badRange
        else
          let (found, after) ← bracketRanges fuel false rest
          return ((a, b) :: found, after)
      | _, _ => .error .badRange
    else
      let (found, after) ← bracketRanges fuel false rest
      return ((match low with
        | .inl c => [(c, c)]
        | .inr ranges => ranges) ++ found, after)

/-- Whether what stands between brackets looks like a class. -/
def isBareClass (cs : List Char) : Bool :=
  cs.head? == some ':' && cs.getLast? == some ':' && cs.any (· != ':') && !cs.contains '[' && !cs.contains '-'

/-- A set in brackets, behind the first of them. -/
def brackets (cs : List Char) : Except Fault (Expression × List Char) := do
  let (isInverted, cs) :=
    match cs with
    | '^' :: rest => (true, rest)
    | _ => (false, cs)
  if cs.isEmpty then .error .malformed
  let (ranges, rest) ← bracketRanges (cs.length + 1) true cs
  if isBareClass (cs.take (cs.length - rest.length - 1)) then .error .bareClass
  .ok (member isInverted ranges, rest)

/-! ## Signs -/

/-- What the start of a text means. -/
inductive Sign
  /-- An expression that may be repeated. -/
  | plain (e : Expression)
  /-- An expression for a place, which is not repeated. -/
  | place (e : Expression)
  | opening
  | closing
  | bar
  | star
  | plus
  | question
  | brace
  | bracket
  | back (number : Nat)
  | dangling

/-- The signs that stand alone in the extended notation, and behind a backslash in the basic one. -/
def operator? (c : Char) : Option Sign :=
  match c with
  | '(' => some .opening
  | ')' => some .closing
  | '|' => some .bar
  | '+' => some .plus
  | '?' => some .question
  | '\x7b' => some .brace
  | _ => none

/-- The control characters that letters stand for. -/
def controls : List (Char × Char) :=
  [('n', '\n'), ('t', '\t'), ('r', '\r'), ('f', '\x0c'), ('v', '\x0b'), ('a', '\x07')]

/-- A character behind a backslash. -/
def escapedSign (st : Style) (c : Char) : Sign :=
  match if st.isExtended then none else operator? c with
  | some sign => sign
  | none =>
    if '1' ≤ c ∧ c ≤ '9' then .back (c.toNat - 48)
    else
      match c with
      | 'w' => .plain (member false wordRanges)
      | 'W' => .plain (member true wordRanges)
      | 's' => .plain (member false (namedRanges "space"))
      | 'S' => .plain (member true (namedRanges "space"))
      | 'b' => .place (wordEdge true true)
      | 'B' => .place noWordEdge
      | c =>
        if c = '<' then .place (wordEdge true false)
        else if c = '>' then .place (wordEdge false true)
        else if c = '\'' then .place finish
        else if c = Char.ofNat 96 then .place start
        else
          match if st.hasControls then controls.find? fun k => k.1 = c else none with
          | some (_, control) => .plain (only control)
          | none => .plain (only c)

/-- Whether a group or an alternative of the basic notation ends here. -/
def endsBranch (cs : List Char) : Bool :=
  match cs with
  | [] => true
  | '\\' :: c :: _ => c = ')' || c = '|'
  | _ => false

/-- The first sign of a text that is not empty, and what follows. `isFirst` says that it begins a group or an
alternative. -/
def signOf (st : Style) (isFirst : Bool) (c : Char) (rest : List Char) : Sign × List Char :=
  match c with
  | '\\' =>
    match rest with
    | [] => (.dangling, [])
    | d :: rest => (escapedSign st d, rest)
  | '*' => (.star, rest)
  | '[' => (.bracket, rest)
  | '.' => (.plain (st.withoutNewline anyCharacter), rest)
  | '^' =>
    (if st.isExtended || isFirst then .place (if st.isByLines then lineStart else start) else .plain (only '^'), rest)
  | '$' =>
    (if st.isExtended || endsBranch rest then .place (if st.isByLines then lineFinish else finish)
    else .plain (only '$'), rest)
  | _ => (((if st.isExtended then operator? c else none).getD (.plain (only c))), rest)

/-! ## Bounds -/

/-- The most times that a bound may ask for. -/
def maxBound : Nat := 32767

/-- What follows a closing brace that stands at the start of a text. -/
def closingBrace? (st : Style) (cs : List Char) : Option (List Char) :=
  match cs with
  | '\x7d' :: rest => if st.isExtended then some rest else none
  | '\\' :: '\x7d' :: rest => if st.isExtended then none else some rest
  | _ => none

/-- Whether a closing brace stands anywhere in a text. -/
def hasClosingBrace (st : Style) : List Char → Bool
  | [] => false
  | c :: rest => (closingBrace? st (c :: rest)).isSome || hasClosingBrace st rest

/-- The bounds behind an opening brace, and what follows the closing one; nothing if the brace stands for
itself. -/
def bounds? (st : Style) (cs : List Char) : Except Fault (Option ((Nat × Option Nat) × List Char)) :=
  let number (cs : List Char) : Option Nat × List Char :=
    let ds := cs.takeWhile isDigit
    (if ds.isEmpty then none else some (Arithmetic.digitsOf 10 ds).1, cs.drop ds.length)
  let invalid (cs : List Char) : Except Fault (Option ((Nat × Option Nat) × List Char)) :=
    if st.isExtended && !st.isStrict then .ok none
    else .error (if hasClosingBrace st cs then .badBounds else .unmatchedBrace)
  let checked (low : Nat) (high : Option Nat) (rest : List Char) :
      Except Fault (Option ((Nat × Option Nat) × List Char)) :=
    if high.any fun h => h < low then .error .badBounds
    else if maxBound < high.getD low then .error .tooBig
    else .ok (some ((low, high), rest))
  let (low, rest) := number cs
  match closingBrace? st rest, rest with
  | some after, _ =>
    match low with
    | some n => checked n (some n) after
    | none => .error .badBounds
  | none, ',' :: rest =>
    let (high, rest) := number rest
    match closingBrace? st rest, rest with
    | some after, _ => checked (low.getD 0) high after
    | none, ',' :: _ => .error .badBounds
    | none, rest => invalid rest
  | none, rest => invalid rest

/-! ## Expressions -/

/-- The groups that were opened, and the numbers of those that were closed. -/
structure Grouping where
  opened : Nat
  closed : List Nat

mutual

/-- Alternatives, up to a closing sign or the end; `depth` is the number of groups around them. -/
def alternatives (st : Style) : (fuel : Nat) → (depth : Nat) → Grouping → List Char →
    Except Fault (Expression × Grouping × List Char)
  | 0, _, _, _ => .error .tooBig
  | fuel + 1, depth, g, cs => do
    let (e, g, rest) ← branch st fuel depth g true true empty cs
    match rest with
    | [] => return (e, g, [])
    | c :: after =>
      match signOf st true c after with
      | (.bar, after) =>
        let (f, g, rest) ← alternatives st fuel depth g after
        return (alt e f, g, rest)
      | _ => return (e, g, rest)

/-- What follows `before` in one alternative. `isFirst` says that nothing was written before, and `isFresh`
that nothing was that may be repeated. -/
def branch (st : Style) : (fuel : Nat) → (depth : Nat) → Grouping → (isFirst isFresh : Bool) →
    (before : Expression) → List Char → Except Fault (Expression × Grouping × List Char)
  | 0, _, _, _, _, _, _ => .error .tooBig
  | _ + 1, _, g, _, _, before, [] => .ok (before, g, [])
  | fuel + 1, depth, g, isFirst, isFresh, before, c :: rest =>
    let (sign, after) := signOf st isFirst c rest
    let itself (c : Char) : Except Fault (Expression × Grouping × List Char) :=
      suffixes st fuel depth g before (only c) after
    let nothingToRepeat (c : Char) : Except Fault (Expression × Grouping × List Char) :=
      if !st.isExtended then itself c
      else if st.isStrict then .error .badRepetition
      else branch st fuel depth g false isFresh before after
    match sign with
    | .bar => .ok (before, g, c :: rest)
    | .closing =>
      if depth ≠ 0 then .ok (before, g, c :: rest)
      else if st.isExtended && !st.isStrict then itself ')'
      else .error .unmatchedClosing
    | .opening => do
      let number := g.opened + 1
      let (e, g, rest) ← alternatives st fuel (depth + 1) { g with opened := number } after
      match rest with
      | [] => .error .unmatchedOpening
      | c :: rest =>
        match signOf st true c rest with
        | (.closing, rest) =>
          suffixes st fuel depth { g with closed := number :: g.closed } before (group number e) rest
        | _ => .error .unmatchedOpening
    | .star => nothingToRepeat '*'
    | .plus => nothingToRepeat '+'
    | .question => nothingToRepeat '?'
    | .brace =>
      if !st.isExtended then (if st.isStrict then .error .badRepetition else itself '\x7b')
      else if st.isStrict then .error .badRepetition
      else do
        match ← bounds? st after with
        | none => itself '\x7b'
        | some (_, rest) => branch st fuel depth g false isFresh before rest
    | .place e => branch st fuel depth g false true (seq before e) after
    | .back n => if n ∈ g.closed then suffixes st fuel depth g before (back n) after else .error .badReference
    | .bracket => do
      let (e, rest) ← brackets after
      suffixes st fuel depth g before (st.withoutNewline e) rest
    | .dangling => .error .trailingBackslash
    | .plain e => suffixes st fuel depth g before e after

/-- What follows an expression: signs that repeat it, and the rest of the alternative. -/
def suffixes (st : Style) : (fuel : Nat) → (depth : Nat) → Grouping → (before e : Expression) → List Char →
    Except Fault (Expression × Grouping × List Char)
  | 0, _, _, _, _, _ => .error .tooBig
  | _ + 1, _, g, before, e, [] => .ok (seq before e, g, [])
  | fuel + 1, depth, g, before, e, c :: rest =>
    let onwards : Except Fault (Expression × Grouping × List Char) :=
      branch st fuel depth g false false (seq before e) (c :: rest)
    let repeats (e : Expression) (rest : List Char) : Except Fault (Expression × Grouping × List Char) :=
      let isAgain :=
        match rest with
        | '*' :: _ => true
        | '\\' :: '\x7b' :: _ => true
        | _ => false
      if isAgain && st.isStrict && !st.isExtended then .error .badRepetition
      else suffixes st fuel depth g before e rest
    match signOf st false c rest with
    | (.star, rest) => repeats (repeated 0 none e) rest
    | (.plus, rest) => repeats (repeated 1 none e) rest
    | (.question, rest) => repeats (repeated 0 (some 1) e) rest
    | (.brace, after) => do
      match ← bounds? st after with
      | some ((low, high), rest) => repeats (repeated low high e) rest
      | none => suffixes st fuel depth g (seq before e) (only '\x7b') after
    | _ => onwards

end

/-- The expression that a text stands for. -/
def parse (st : Style) (cs : List Char) : Except Fault Expression := do
  let (e, _, rest) ← alternatives st (4 * cs.length + 8) 0 ⟨0, []⟩ cs
  if rest.isEmpty then .ok e else .error .unmatchedClosing

/-- The signs of repetition that have nothing to repeat, as messages show them. -/
def idleSigns (st : Style) : (fuel : Nat) → (isFresh : Bool) → List Char → List String
  | 0, _, _ => []
  | _ + 1, _, [] => []
  | fuel + 1, isFresh, c :: rest =>
    let idle (shown : String) (rest : List Char) : List String :=
      (if isFresh then [shown] else []) ++ idleSigns st fuel isFresh rest
    match signOf st false c rest with
    | (.opening, rest) | (.bar, rest) => idleSigns st fuel true rest
    | (.place _, rest) => idleSigns st fuel isFresh rest
    | (.star, rest) => idle "*" rest
    | (.plus, rest) => idle "+" rest
    | (.question, rest) => idle "?" rest
    | (.brace, rest) =>
      match (bounds? st rest).toOption.join with
      | some (_, after) => idle "\x7b...\x7d" after
      | none => idleSigns st fuel false rest
    | (.bracket, rest) =>
      match brackets rest with
      | .ok (_, after) => idleSigns st fuel false after
      | .error _ => []
    | (_, rest) => idleSigns st fuel false rest

/-- The style of editors. -/
def editing (isExtended isByLines : Bool) : Style :=
  ⟨isExtended, true, true, isByLines⟩

/-- The style of searches. -/
def searching (isExtended : Bool) : Style :=
  ⟨isExtended, false, false, false⟩

end AddonAtlas.Shell.Expression
