import AddonAtlas.Bytes
import AddonAtlas.Regex.Matcher

/-!
# Extended regular expressions over bytes

The written form of an expression in the notation of POSIX, in a locale where every byte is a
character. A text is cut into tokens (`tokens`), and the tokens are put together into a `Regex`
(`Builder`). The notation is read as far as repetition of single characters, classes of blanks and
spaces, groups, alternatives, back references and anchors. A pattern of several lines is one
expression a line, of which any may select.
-/

namespace AddonAtlas.Extended

/-- What is wrong with a pattern. -/
inductive Fault
  | unmatchedOpen
  | invalidBackReference
  | unmatchedBracket
  | trailingBackslash
  | unknownClass
  | misplacedRepetition
deriving DecidableEq, Repr

namespace Fault

def message : Fault → String
  | unmatchedOpen => "Unmatched ( or \\("
  | invalidBackReference => "Invalid back reference"
  | unmatchedBracket => "Unmatched [, [^, [:, [., or [="
  | trailingBackslash => "Trailing backslash"
  | unknownClass => "Invalid character class name"
  | misplacedRepetition => "Invalid preceding regular expression"

end Fault

inductive Token
  | atom (c : SymbolClass UInt8)
  | repeated (c : SymbolClass UInt8)
  | atStart
  | atEnd
  | openGroup
  | closeGroup
  | bar
  | back (n : Nat)
deriving DecidableEq, Repr

/-- The bytes of a named class. -/
def namedClass? (name : List UInt8) : Option (List UInt8) :=
  if name = "blank".toUTF8.data.toList then some [32, 9]
  else if name = "space".toUTF8.data.toList then some [32, 9, 10, 11, 12, 13]
  else none

/-- Where the reader of a pattern stands. -/
inductive Place
  | outside
  | afterBackslash
  /-- Inside brackets, with the members read so far. -/
  | bracket (members : List UInt8)
  /-- After an opening bracket inside brackets. -/
  | bracketOpen (members : List UInt8)
  /-- Inside the name of a class, read so far in reverse. -/
  | className (members name : List UInt8)
  /-- After the colon that ends the name of a class. -/
  | classEnd (members name : List UInt8)

/-- The token of a byte outside brackets that stands for itself or for one operator. -/
def plainToken (b : UInt8) : Token :=
  if b = 40 then .openGroup
  else if b = 41 then .closeGroup
  else if b = 124 then .bar
  else if b = 94 then .atStart
  else if b = 36 then .atEnd
  else if b = 46 then .atom (.noneOf [Bytes.newline])
  else .atom (.only b)

/-- The token of a byte after a backslash. -/
def escapedToken (b : UInt8) : Token :=
  if 49 ≤ b ∧ b ≤ 57 then .back (b.toNat - 48) else .atom (.only b)

/-- Reads a pattern from a place on; `acc` holds the tokens so far in reverse. -/
def tokensFrom : Place → (acc : List Token) → List UInt8 → Except Fault (List Token)
  | .outside, acc, [] => .ok acc.reverse
  | .afterBackslash, _, [] => .error .trailingBackslash
  | .bracket _, _, [] => .error .unmatchedBracket
  | .bracketOpen _, _, [] => .error .unmatchedBracket
  | .className _ _, _, [] => .error .unmatchedBracket
  | .classEnd _ _, _, [] => .error .unmatchedBracket
  | .outside, acc, b :: rest =>
    if b = 92 then tokensFrom .afterBackslash acc rest
    else if b = 91 then tokensFrom (.bracket []) acc rest
    else if b = 42 then
      match acc with
      | .atom c :: before => tokensFrom .outside (.repeated c :: before) rest
      | _ => .error .misplacedRepetition
    else if b = 43 ∨ b = 63 ∨ b = 123 then .error .misplacedRepetition
    else tokensFrom .outside (plainToken b :: acc) rest
  | .afterBackslash, acc, b :: rest => tokensFrom .outside (escapedToken b :: acc) rest
  | .bracket members, acc, b :: rest =>
    if b = 93 ∧ members ≠ [] then tokensFrom .outside (.atom (.oneOf members) :: acc) rest
    else if b = 91 then tokensFrom (.bracketOpen members) acc rest
    else tokensFrom (.bracket (members ++ [b])) acc rest
  | .bracketOpen members, acc, b :: rest =>
    if b = 58 then tokensFrom (.className members []) acc rest
    else if b = 93 then tokensFrom .outside (.atom (.oneOf (members ++ [91])) :: acc) rest
    else tokensFrom (.bracket (members ++ [91, b])) acc rest
  | .className members name, acc, b :: rest =>
    if b = 58 then tokensFrom (.classEnd members name) acc rest
    else tokensFrom (.className members (b :: name)) acc rest
  | .classEnd members name, acc, b :: rest =>
    if b = 93 then
      match namedClass? name.reverse with
      | some bs => tokensFrom (.bracket (members ++ bs)) acc rest
      | none => .error .unknownClass
    else tokensFrom (.className members (b :: 58 :: name)) acc rest

/-- The tokens of a pattern of one line. -/
def tokens (pattern : List UInt8) : Except Fault (List Token) :=
  tokensFrom .outside [] pattern

/-- A group that is being read: its number, its alternatives before the last bar, and the parts of the
sequence after it, the last one first. -/
structure Frame where
  number : Nat
  before : Option (Regex UInt8)
  current : List (Regex UInt8)

namespace Frame

def push (f : Frame) (r : Regex UInt8) : Frame :=
  { f with current := r :: f.current }

/-- The sequence of parts, the last one of which comes first. -/
def sequence : List (Regex UInt8) → Regex UInt8
  | [] => .empty
  | r :: before => before.foldl (fun s r => .seq r s) r

/-- All that was read of the group. -/
def whole (f : Frame) : Regex UInt8 :=
  match f.before with
  | none => sequence f.current
  | some r => .alt r (sequence f.current)

end Frame

/-- The groups being read, the innermost apart, with the numbers of the groups that are closed. -/
structure Builder where
  opened : Nat
  closed : List Nat
  outer : List Frame
  inner : Frame

namespace Builder

def init : Builder :=
  ⟨0, [], [], ⟨0, none, []⟩⟩

def push (b : Builder) (r : Regex UInt8) : Builder :=
  { b with inner := b.inner.push r }

/-- Takes in one token. A closing parenthesis without partner stands for itself, and a reference is
valid once its group is closed. -/
def step (b : Builder) : Token → Except Fault Builder
  | .atom c => .ok (b.push (.one c))
  | .repeated c => .ok (b.push (.many c))
  | .atStart => .ok (b.push .atStart)
  | .atEnd => .ok (b.push .atEnd)
  | .bar => .ok { b with inner := ⟨b.inner.number, some b.inner.whole, []⟩ }
  | .openGroup =>
    .ok { b with
      opened := b.opened + 1
      outer := b.inner :: b.outer
      inner := ⟨b.opened + 1, none, []⟩ }
  | .closeGroup =>
    match b.outer with
    | [] => .ok (b.push (.one (.only 41)))
    | f :: outer =>
      .ok { b with
        closed := b.inner.number :: b.closed
        outer := outer
        inner := f.push (.group b.inner.number b.inner.whole) }
  | .back n => if n ∈ b.closed then .ok (b.push (.back n)) else .error .invalidBackReference

/-- Takes in the tokens that are left and gives the expression. -/
def finish (b : Builder) : List Token → Except Fault (Regex UInt8)
  | [] => if b.outer.isEmpty then .ok b.inner.whole else .error .unmatchedOpen
  | t :: rest =>
    match b.step t with
    | .ok b => b.finish rest
    | .error e => .error e

end Builder

/-- The expression of a pattern of one line. -/
def parseLine (pattern : List UInt8) : Except Fault (Regex UInt8) :=
  match tokens pattern with
  | .ok ts => Builder.init.finish ts
  | .error e => .error e

/-- The lines of a pattern; there is always one. -/
def patternLines (pattern : List UInt8) : List (List UInt8) :=
  pattern.splitOn Bytes.newline

/-- The expressions of a pattern, or the faults of its lines. -/
def parse (pattern : List UInt8) : Except (List Fault) (List (Regex UInt8)) :=
  let results := (patternLines pattern).map parseLine
  let faults := results.filterMap fun r => match r with
    | .error e => some e
    | .ok _ => none
  if faults.isEmpty then
    .ok (results.filterMap fun r => match r with
      | .ok x => some x
      | .error _ => none)
  else .error faults

end AddonAtlas.Extended

namespace AddonAtlas.Bytes

/-- A span as a word. -/
def word (b : Bytes) : Word UInt8 :=
  ⟨b.size, b.get?⟩

end AddonAtlas.Bytes
