import AddonAtlas.Regex.Basic
import AddonAtlas.Shell.Arithmetic

/-!
# Regular expressions of text tools

Expressions over the characters of bytes, and where they match. `reach` follows all ways of an expression
at once, from a set of places to the set of places where they end; it knows nothing of what groups took.
`ends` goes through the ways one by one, and knows it. Of the ways in which an expression matches at a place
the longest one counts.
-/

namespace AddonAtlas.Shell

inductive Expression
  | empty
  /-- A character in, or not in, one of some ranges. -/
  | member (isInverted : Bool) (ranges : List (Char × Char))
  | start
  | finish
  /-- The start of the text, or of a line in it. -/
  | lineStart
  /-- The end of the text, or of a line in it. -/
  | lineFinish
  /-- The place between a character of a word and one that is none; at the start or the end of a word, or at
  both. -/
  | wordEdge (atStart atEnd : Bool)
  /-- A place that is neither the start nor the end of a word. -/
  | noWordEdge
  | seq (first second : Expression)
  | alt (first second : Expression)
  | repeated (least : Nat) (most : Option Nat) (body : Expression)
  | group (number : Nat) (body : Expression)
  | back (number : Nat)

namespace Expression

/-- A text in which an expression is looked for, with access by index. -/
abbrev Subject := AddonAtlas.Word Char

/-- A list of characters as such a text. -/
def subject (cs : List Char) : Subject :=
  AddonAtlas.Word.ofArray cs.toArray

def isWordPart (c : Char) : Bool :=
  isNamePart c

def only (c : Char) : Expression :=
  member false [(c, c)]

/-- The ranges of a class of characters, which are told by their numbers. -/
def rangesOf (p : Nat → Bool) : List (Char × Char) :=
  ((List.range 256).filter p).foldr (fun n found =>
    match found with
    | (low, high) :: rest =>
      if low.toNat = n + 1 then (Char.ofNat n, high) :: rest else (Char.ofNat n, Char.ofNat n) :: found
    | [] => [(Char.ofNat n, Char.ofNat n)]) []

/-- Whether a character is in one of some ranges. -/
def isWithin (ranges : List (Char × Char)) (c : Char) : Bool :=
  ranges.any fun r => r.1 ≤ c && c ≤ r.2

/-- The expression for a text that stands for itself. -/
def literal (cs : List Char) : Expression :=
  cs.foldl (fun e c => seq e (only c)) empty

/-- The expression that does not tell small letters from capital ones. -/
def ignoringCase : Expression → Expression
  | member isInverted ranges =>
    member isInverted (rangesOf fun n =>
      let c := Char.ofNat n
      isWithin ranges c || isWithin ranges c.toUpper || isWithin ranges c.toLower)
  | seq e f => seq e.ignoringCase f.ignoringCase
  | alt e f => alt e.ignoringCase f.ignoringCase
  | repeated low high e => repeated low high e.ignoringCase
  | group n e => group n e.ignoringCase
  | e => e

/-- Whether an expression refers to what a group took. -/
def hasReference : Expression → Bool
  | back _ => true
  | seq e f | alt e f => e.hasReference || f.hasReference
  | repeated _ _ e | group _ e => e.hasReference
  | _ => false

/-- The greatest number of a group. -/
def groupCount : Expression → Nat
  | group n e => max n e.groupCount
  | seq e f | alt e f => max e.groupCount f.groupCount
  | repeated _ _ e => e.groupCount
  | _ => 0

/-! ## Places -/

/-- Whether an expression that takes nothing matches at a place. -/
def holdsAt (s : Subject) (e : Expression) (i : Nat) : Bool :=
  let before := i ≠ 0 && (s.get? (i - 1)).any isWordPart
  let behind := (s.get? i).any isWordPart
  match e with
  | empty => true
  | start => i = 0
  | finish => i = s.size
  | lineStart => i = 0 || s.get? (i - 1) == some '\n'
  | lineFinish => i = s.size || s.get? i == some '\n'
  | wordEdge atStart atEnd => (atStart && behind && !before) || (atEnd && before && !behind)
  | noWordEdge => before == behind
  | _ => false

/-! ## All ways at once -/

/-- The places of two sets, each in ascending order. -/
def union : List Nat → List Nat → List Nat
  | [], places => places
  | places, [] => places
  | i :: is, j :: js =>
    if i < j then i :: union is (j :: js)
    else if j < i then j :: union (i :: is) js
    else i :: union is js

/-- The places of the first set that are not in the second one. -/
def without : List Nat → List Nat → List Nat
  | [], _ => []
  | is, [] => is
  | i :: is, j :: js =>
    if i < j then i :: without is (j :: js)
    else if j < i then without (i :: is) js
    else without is js

/-- What is reached from some places by a step that is taken as often as one likes. `frontier` was reached
last. -/
def closure (step : List Nat → List Nat) : (fuel : Nat) → (frontier found : List Nat) → List Nat
  | 0, _, found => found
  | fuel + 1, frontier, found =>
    match without (step frontier) found with
    | [] => found
    | next => closure step fuel next (union next found)

/-- What is reached by a step that is taken at most so many times. -/
def upTo (step : List Nat → List Nat) : (times : Nat) → List Nat → List Nat
  | 0, places => places
  | n + 1, places =>
    match places with
    | [] => []
    | _ => union places (upTo step n (step places))

/-- What is reached by a step that is taken so many times. -/
def times (step : List Nat → List Nat) : (count : Nat) → List Nat → List Nat
  | 0, places => places
  | n + 1, places =>
    match places with
    | [] => []
    | _ => times step n (step places)

/-- The places up to the first one, from `i` on, with a character that is not accepted, and those from
`places` on. -/
def runsFrom (s : Subject) (accepts : Char → Bool) : (fuel : Nat) → (i : Nat) → (places : List Nat) → List Nat
  | 0, i, places => union [i] places
  | fuel + 1, i, places =>
    let places := places.dropWhile fun j => j ≤ i
    if (s.get? i).any accepts then i :: runsFrom s accepts fuel (i + 1) places
    else
      match places with
      | [] => [i]
      | j :: rest => i :: runsFrom s accepts fuel j rest

/-- The places where the ways of an expression end that begin at some places. -/
def reach (s : Subject) : Expression → List Nat → List Nat
  | member isInverted ranges, places =>
    places.filterMap fun i =>
      if (s.get? i).any fun c => isWithin ranges c != isInverted then some (i + 1) else none
  | seq e f, places =>
    match reach s e places with
    | [] => []
    | places => reach s f places
  | alt e f, places => union (reach s e places) (reach s f places)
  | repeated low high e, places =>
    let places := times (reach s e) low places
    match high with
    | some n => upTo (reach s e) (n - low) places
    | none =>
      match e, places with
      | _, [] => []
      | member isInverted ranges, i :: rest =>
        runsFrom s (fun c => isWithin ranges c != isInverted) (s.size + 1) i rest
      | _, places => closure (reach s e) (s.size + 1) places places
  | group _ e, places => reach s e places
  | back _, _ => []
  | e, places => places.filter (holdsAt s e)

/-! ## One way after the other -/

/-- What groups took: number, start and end, the latest first. -/
abbrev Groups := List (Nat × Nat × Nat)

def find? (groups : Groups) (n : Nat) : Option (Nat × Nat) :=
  (groups.find? fun g => g.1 = n).map (·.2)

/-- The ends of all ways in which an expression matches from an index on, with what the groups took. -/
def ends (s : Subject) : (fuel : Nat) → Expression → Nat → Groups → List (Nat × Groups)
  | 0, _, _, _ => []
  | fuel + 1, e, i, groups =>
    match e with
    | member isInverted ranges =>
      if (s.get? i).any fun c => isWithin ranges c != isInverted then [(i + 1, groups)] else []
    | seq e f => (ends s fuel e i groups).flatMap fun (j, groups) => ends s fuel f j groups
    | alt e f => ends s fuel e i groups ++ ends s fuel f i groups
    | repeated low high e =>
      let stay := if low = 0 then [(i, groups)] else []
      if high = some 0 then stay
      else
        let longer := (ends s fuel e i groups).flatMap fun (j, groups) =>
          if j = i ∧ low = 0 then []
          else ends s fuel (repeated (low - 1) (high.map (· - 1)) e) j groups
        longer ++ stay
    | group n e => (ends s fuel e i groups).map fun (j, groups) => (j, (n, i, j) :: groups)
    | back n =>
      match find? groups n with
      | none => []
      | some (a, b) =>
        if (List.range (b - a)).all fun d => s.get? (a + d) == s.get? (i + d) && (s.get? (i + d)).isSome then
          [(i + (b - a), groups)]
        else []
    | e => if holdsAt s e i then [(i, groups)] else []

/-- The number of expressions that an expression is made of. -/
def nodes : Expression → Nat
  | seq e f | alt e f => e.nodes + f.nodes + 1
  | repeated _ _ e | group _ e => e.nodes + 1
  | _ => 1

/-- A bound for the length of all ways of an expression. -/
def bound (e : Expression) (s : Subject) : Nat :=
  (s.size + 2) * (e.nodes + 1)

/-- The longest match from an index on, with what the groups took. -/
def matchAt? (e : Expression) (s : Subject) (i : Nat) : Option (Nat × Groups) :=
  if !e.hasReference && (e.reach s [i]).isEmpty then none
  else
    (ends s (e.bound s) e i []).foldl (fun best m =>
      match best with
      | some (j, _) => if j < m.1 then some m else best
      | none => some m) none

/-- The first match from an index on: its start, its end, and what the groups took. -/
def search? (e : Expression) (s : Subject) (i : Nat) : Option (Nat × Nat × Groups) :=
  (List.range (s.size + 1 - i)).findSome? fun d =>
    (e.matchAt? s (i + d)).map fun (j, groups) => (i + d, j, groups)

/-! ## Matches -/

/-- The ends of the matches from an index on, in ascending order. -/
def endsAt (e : Expression) (s : Subject) (i : Nat) : List Nat :=
  if e.hasReference then (ends s (e.bound s) e i []).foldl (fun found m => union [m.1] found) []
  else e.reach s [i]

/-- Whether an expression matches some part of a text. -/
def isIn (e : Expression) (s : Subject) : Bool :=
  let places := List.range (s.size + 1)
  if e.hasReference then places.any fun i => !(ends s (e.bound s) e i []).isEmpty
  else !(e.reach s places).isEmpty

end Expression

end AddonAtlas.Shell
