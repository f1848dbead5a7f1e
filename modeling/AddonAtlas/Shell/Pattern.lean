import AddonAtlas.Shell.Syntax

/-!
# Patterns

A pattern matches whole texts: a star matches any text, a question mark any character, brackets one of
several characters, and a backslash makes the next character stand for itself. Brackets that are never
closed stand for themselves.

In the wide dialect brackets may be inverted by a circumflex, and a pattern may have groups of alternatives, each
with a sign in front that tells how many of them match a part of a text.
-/

namespace AddonAtlas.Shell

namespace Pattern

/-- The classes of characters by their names. -/
def classes : List (String × (Nat → Bool)) :=
  let lower (n : Nat) : Bool := 97 ≤ n && n ≤ 122
  let upper (n : Nat) : Bool := 65 ≤ n && n ≤ 90
  let digit (n : Nat) : Bool := 48 ≤ n && n ≤ 57
  let graph (n : Nat) : Bool := 33 ≤ n && n ≤ 126
  let alnum (n : Nat) : Bool := lower n || upper n || digit n
  [("alnum", alnum), ("cntrl", fun n => n < 32 || n == 127), ("lower", lower),
    ("space", fun n => n == 32 || (9 ≤ n && n ≤ 13)), ("alpha", fun n => lower n || upper n),
    ("digit", digit), ("print", fun n => 32 ≤ n && n ≤ 126), ("upper", upper),
    ("blank", fun n => n == 32 || n == 9), ("graph", graph),
    ("punct", fun n => graph n && !alnum n),
    ("xdigit", fun n => digit n || (65 ≤ n && n ≤ 70) || (97 ≤ n && n ≤ 102))]

/-- A class in brackets of its own, behind the first of these: whether the character is in it, and what
follows. -/
def class? (c : Char) (pattern : List Char) : Option (Bool × List Char) :=
  classes.findSome? fun (name, holds) =>
    let written := (":" ++ name ++ ":]").toList
    if written.isPrefixOf pattern then some (holds c.toNat, pattern.drop written.length) else none

/-- Whether a character is one of those in brackets, and what follows the brackets; nothing if they are
not closed. `found` tells of the members before, `first` that a bracket would be a member. -/
def member? (c : Char) : (fuel : Nat) → (found first : Bool) → List Char → Option (Bool × List Char)
  | 0, _, _, _ => none
  | _ + 1, _, _, [] => none
  | fuel + 1, found, first, x :: rest =>
    if x = ']' ∧ ¬ first then some (found, rest)
    else
      match if x = '[' then class? c rest else none with
      | some (holds, rest) => member? c fuel (found || holds) false rest
      | none =>
        match if x = '\\' then rest else x :: rest with
        | [] => none
        | low :: '-' :: high :: rest =>
          if high = ']' then member? c fuel (found || c == low) false ('-' :: ']' :: rest)
          else
            match if high = '\\' then rest else high :: rest with
            | [] => none
            | high :: rest => member? c fuel (found || (low ≤ c && c ≤ high)) false rest
        | low :: rest => member? c fuel (found || c == low) false rest

/-- Whether a pattern matches a text; each step takes something from the pattern. -/
def matchesWithin : (fuel : Nat) → (pattern text : List Char) → Bool
  | 0, _, _ => false
  | _ + 1, [], text => text.isEmpty
  | fuel + 1, p :: pattern, text =>
    let one (c : Char) (pattern : List Char) : Bool :=
      match text with
      | x :: text => x == c && matchesWithin fuel pattern text
      | [] => false
    match p with
    | '*' => (List.range (text.length + 1)).any fun n => matchesWithin fuel pattern (text.drop n)
    | '?' =>
      match text with
      | _ :: text => matchesWithin fuel pattern text
      | [] => false
    | '\\' =>
      match pattern with
      | c :: pattern => one c pattern
      | [] => one '\\' []
    | '[' =>
      match text with
      | [] => false
      | x :: text =>
        let (inverted, members) :=
          match pattern with
          | '!' :: members => (true, members)
          | members => (false, members)
        match member? x (members.length + 1) false true members with
        | some (found, pattern) => found != inverted && matchesWithin fuel pattern text
        | none => one '[' pattern
    | c => one c pattern

/-- Whether a pattern matches a whole text. -/
def isMatch (pattern text : List Char) : Bool :=
  matchesWithin (pattern.length + 1) pattern text

/-- Whether any character of a pattern means more than itself. -/
def isProper (pattern : List Char) : Bool :=
  go pattern
where
  /-- Skips escaped characters. -/
  go : List Char → Bool
    | [] => false
    | '\\' :: _ :: rest => go rest
    | c :: rest => c == '*' || c == '?' || c == '[' || go rest

/-! ## The wide dialect -/

/-- The alternatives of a group, and what follows its closing parenthesis. `current` is the alternative that is
being read, the last character first. -/
def alternatives? : (depth : Nat) → (current : List Char) → List Char → Option (List (List Char) × List Char)
  | _, _, [] => none
  | depth, current, '\\' :: c :: rest => alternatives? depth (c :: '\\' :: current) rest
  | depth, current, c :: rest =>
    if c = ')' && depth = 0 then some ([current.reverse], rest)
    else if c = '|' && depth = 0 then
      (alternatives? depth [] rest).map fun (others, after) => (current.reverse :: others, after)
    else
      let depth := if c = '(' then depth + 1 else if c = ')' then depth - 1 else depth
      alternatives? depth (c :: current) rest

/-- Whether a pattern matches a text, in which letters may count as equal; `hasGroups` says whether it may have
groups. -/
def matchesWide (hasGroups ignoresCase : Bool) : (fuel : Nat) → (pattern text : List Char) → Bool
  | 0, _, _ => false
  | _ + 1, [], text => text.isEmpty
  | fuel + 1, p :: pattern, text =>
    let again := matchesWide hasGroups ignoresCase fuel
    let same (c d : Char) : Bool := if ignoresCase then c.toLower == d.toLower else c == d
    let one (c : Char) (pattern : List Char) : Bool :=
      match text with
      | x :: text => same x c && again pattern text
      | [] => false
    let group? :=
      match pattern with
      | '(' :: inner => if hasGroups && "?*+@!".toList.contains p then alternatives? 0 [] inner else none
      | _ => none
    match group? with
    | some (parts, rest) =>
      let cuts := List.range (text.length + 1)
      let isPart (s : List Char) : Bool := parts.any fun part => again part s
      match p with
      | '@' => cuts.any fun n => isPart (text.take n) && again rest (text.drop n)
      | '?' => again rest text || cuts.any fun n => isPart (text.take n) && again rest (text.drop n)
      | '!' => cuts.any fun n => !isPart (text.take n) && again rest (text.drop n)
      | _ =>
        let more := '*' :: pattern
        (p = '*' && again rest text) ||
          cuts.any fun n => (n ≠ 0 || p = '+') && isPart (text.take n) && again more (text.drop n)
    | none =>
      match p with
      | '*' => (List.range (text.length + 1)).any fun n => again pattern (text.drop n)
      | '?' =>
        match text with
        | _ :: text => again pattern text
        | [] => false
      | '\\' =>
        match pattern with
        | c :: pattern => one c pattern
        | [] => one '\\' []
      | '[' =>
        match text with
        | [] => false
        | x :: text =>
          let (inverted, members) :=
            match pattern with
            | '!' :: members | '^' :: members => (true, members)
            | members => (false, members)
          let isMember (x : Char) := member? x (members.length + 1) false true members
          match isMember x with
          | some (found, pattern) =>
            let found := found || (ignoresCase && [x.toLower, x.toUpper].any fun y => (isMember y).any (·.1))
            found != inverted && again pattern text
          | none => one '[' pattern
      | c => one c pattern

/-- Whether a pattern of a dialect matches a whole text. -/
def isMatchIn (d : Dialect) (hasGroups ignoresCase : Bool) (pattern text : List Char) : Bool :=
  match d with
  | .plain => isMatch pattern text
  | .wide => matchesWide hasGroups ignoresCase (pattern.length + text.length + 2) pattern text

/-- Whether a pattern of the wide dialect has a group. -/
def hasGroup : List Char → Bool
  | '\\' :: _ :: rest => hasGroup rest
  | c :: '(' :: rest => "?*+@!".toList.contains c || hasGroup ('(' :: rest)
  | _ :: rest => hasGroup rest
  | [] => false

end Pattern

end AddonAtlas.Shell
