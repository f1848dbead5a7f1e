import AddonAtlas.Bytes
import AddonAtlas.Shell.Expression.Reading
import AddonAtlas.Shell.RichExpression.Reading
import AddonAtlas.Shell.Search.Settings

/-!
# Matches of a search

The patterns of a search are joined into one expression. Whether a line has a match, and where, depends on
whether matches have to be whole words or whole lines.
-/

namespace AddonAtlas.Shell.Search

/-- A pattern, and the line of the file it comes from, if it comes from one. -/
structure Pattern where
  text : List Char
  origin : Option (String × Nat)

/-- The patterns that are written in the lines of a text. -/
def Pattern.ofLines (file : Option String) (text : String) : List Pattern :=
  (text.toList.splitOn '\n').zipIdx 1 |>.map fun (line, n) => ⟨line, file.map fun f => (f, n)⟩

/-- An expression of either kind. -/
inductive Sought
  | plain (e : Expression)
  | rich (e : RichExpression)

/-- What is searched for. -/
structure Target where
  sought : Sought
  /-- What is to be said about the patterns. -/
  warnings : List String
  ignoresCase : Bool
  wholeWords : Bool
  wholeLines : Bool

namespace Target

/-- The expression of a pattern that is not of the rich notation. -/
def expressionOf (m : Matcher) (text : List Char) : Except Expression.Fault Expression :=
  match m with
  | .fixed => .ok (Expression.literal text)
  | .extended => Expression.parse (Expression.searching true) text
  | _ => Expression.parse (Expression.searching false) text

/-- The target for a pattern of the rich notation. -/
def ofRich (s : Settings) (text : List Char) : Except RichExpression.Fault Target := do
  let e ← RichExpression.parse { ignoresCase := s.ignoresCase }
    (if s.wholeWords then RichExpression.asWords text else text)
  return ⟨.rich (if s.wholeLines then e.asLine else e), [], false, false, false⟩

/-- What is to be said about a pattern. -/
def warningsOf (m : Matcher) (text : List Char) : List String :=
  match m with
  | .extended =>
    (Expression.idleSigns (Expression.searching true) (text.length + 1) true text).map fun sign =>
      sign ++ " at start of expression"
  | _ => []

/-- What the settings and patterns say to search for; or what is wrong with the patterns. -/
def ofPatterns (s : Settings) (patterns : List Pattern) : Except (List String) Target :=
  let distinct := patterns.foldl (fun found p =>
    if found.any fun q => q.text = p.text then found else found ++ [p]) ([] : List Pattern)
  let results := distinct.map fun p => (p, expressionOf (s.matcher.getD .basic) p.text)
  let faults := results.filterMap fun (p, result) => match result with
    | .error f =>
      let place := match p.origin with
        | some (file, n) => file ++ ":" ++ toString n ++ ": "
        | none => ""
      some (place ++ f.message)
    | .ok _ => none
  let expressions := results.filterMap fun (_, result) => result.toOption
  let joined := match expressions with
    | [] => Expression.empty
    | e :: others => others.foldl Expression.alt e
  if s.matcher = some .rich then
    match patterns with
    | [p] => (ofRich s p.text).mapError fun f => [f.message]
    | _ => .error ["the -P option only supports a single pattern"]
  else if faults.isEmpty then
    .ok
      { sought := .plain (if s.ignoresCase then joined.ignoringCase else joined)
        warnings := distinct.flatMap fun p => warningsOf (s.matcher.getD .basic) p.text
        ignoresCase := s.ignoresCase
        wholeWords := s.wholeWords
        wholeLines := s.wholeLines }
  else .error faults

/-- A line as the text in which matches are looked for. -/
def subject (t : Target) (line : Bytes) : Expression.Subject :=
  if t.ignoresCase then ⟨line.size, fun i => (line.get? i).map fun b => (Char.ofNat b.toNat).toLower⟩
  else ⟨line.size, fun i => (line.get? i).map fun b => Char.ofNat b.toNat⟩

/-- Whether no character of a word stands in front of a place. -/
def isClearBefore (s : Expression.Subject) (i : Nat) : Bool :=
  i = 0 || !(s.get? (i - 1)).any Expression.isWordPart

/-- Whether no character of a word stands behind a place. -/
def isClearBehind (s : Expression.Subject) (i : Nat) : Bool :=
  !(s.get? i).any Expression.isWordPart

/-- Whether a line has a match. -/
def isIn (t : Target) (s : Expression.Subject) : Bool :=
  match t.sought with
  | .rich e => (e.search? s 0).isSome
  | .plain e =>
    if t.wholeLines then (e.endsAt s 0).contains s.size
    else if t.wholeWords then
      let starts := (List.range (s.size + 1)).filter (isClearBefore s)
      if e.hasReference then starts.any fun i => (e.endsAt s i).any (isClearBehind s)
      else (e.reach s starts).any (isClearBehind s)
    else e.isIn s

/-- The end of the match of an expression that begins at a place. -/
def endAt? (t : Target) (e : Expression) (s : Expression.Subject) (i : Nat) : Option Nat :=
  let ends := e.endsAt s i
  if t.wholeLines then (if i = 0 && ends.contains s.size then some s.size else none)
  else if t.wholeWords then
    if isClearBefore s i then
      match ends.getLast? with
      | some j =>
        if isClearBehind s j then some j else (ends.filter fun j => i < j && isClearBehind s j).getLast?
      | none => none
    else none
  else ends.getLast?

/-- The first match from a place on: its start and its end. -/
def find? (t : Target) (s : Expression.Subject) (i : Nat) : Option (Nat × Nat) :=
  match t.sought with
  | .rich e => (e.search? s i).map fun (a, b, _) => (a, b)
  | .plain e => (List.range (s.size + 1 - i)).findSome? fun d => (t.endAt? e s (i + d)).map fun j => (i + d, j)

/-- The matches of a line that are not empty, from a place on. -/
def partsFrom (t : Target) (s : Expression.Subject) : (fuel : Nat) → (i : Nat) → List (Nat × Nat)
  | 0, _ => []
  | fuel + 1, i =>
    match t.find? s i with
    | none => []
    | some (a, b) =>
      if a < b then (a, b) :: partsFrom t s fuel b
      else if a < s.size then partsFrom t s fuel (a + 1)
      else []

/-- The matches of a line that are not empty. -/
def parts (t : Target) (s : Expression.Subject) : List (Nat × Nat) :=
  t.partsFrom s (s.size + 2) 0

end Target

end AddonAtlas.Shell.Search
