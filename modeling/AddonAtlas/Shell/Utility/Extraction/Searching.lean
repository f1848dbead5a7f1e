import AddonAtlas.Shell.Utility.Extraction.Files

/-!
# Searching and changing texts

Expressions are looked for in texts, once or over and over; what is found can be replaced, or divide the text.
Behind a match that took nothing the search goes on one character further.
-/

namespace AddonAtlas.Shell

namespace Utility

open Shell.Action

namespace Extraction

open AddonAtlas.Shell.Extraction

/-- The expression of a text, with letters that say how it is meant. -/
def expressionFor (t : Task) (source : String) (flags : List Char) : Running RichExpression := do
  let letters := flags.filter fun c => ['i', 'm', 's', 'x', 'n'].contains c
  let text := (if letters.isEmpty then "" else "(?" ++ String.ofList letters ++ ")") ++ source
  match (← get).expressions[text]? with
  | some e => return e
  | none =>
    match RichExpression.parse {} text.toList with
    | .ok e =>
      modify fun s => { s with expressions := s.expressions.insert text e }
      return e
    | .error fault =>
      let reason :=
        match fault with
        | .openGroup => "Unmatched ("
        | .closedTwice => "Unmatched )"
        | .openBracket => "Unmatched ["
        | .nothingToRepeat => "Quantifier follows nothing"
        | _ => "Invalid expression"
      fail t (reason ++ " in regex; marked by <-- HERE in m/" ++ source ++ " <-- HERE /")

/-- The number of groups of an expression. -/
def groupCount (e : RichExpression) : Nat :=
  (e.groups.map (·.1)).foldl max 0

/-- The first match in a text from a place on. -/
def search (e : RichExpression) (text : Array Char) (i : Nat) : Option Found :=
  (e.search? ⟨text.size, fun i => text[i]?⟩ i).map fun (a, b, groups) =>
    let count := groupCount e
    let found := (List.range count).filterMap fun n =>
      (Expression.find? groups (n + 1)).map fun (x, y) => (n + 1, x, y)
    ⟨text, a, b, found, e.names, count⟩

/-- What the groups of a match took. -/
def groupValues (f : Found) : List Value :=
  (List.range f.count).map fun n =>
    match f.groups.find? fun g => g.1 = n + 1 with
    | some (_, i, j) => foundPart f i j
    | none => .nothing

/-- The matches in a text that follow each other, from a place on. -/
def allMatches (e : RichExpression) (text : Array Char) : (fuel : Nat) → (i : Nat) → List Found
  | 0, _ => []
  | fuel + 1, i =>
    if text.size < i then []
    else
      match search e text i with
      | none => []
      | some f => f :: allMatches e text fuel (if f.finish = f.start then f.finish + 1 else f.finish)

def matches_ (e : RichExpression) (text : Array Char) (i : Nat) : List Found :=
  allMatches e text (text.size + 2) i

/-- A text with its matches replaced by what is made of each. -/
def replaced (text : Array Char) (make : Found → Running String) : (place : Nat) → (done : List String) →
    List Found → Running String
  | place, done, [] =>
    return String.join (String.ofList (text.extract place text.size).toList :: done).reverse
  | place, done, f :: rest => do
    modify fun s => { s with found := some f }
    let new ← make f
    replaced text make f.finish (new :: String.ofList (text.extract place f.start).toList :: done) rest

/-- The parts of a text between the matches of an expression, with what groups took between them. No more than
`limit` parts are made if it is not zero. -/
def dividedAt (e : RichExpression) (text : Array Char) (limit : Nat) : (fuel : Nat) → (place i count : Nat) → List Value
  | 0, _, _, _ => []
  | fuel + 1, place, i, count =>
    let last : List Value := [.text (String.ofList (text.extract place text.size).toList)]
    if limit ≠ 0 && limit ≤ count + 1 then last
    else
      match if i ≤ text.size then search e text i else none with
      | none => last
      | some f =>
        if f.finish = f.start && (text.size ≤ f.start || f.start = place) then
          if text.size ≤ f.start then last
          else dividedAt e text limit fuel place (i + 1) count
        else if f.finish = 0 then dividedAt e text limit fuel place (i + 1) count
        else
          .text (String.ofList (text.extract place f.start).toList) :: groupValues f ++
            dividedAt e text limit fuel f.finish f.finish (count + 1)

/-- The parts of a text without empty ones at the end, unless a limit is given. -/
def divided (e : RichExpression) (text : String) (limit : Int) : List Value :=
  let cs := text.toList.toArray
  if cs.isEmpty then []
  else
    let parts := dividedAt e cs (if limit < 0 then 0 else limit.toNat) (2 * cs.size + 4) 0 0 0
    if limit ≠ 0 then parts
    else (parts.reverse.dropWhile fun v => v.toText.isEmpty).reverse

/-- The words of a text. -/
def words (text : String) (limit : Int) : List Value :=
  let cs := text.toList.dropWhile Arithmetic.isSpace
  if cs.isEmpty then []
  else
    let parts := go (if limit < 0 then 0 else limit.toNat) (cs.length + 1) 0 cs
    let parts := parts.map fun cs => Value.text (String.ofList cs)
    if limit ≠ 0 then parts
    else (parts.reverse.dropWhile fun v => v.toText.isEmpty).reverse
where
  /-- The words from here on, the last one with all that is left. -/
  go (limit : Nat) : (fuel : Nat) → (count : Nat) → List Char → List (List Char)
    | 0, _, cs => [cs]
    | fuel + 1, count, cs =>
      if limit ≠ 0 && limit ≤ count + 1 then [cs]
      else
        let w := cs.takeWhile fun c => !Arithmetic.isSpace c
        let behind := cs.drop w.length
        if behind.isEmpty then [w]
        else w :: go limit fuel (count + 1) (behind.dropWhile Arithmetic.isSpace)

/-- A text with characters replaced by others, and how many there were. -/
def transliterated (sources targets flags cs : List Char) : List Char × Nat :=
  let isOpposite := flags.contains 'c'
  let deletes := flags.contains 'd'
  let squeezes := flags.contains 's'
  let targets := if targets.isEmpty && !deletes then (if isOpposite then [] else sources) else targets
  let image (c : Char) : Option (Option Char) :=
    if isOpposite then
      if sources.contains c then none
      else if deletes then some none
      else some (some (targets.getLast?.getD c))
    else
      match sources.idxOf? c with
      | none => none
      | some i =>
        match targets[i]? with
        | some d => some (some d)
        | none => if deletes then some none else some (some (targets.getLast?.getD c))
  let (out, _, count) := cs.foldl (fun (out, last, count) c =>
    match image c with
    | none => (c :: out, none, count)
    | some none => (out, last, count + 1)
    | some (some d) => if squeezes && last = some d then (out, last, count + 1) else (d :: out, some d, count + 1))
      (([] : List Char), (none : Option Char), 0)
  (out.reverse, count)

end Extraction

end Utility

end AddonAtlas.Shell
