import AddonAtlas.Shell.Expression

/-!
# Expressions that are tried one way after the other

The rich notation of expressions has conditions on what stands around a place, repetitions that take as much
or as little as they can or give nothing back, and parts that stand for other parts. Of the ways in which
such an expression matches at a place the first one counts, in the order in which they are written. `run`
hands each way's end to what is to match behind it, and goes on to the next way if that does not match.
-/

namespace AddonAtlas.Shell

namespace RichExpression

/-- How much a repetition takes. -/
inductive Greed
  | greedy
  | lazy
  /-- As much as it can, and nothing is given back. -/
  | possessive
deriving DecidableEq, Repr

/-- What stands for a group. -/
inductive Reference
  | number (n : Nat)
  | name (s : String)
deriving DecidableEq, Repr

/-- What one of two parts depends on. -/
inductive Condition
  | group (r : Reference)
  /-- A part stands for the whole expression, or for a group. -/
  | called (r : Option Reference)
  | always (holds : Bool)
deriving DecidableEq, Repr

inductive Part
  | empty
  /-- A character in, or not in, one of some ranges. -/
  | member (isInverted : Bool) (ranges : List (Char × Char))
  /-- A place that an expression of the plain kind tells, one that takes nothing. -/
  | place (e : Expression)
  /-- Where the search began. -/
  | origin
  /-- The match begins here, whatever was taken before. -/
  | keep
  | seq (first second : Part)
  | alt (first second : Part)
  | repeated (least : Nat) (most : Option Nat) (greed : Greed) (body : Part)
  | group (number : Nat) (body : Part)
  | back (r : Reference) (ignoresCase : Bool)
  /-- The first way of the part is the only one. -/
  | atomic (body : Part)
  /-- The part matches from here on, or does not. -/
  | look (isNegative : Bool) (body : Part)
  /-- So many characters back. -/
  | stepBack (count : Nat)
  /-- What a group is, or the whole expression. -/
  | call (r : Reference)
  | choice (condition : Condition) (yes no : Part)
  /-- A choice by what stands here. -/
  | choiceBy (condition yes no : Part)
  | fail
  /-- The match ends here. -/
  | accept
  /-- If it does not go on from here, there is no match. -/
  | commit
  /-- If it does not go on from here, no match begins where this way has begun. -/
  | prune
  /-- If it does not go on from here, no match begins before this place. -/
  | skip
  /-- If it does not go on from here, the next alternative is tried. -/
  | next

end RichExpression

/-- A whole expression, with the groups in it and their names. -/
structure RichExpression where
  body : RichExpression.Part
  groups : List (Nat × RichExpression.Part)
  names : List (String × Nat)

namespace RichExpression

open Expression (Subject Groups isWithin)

/-- The numbers that a reference may mean. -/
def numbers (e : RichExpression) : Reference → List Nat
  | .number n => [n]
  | .name s => (e.names.filter fun x => x.1 = s).map (·.2)

/-- The group that a reference stands for; zero is the whole expression. -/
def part? (e : RichExpression) (r : Reference) : Option Part :=
  (e.numbers r).findSome? fun n =>
    if n = 0 then some e.body else (e.groups.find? fun g => g.1 = n).map (·.2)

/-! ## Ways -/

/-- What has come about on a way: what groups took, where the match begins, and what parts stand for others
at the moment. -/
structure Way where
  groups : Groups
  first : Nat
  calls : List Nat

/-- How a way ends. -/
inductive Outcome
  | none
  | found (finish : Nat) (w : Way)
  | commit
  | prune
  | skip (i : Nat)
  | next

/-- What is searched for, where, and from where on. -/
structure Task where
  expression : RichExpression
  subject : Subject
  origin : Nat

/-- How far characters of a kind go on. -/
def runLength (s : Subject) (accepts : Char → Bool) : (most : Nat) → (i : Nat) → Nat
  | 0, _ => 0
  | most + 1, i => if (s.get? i).any accepts then runLength s accepts most (i + 1) + 1 else 0

/-- The first outcome that is a match or ends the search, for counts from the greatest one down to the
least. -/
def downFrom (k : Nat → Outcome) (least : Nat) : (count : Nat) → Outcome
  | 0 => k least
  | n + 1 =>
    match k (least + n + 1) with
    | .none => downFrom k least n
    | o => o

/-- The first outcome that is a match or ends the search, for counts from the least one up. -/
def upFrom (k : Nat → Outcome) : (count : Nat) → (least : Nat) → Outcome
  | 0, least => k least
  | n + 1, least =>
    match k least with
    | .none => upFrom k n (least + 1)
    | o => o

/-- What a group took, and the characters there. -/
def taken? (t : Task) (r : Reference) (w : Way) : Option (Nat × Nat) :=
  (t.expression.numbers r).findSome? fun n => Expression.find? w.groups n

/-- Whether a condition holds. -/
def Condition.holds (t : Task) (w : Way) : Condition → Bool
  | group r => (taken? t r w).isSome
  | called Option.none => !w.calls.isEmpty
  | called (some r) => (t.expression.numbers r).any fun n => w.calls.head? == some n
  | always holds => holds

/-- Whether a part is a member, and of what. -/
def Part.member? : Part → Option (Bool × List (Char × Char))
  | member isInverted ranges => some (isInverted, ranges)
  | _ => .none

/-- Goes the ways of a part from a place on, and from the end of each one as `k` says. -/
def run (t : Task) : (fuel : Nat) → Part → (i : Nat) → Way → (k : Nat → Way → Outcome) → Outcome
  | 0, _, _, _, _ => .none
  | fuel + 1, e, i, w, k =>
    let s := t.subject
    match e with
    | .empty => k i w
    | .member isInverted ranges =>
      if (s.get? i).any fun c => isWithin ranges c != isInverted then k (i + 1) w else .none
    | .place e => if Expression.holdsAt s e i then k i w else .none
    | .origin => if i = t.origin then k i w else .none
    | .keep => k i { w with first := i }
    | .seq e f => run t fuel e i w fun j w => run t fuel f j w k
    | .alt e f =>
      match run t fuel e i w k with
      | .none | .next => run t fuel f i w k
      | o => o
    | .repeated least most greed body =>
      match body.member? with
      | some (isInverted, ranges) =>
        let count := runLength s (fun c => isWithin ranges c != isInverted) (min (most.getD s.size) (s.size - i)) i
        if count < least then .none
        else
          match greed with
          | .greedy => downFrom (fun n => k (i + n) w) least (count - least)
          | .lazy => upFrom (fun n => k (i + n) w) (count - least) least
          | .possessive => k (i + count) w
      | Option.none =>
        let again (j : Nat) (w : Way) : Outcome :=
          run t fuel (.repeated (least - 1) (most.map (· - 1)) greed body) j w k
        if 0 < least then run t fuel body i w again
        else if most = some 0 then k i w
        else
          let once (_ : Unit) : Outcome :=
            run t fuel body i w fun j w => if j = i then k j w else again j w
          match greed with
          | .lazy =>
            match k i w with
            | .none => once ()
            | o => o
          | _ =>
            match once () with
            | .none => k i w
            | o => o
    | .group n body => run t fuel body i w fun j w => k j { w with groups := (n, i, j) :: w.groups }
    | .back r ignoresCase =>
      match taken? t r w with
      | Option.none => .none
      | some (a, b) =>
        let same (c d : Option Char) : Bool :=
          if ignoresCase then c.map Char.toLower == d.map Char.toLower else c == d
        if i + (b - a) ≤ s.size && (List.range (b - a)).all fun d => same (s.get? (a + d)) (s.get? (i + d)) then
          k (i + (b - a)) w
        else .none
    | .atomic body =>
      match run t fuel body i w Outcome.found with
      | .found j w => k j w
      | o => o
    | .look isNegative body =>
      match run t fuel body i w Outcome.found with
      | .found _ after => if isNegative then .none else k i { after with first := w.first }
      | .none => if isNegative then k i w else .none
      | o => if isNegative then k i w else o
    | .stepBack count => if count ≤ i then k (i - count) w else .none
    | .call r =>
      match t.expression.part? r with
      | Option.none => .none
      | some e =>
        let calls := (t.expression.numbers r).take 1 ++ w.calls
        run t fuel e i { w with calls := calls } fun j after =>
          k j { after with groups := w.groups, calls := w.calls }
    | .choice condition yes no =>
      if condition.holds t w then run t fuel yes i w k else run t fuel no i w k
    | .choiceBy condition yes no =>
      match run t fuel condition i w Outcome.found with
      | .found _ w => run t fuel yes i w k
      | _ => run t fuel no i w k
    | .fail => .none
    | .accept => .found i w
    | .commit =>
      match k i w with
      | .none => .commit
      | o => o
    | .prune =>
      match k i w with
      | .none => .prune
      | o => o
    | .skip =>
      match k i w with
      | .none => .skip i
      | o => o
    | .next =>
      match k i w with
      | .none => .next
      | o => o

/-! ## Matches -/

/-- The number of parts that a part is made of. -/
def Part.nodes : Part → Nat
  | seq e f | alt e f | choice _ e f => e.nodes + f.nodes + 1
  | choiceBy e f g => e.nodes + f.nodes + g.nodes + 1
  | repeated least _ _ e => (least + 1) * (e.nodes + 1)
  | group _ e | atomic e | look _ e => e.nodes + 1
  | _ => 1

/-- How deep parts may stand for other parts. -/
def maxCalls : Nat := 1000

/-- A bound for the length of all ways in a text. -/
def bound (e : RichExpression) (s : Subject) : Nat :=
  (s.size + maxCalls) * (e.body.nodes + 2)

/-- The first match from a place on, in a search that began somewhere: its start, its end, and what the
groups took. -/
def searchFrom (e : RichExpression) (s : Subject) (origin : Nat) : (tries : Nat) → (i : Nat) →
    Option (Nat × Nat × Groups)
  | 0, _ => Option.none
  | tries + 1, i =>
    if s.size < i then Option.none
    else
      match run ⟨e, s, origin⟩ (e.bound s) e.body i ⟨[], i, []⟩ Outcome.found with
      | .found j w => some (w.first, j, w.groups)
      | .commit => Option.none
      | .skip j => searchFrom e s origin tries (max j (i + 1))
      | _ => searchFrom e s origin tries (i + 1)

/-- The first match from a place on: its start, its end, and what the groups took. -/
def search? (e : RichExpression) (s : Subject) (i : Nat) : Option (Nat × Nat × Groups) :=
  e.searchFrom s i (s.size + 2) i

end RichExpression

end AddonAtlas.Shell
