import AddonAtlas.Shell.Format
import AddonAtlas.Shell.Pattern
import AddonAtlas.Shell.Utility.Basic

/-!
# Translating characters

Sets of characters as they are written with ranges, classes and repetitions, and what becomes of a text whose
characters are replaced by others, deleted, or left out where they are repeated.
-/

namespace AddonAtlas.Shell

namespace Utility

open Shell.Action

/-- A part of a written set. -/
inductive SetPart
  | range (low high : Char)
  | named (name : String) (members : List Char)
  /-- A character so many times; zero stands for as often as needed. -/
  | repetition (c : Char) (count : Nat)

namespace SetPart

/-- The characters of a part, or none for one that is repeated as often as needed. -/
def members : SetPart → List Char
  | range low high => (List.range (high.toNat + 1 - low.toNat)).map fun n => Char.ofNat (low.toNat + n)
  | named _ members => members
  | repetition c count => List.replicate count c

def isEndless : SetPart → Bool
  | repetition _ 0 => true
  | _ => false

def isNamed : SetPart → Bool
  | named _ _ => true
  | _ => false

/-- Whether a part stands for letters that are to change their case. -/
def isCase : SetPart → Bool
  | named name _ => name = "lower" || name = "upper"
  | _ => false

end SetPart

/-- The characters of a class of a name. -/
def classMembers? (name : String) : Option (List Char) :=
  (Pattern.classes.find? fun k => k.1 = name).map fun k => ((List.range 256).filter k.2).map Char.ofNat

/-- The characters of a written set, those behind a backslash read; with each whether it was escaped. -/
def unescapedSet : List Char → List (Char × Bool)
  | [] => []
  | '\\' :: cs =>
    match cs with
    | [] => [('\\', false)]
    | c :: rest =>
      if Format.isOctal c then
        match rest with
        | d :: e :: rest' =>
          if Format.isOctal d then
            if Format.isOctal e && c.toNat < 52 then
              (Char.ofNat (64 * (c.toNat - 48) + 8 * (d.toNat - 48) + (e.toNat - 48)), true) :: unescapedSet rest'
            else (Char.ofNat (8 * (c.toNat - 48) + (d.toNat - 48)), true) :: unescapedSet (e :: rest')
          else (Char.ofNat (c.toNat - 48), true) :: unescapedSet (d :: e :: rest')
        | [d] =>
          if Format.isOctal d then [(Char.ofNat (8 * (c.toNat - 48) + (d.toNat - 48)), true)]
          else [(Char.ofNat (c.toNat - 48), true), (d, false)]
        | [] => [(Char.ofNat (c.toNat - 48), true)]
      else
        match ([('\\', 92), ('a', 7), ('b', 8), ('f', 12), ('n', 10), ('r', 13), ('t', 9), ('v', 11)] :
            List (Char × Nat)).find? fun e => e.1 = c with
        | some (_, n) => (Char.ofNat n, true) :: unescapedSet rest
        | none => (c, true) :: unescapedSet rest
  | c :: cs => (c, false) :: unescapedSet cs

/-- A character as messages show it. -/
def shownInSet (c : Char) : String :=
  if Quotation.isPrintable c then String.ofList [c] else String.ofList ('\\' :: Quotation.octal c)

/-- What stands between an opening bracket with a mark and the mark with a closing one, and what follows. -/
def upToSetMark (mark : Char) : List (Char × Bool) → Option (List Char × List (Char × Bool))
  | [] => none
  | [_] => none
  | (c, e) :: (d, f) :: rest =>
    if c = mark && !e && d = ']' && !f then some ([], rest)
    else (upToSetMark mark ((d, f) :: rest)).map fun (t, r) => (c :: t, r)

/-- The repetition that an opening bracket begins, and what follows it. -/
def repetition? (cs : List (Char × Bool)) : Option (Except String SetPart × List (Char × Bool)) :=
  match cs with
  | (c, _) :: ('*', false) :: rest =>
    let digits := rest.takeWhile fun x => x.1 ≠ ']' || x.2
    match rest.drop digits.length with
    | [] => none
    | _ :: after =>
      let ds := digits.map (·.1)
      if ds.all isDigit then
        let base := if ds.head? = some '0' then 8 else 10
        some (.ok (.repetition c (Arithmetic.digitsOf base ds).1), after)
      else
        some (.error ("invalid repeat count " ++ Quotation.quoted (String.ofList ds) ++ " in [c*n] construct"),
          after)
  | _ => none

/-- The parts of a set. -/
def setParts : (fuel : Nat) → List (Char × Bool) → Except String (List SetPart)
  | 0, _ => .ok []
  | _ + 1, [] => .ok []
  | fuel + 1, (c, e) :: rest => do
    let bracketed : Option (Except String SetPart × List (Char × Bool)) :=
      if c = '[' && !e then
        match rest with
        | (':', false) :: after =>
          (upToSetMark ':' after).bind fun (name, after) =>
            let name := String.ofList name
            if name.isEmpty then some (.error "missing character class name '[::]'", after)
            else
              match classMembers? name with
              | some members => some (.ok (.named name members), after)
              | none =>
                /- What looks like a class may be a repetition. -/
                match repetition? rest with
                | some r => some r
                | none => some (.error ("invalid character class " ++ Quotation.quoted name), after)
        | ('=', false) :: after =>
          (upToSetMark '=' after).bind fun (name, after) =>
            match name with
            | [] => some (.error "missing equivalence class character '[==]'", after)
            | [c] => some (.ok (.range c c), after)
            | _ =>
              match repetition? rest with
              | some r => some r
              | none =>
                some (.error (String.ofList name ++ ": equivalence class operand must be a single character"),
                  after)
        | _ => repetition? rest
      else none
    match bracketed with
    | some (part, after) => return (← part) :: (← setParts fuel after)
    | none =>
      match rest with
      | ('-', false) :: (d, _) :: after =>
        if d < c then
          .error ("range-endpoints of '" ++ shownInSet c ++ "-" ++ shownInSet d ++
            "' are in reverse collating sequence order")
        else return .range c d :: (← setParts fuel after)
      | _ => return .range c c :: (← setParts fuel rest)

def readSet (s : String) : Except String (List SetPart) :=
  setParts (s.length + 1) (unescapedSet s.toList)

/-- The characters of a second set: what is repeated as often as needed fills it up to a length. -/
def membersUpTo (length : Nat) (parts : List SetPart) : List Char :=
  let fixed := (parts.map fun p => p.members.length).sum
  parts.flatMap fun p =>
    match p with
    | .repetition c 0 => List.replicate (length - fixed) c
    | p => p.members

/-- A text without, for each run of a character of a set, all but the first. -/
def squeezedBy (p : Char → Bool) (cs : List Char) : List Char :=
  (cs.foldl (fun (kept : List Char) c =>
    if kept.head? = some c && p c then kept else c :: kept) []).reverse

/-- A table of bytes, with the bytes of pairs replaced; the last pair of a byte counts. -/
def tableOf (pairs : List (Char × Char)) : Array Char :=
  pairs.foldl (fun t (a, b) => t.setIfInBounds a.toNat b) ((Array.range 256).map Char.ofNat)

def setOf (cs : List Char) : Array Bool :=
  cs.foldl (fun t c => t.setIfInBounds c.toNat true) (Array.replicate 256 false)

def isInSet (t : Array Bool) (c : Char) : Bool :=
  t.getD c.toNat false

/-- What is wrong with the sets of a translation, if anything is. -/
def translationFault? (complements truncates : Bool) (first second : List SetPart) (length : Nat) :
    Option String :=
  let others := second.filter fun p => p.isNamed && !p.isCase
  if (second.filter SetPart.isEndless).length > 1 then some "only one [c*] repeat construct may appear in string2"
  else if !others.isEmpty then
    some "when translating, the only character classes that may appear in\nstring2 are 'upper' and 'lower'"
  else if second.any SetPart.isCase && (complements || !first.any SetPart.isCase) then
    some "misaligned [:upper:] and/or [:lower:] construct"
  else if !truncates && length ≠ 0 && (membersUpTo length second).isEmpty then
    some "when not truncating set1, string2 must be non-empty"
  else if complements && first.any SetPart.isNamed && 1 < (membersUpTo length second).eraseDups.length then
    some ("when translating with complemented character classes,\n" ++
      "string2 must map all characters in the domain to one")
  else none

def translate (name : String) (arguments : List String) : Action Nat :=
  let t := Options.Table.of "cCdst" [("complement", "c"), ("delete", "d"), ("squeeze-repeats", "s"),
    ("truncate-set1", "t")]
  withOptions name t false 1 arguments fun given sets => do
    let deletes := has given "d"
    let squeezes := has given "s"
    let complements := has given "c" || has given "C"
    let least := if deletes = squeezes then 2 else 1
    let most := if deletes && !squeezes then 1 else 2
    match sets with
    | [] => misuse name "missing operand" 1
    | s :: more =>
      if sets.length < least then
        complain name ("missing operand after " ++ Quotation.quoted s)
        say (if squeezes then "Two strings must be given when both deleting and squeezing repeats.\n"
          else "Two strings must be given when translating.\n")
        hint name 1
      else if most < sets.length then
        complain name ("extra operand " ++ Quotation.quoted (sets.getD most ""))
        if sets.length = 2 then
          say "Only one string may be given when deleting without squeezing repeats.\n"
        hint name 1
      else
        let translates := !deletes && sets.length = 2
        match readSet s, readSet (more.headD "") with
        | .error message, _ | _, .error message => giveUp name message 1
        | .ok firstParts, .ok second =>
          if firstParts.any SetPart.isEndless then
            giveUp name "the [c*] repeat construct may not appear in string1" 1
          else
            let members := firstParts.flatMap SetPart.members
            let first :=
              if complements then
                let table := setOf members
                ((List.range 256).map Char.ofNat).filter fun c => !isInSet table c
              else members
            let secondMembers := membersUpTo first.length second
            let truncates := has given "t" && translates
            match if translates then
                translationFault? complements truncates firstParts second first.length
              else if second.any SetPart.isEndless then
                some "the [c*] construct may appear in string2 only when translating"
              else none with
            | some message => giveUp name message 1
            | none =>
              match ← readInput with
              | .error u => giveUp name ("read error: " ++ u.description) 1
              | .ok b =>
                let cs := charactersOf b
                let changed :=
                  if deletes then
                    let table := setOf first
                    cs.filter fun c => !isInSet table c
                  else if translates then
                    let last := secondMembers.getLastD ' '
                    let filled := secondMembers ++
                      List.replicate (if truncates then 0 else first.length - secondMembers.length) last
                    let table := tableOf (first.zip filled)
                    cs.map fun c => table.getD c.toNat c
                  else cs
                let result :=
                  if squeezes then
                    let table := setOf (if sets.length = 2 then secondMembers else first)
                    squeezedBy (isInSet table) changed
                  else changed
                finish name 1 result 0

end Utility

end AddonAtlas.Shell
