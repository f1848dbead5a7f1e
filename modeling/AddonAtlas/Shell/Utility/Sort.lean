import AddonAtlas.Shell.Format
import AddonAtlas.Shell.Utility.Basic

/-!
# Sorting lines

Lines are sorted by keys: parts of them, each compared in its own way. Lines that no key tells apart are
compared as a whole, if nothing else is said.
-/

namespace AddonAtlas.Shell

namespace Utility

open Shell.Action

/-- How a key is compared. -/
structure KeyStyle where
  skipsBlanks : Bool
  skipsEndBlanks : Bool
  /-- Only blanks, letters and digits count. -/
  isDictionary : Bool
  /-- Only what can be printed counts. -/
  isPrintable : Bool
  foldsCase : Bool
  isNumeric : Bool
  isGeneral : Bool
  isHuman : Bool
  isMonth : Bool
  isVersion : Bool
  isReverse : Bool
deriving DecidableEq

namespace KeyStyle

def plain : KeyStyle :=
  ⟨false, false, false, false, false, false, false, false, false, false, false⟩

/-- The style with what a letter asks for, at the start or at the end of a key. -/
def adding? (s : KeyStyle) (atStart atEnd : Bool) (c : Char) : Option KeyStyle :=
  match c with
  | 'b' => some { s with skipsBlanks := s.skipsBlanks || atStart, skipsEndBlanks := s.skipsEndBlanks || atEnd }
  | 'd' => some { s with isDictionary := true }
  | 'f' => some { s with foldsCase := true }
  | 'g' => some { s with isGeneral := true }
  | 'h' => some { s with isHuman := true }
  | 'i' => some { s with isPrintable := true }
  | 'M' => some { s with isMonth := true }
  | 'n' => some { s with isNumeric := true }
  | 'r' => some { s with isReverse := true }
  | 'V' => some { s with isVersion := true }
  | 'R' => some s
  | _ => none

/-- Adds what letters ask for, up to one that asks for nothing. -/
def addingAll (s : KeyStyle) (atStart atEnd : Bool) : List Char → KeyStyle × List Char
  | [] => (s, [])
  | c :: rest =>
    match s.adding? atStart atEnd c with
    | some s => addingAll s atStart atEnd rest
    | none => (s, c :: rest)

end KeyStyle

/-- A part of a line: from a character of a field on, up to a character of a field, both counted from zero; the
last character zero stands for the end of the field. -/
structure SortKey where
  startField : Nat
  startPlace : Nat
  finish : Option (Nat × Nat)
  style : KeyStyle

structure SortRule where
  keys : List SortKey
  separator : Option Char
  isReverse : Bool
  isUnique : Bool
  isStable : Bool

/-! ## Reading keys -/

/-- The number at the start of a text. -/
def keyNumber (what : String) (cs : List Char) : Except String (Nat × List Char) :=
  let ds := cs.takeWhile isDigit
  if ds.isEmpty then
    .error (what ++ ": invalid count at start of " ++ Quotation.quoted (String.ofList cs))
  else .ok ((Arithmetic.digitsOf 10 ds).1, cs.drop ds.length)

/-- The key that a text describes. -/
def SortKey.read (s : String) : Except String SortKey := do
  let bad {α : Type} (what : String) : Except String α :=
    .error (what ++ ": invalid field specification " ++ Quotation.quoted s)
  let (field, rest) ← keyNumber "invalid number at field start" s.toList
  if field = 0 then bad "field number is zero"
  let (place, rest) ←
    match rest with
    | '.' :: rest => do
      let (n, rest) ← keyNumber "invalid number after '.'" rest
      if n = 0 then bad "character offset is zero"
      pure (n - 1, rest)
    | rest => pure (0, rest)
  let (style, rest) := KeyStyle.plain.addingAll true false rest
  match rest with
  | [] => return ⟨field - 1, place, none, style⟩
  | ',' :: rest => do
    let (last, rest) ← keyNumber "invalid number after ','" rest
    if last = 0 then bad "field number is zero"
    let (lastPlace, rest) ←
      match rest with
      | '.' :: rest => keyNumber "invalid number after '.'" rest
      | rest => pure (0, rest)
    let (style, rest) := style.addingAll false true rest
    if rest.isEmpty then return ⟨field - 1, place, some (last - 1, lastPlace), style⟩
    else bad "stray character in field spec"
  | _ => bad "stray character in field spec"

/-! ## Parts of lines -/

def isFieldBlank (c : Char) : Bool :=
  c == ' ' || c == '\t' || c == '\n'

/-- What is behind some fields of a line. -/
def dropFields (separator : Option Char) : (fields : Nat) → Line → Line
  | 0, l => l
  | n + 1, l =>
    match separator with
    | some c => dropFields separator n ((l.dropWhile (· != c)).drop 1)
    | none => dropFields separator n ((l.dropWhile isFieldBlank).dropWhile fun c => !isFieldBlank c)

/-- The part of a line that a key is about. -/
def SortKey.part (k : SortKey) (separator : Option Char) (l : Line) : Line :=
  let front := dropFields separator k.startField l
  let front := if k.style.skipsBlanks then front.dropWhile isFieldBlank else front
  let start := min l.length (l.length - front.length + k.startPlace)
  match k.finish with
  | none => l.drop start
  | some (field, 0) =>
    let rest := dropFields separator field l
    let rest :=
      match separator with
      | some c => rest.dropWhile (· != c)
      | none => (rest.dropWhile isFieldBlank).dropWhile fun c => !isFieldBlank c
    (l.take (l.length - rest.length)).drop start
  | some (field, place) =>
    let rest := dropFields separator field l
    let rest := if k.style.skipsEndBlanks then rest.dropWhile isFieldBlank else rest
    (l.take (l.length - rest.length + place)).drop start

/-! ## Comparing -/

/-- How one thing compares with another in two ways, the first of which counts more. -/
def orElse (a b : Ordering) : Ordering :=
  if a = .eq then b else a

def compareCharacters : List Char → List Char → Ordering
  | [], [] => .eq
  | [], _ => .lt
  | _, [] => .gt
  | a :: as, b :: bs => if a = b then compareCharacters as bs else if a < b then .lt else .gt

/-- A decimal at the start of a text: whether it is below zero, and its digits in front of and behind the
point. -/
def leadingDecimal (cs : List Char) : Bool × Nat × List Char :=
  let cs := cs.dropWhile isFieldBlank
  let (negative, cs) :=
    match cs with
    | '-' :: rest => (true, rest)
    | rest => (false, rest)
  let whole := cs.takeWhile isDigit
  let fraction :=
    match cs.drop whole.length with
    | '.' :: rest => rest.takeWhile isDigit
    | _ => []
  let fraction := (fraction.reverse.dropWhile (· == '0')).reverse
  (negative, (Arithmetic.digitsOf 10 whole).1, fraction)

def compareDecimals (a b : List Char) : Ordering :=
  let (aNegative, aWhole, aFraction) := leadingDecimal a
  let (bNegative, bWhole, bFraction) := leadingDecimal b
  let aZero := aWhole = 0 && aFraction.isEmpty
  let bZero := bWhole = 0 && bFraction.isEmpty
  let size := orElse (compare aWhole bWhole) (compareCharacters aFraction bFraction)
  match aNegative && !aZero, bNegative && !bZero with
  | true, false => .lt
  | false, true => .gt
  | false, false => size
  | true, true => size.swap

/-- The rank of the unit behind a decimal. -/
def unitRank (cs : List Char) : Int :=
  let cs := cs.dropWhile isFieldBlank
  let (negative, cs) :=
    match cs with
    | '-' :: rest => (true, rest)
    | rest => (false, rest)
  let digits := cs.takeWhile fun c => isDigit c || c == '.'
  let rank : Int :=
    match cs.drop digits.length with
    | 'k' :: _ => 1
    | c :: _ => (("KMGTPEZY".toList.idxOf? c).map fun n => (n : Int) + 1).getD 0
    | [] => 0
  if digits.all fun c => c == '0' || c == '.' then 0 else if negative then -rank else rank

def compareHuman (a b : List Char) : Ordering :=
  orElse (compare (unitRank a) (unitRank b)) (compareDecimals a b)

/-- The rank of a text as a real number: none, no number, a number. -/
def realRank (cs : List Char) : Nat × Number.Binary64 :=
  let (x, rest) := Format.leadingReal cs
  if rest.length = cs.length then (0, x) else if x matches .nan then (1, x) else (2, x)

def compareGeneral (a b : List Char) : Ordering :=
  let (i, x) := realRank a
  let (j, y) := realRank b
  if i ≠ j then compare i j
  else if i < 2 then .eq
  else if x.lt y then .lt
  else if y.lt x then .gt
  else .eq

/-- The number of the month whose name stands at the start of a text, or zero. -/
def monthOf (cs : List Char) : Nat :=
  let name := String.ofList (((cs.dropWhile isFieldBlank).take 3).map Char.toUpper)
  ((["JAN", "FEB", "MAR", "APR", "MAY", "JUN", "JUL", "AUG", "SEP", "OCT", "NOV", "DEC"].idxOf? name).map
    (· + 1)).getD 0

/-- The rank of a character of a version: a tilde comes before the end of the text, letters before all other
characters. -/
def versionRank : Option Char → Int
  | none => -1
  | some '~' => -2
  | some c => if isDigit c then 0 else if c.isAlpha then c.toNat else (c.toNat : Int) + 256

/-- Compares versions: parts without digits by the ranks of characters, parts of digits as numbers. -/
def compareVersionParts : (fuel : Nat) → List Char → List Char → Ordering
  | 0, _, _ => .eq
  | fuel + 1, a, b =>
    match a, b with
    | [], [] => .eq
    | _, _ =>
      let words (cs : List Char) : List Char := cs.takeWhile fun c => !isDigit c
      let u := words a
      let v := words b
      let ranks := (List.range (max u.length v.length)).map fun i =>
        let rank (cs w : List Char) : Int :=
          if i < w.length then versionRank w[i]? else if w.length < cs.length then 0 else versionRank none
        compare (rank a u) (rank b v)
      match ranks.find? (· ≠ .eq) with
      | some o => o
      | none =>
        let a := a.drop u.length
        let b := b.drop v.length
        let m := a.takeWhile isDigit
        let n := b.takeWhile isDigit
        let o := compare (Arithmetic.digitsOf 10 m).1 (Arithmetic.digitsOf 10 n).1
        if o ≠ .eq then o else compareVersionParts fuel (a.drop m.length) (b.drop n.length)

/-- A name without the endings at its end that begin with a point and a letter. -/
def withoutEndings (cs : List Char) : List Char :=
  go (cs.length + 1) cs
where
  /-- Takes off one ending after the other. -/
  go : (fuel : Nat) → List Char → List Char
    | 0, cs => cs
    | fuel + 1, cs =>
      let tail := (cs.reverse.takeWhile fun c => c.isAlphanum || c == '~').reverse
      let front := cs.take (cs.length - tail.length)
      if front.getLast? = some '.' && 1 < front.length && tail.head?.any fun c => c.isAlpha || c == '~' then
        go fuel front.dropLast
      else cs

def compareVersions (a b : List Char) : Ordering :=
  let isHidden (cs : List Char) : Bool := cs.head? = some '.'
  if a = b then .eq
  else if a.isEmpty then .lt
  else if b.isEmpty then .gt
  else if isHidden a != isHidden b then (if isHidden a then .lt else .gt)
  else
    let fuel := a.length + b.length + 2
    let o := compareVersionParts fuel (withoutEndings a) (withoutEndings b)
    orElse (if o = .eq then compareVersionParts fuel a b else o) (compareCharacters a b)

/-- What of a text counts, as it counts. -/
def KeyStyle.counted (s : KeyStyle) (cs : List Char) : List Char :=
  let cs := if s.isDictionary then cs.filter fun c => isFieldBlank c || c.isAlphanum else cs
  let cs := if s.isPrintable then cs.filter Quotation.isPrintable else cs
  if s.foldsCase then cs.map Char.toUpper else cs

def KeyStyle.compare (s : KeyStyle) (a b : List Char) : Ordering :=
  let o :=
    if s.isNumeric then compareDecimals a b
    else if s.isGeneral then compareGeneral a b
    else if s.isHuman then compareHuman a b
    else if s.isMonth then Ord.compare (monthOf a) (monthOf b)
    else if s.isVersion then compareVersions (s.counted a) (s.counted b)
    else compareCharacters (s.counted a) (s.counted b)
  if s.isReverse then o.swap else o

namespace SortRule

/-- How two lines compare by the keys. -/
def compareKeys (r : SortRule) (a b : Line) : Ordering :=
  r.keys.foldl (fun o k =>
    if o = .eq then k.style.compare (k.part r.separator a) (k.part r.separator b) else o) .eq

/-- How two lines compare. -/
def compare (r : SortRule) (a b : Line) : Ordering :=
  let o := r.compareKeys a b
  if o ≠ .eq || (!r.keys.isEmpty && (r.isUnique || r.isStable)) then o
  else
    let o := compareCharacters a b
    if r.isReverse then o.swap else o

def precedes (r : SortRule) (a b : Line) : Bool :=
  r.compare a b ≠ .gt

/-- Of lines that compare as the same one after the other, only the first one. -/
def withoutRepetitions (r : SortRule) (lines : List Line) : List Line :=
  (lines.foldl (fun (kept : List Line) l =>
    match kept with
    | k :: _ => if r.compare k l = .eq then kept else l :: kept
    | [] => [l]) []).reverse

/-- Lines in order. -/
def sort (r : SortRule) (lines : List Line) : List Line :=
  let sorted := lines.mergeSort r.precedes
  if r.isUnique then r.withoutRepetitions sorted else sorted

/-- Sorted lists of lines as one. -/
def merge (r : SortRule) (lists : List (List Line)) : List Line :=
  let merged := lists.foldl (fun a b => List.merge a b r.precedes) []
  if r.isUnique then r.withoutRepetitions merged else merged

/-- The first line that does not stand where it should, with its number. -/
def disorder? (r : SortRule) (lines : List Line) : Option (Nat × Line) :=
  ((lines.zip (lines.drop 1)).zipIdx 2).findSome? fun ((a, b), n) =>
    let o := r.compare a b
    if o = .gt || (r.isUnique && o = .eq) then some (n, b) else none

end SortRule

/-! ## The program -/

def sortOptions : Options.Table :=
  .of "bcCdfghik:mMno:rRsS:t:T:uVz"
    [("ignore-leading-blanks", "b"), ("dictionary-order", "d"), ("ignore-case", "f"),
      ("general-numeric-sort", "g"), ("human-numeric-sort", "h"), ("ignore-nonprinting", "i"),
      ("month-sort", "M"), ("numeric-sort", "n"), ("random-sort", "R"), ("reverse", "r"), ("sort=", "sort"),
      ("version-sort", "V"), ("batch-size=", "batch"), ("check?", "check"), ("compress-program=", "compress"),
      ("debug", "debug"), ("files0-from=", "files"), ("key=", "k"), ("merge", "m"), ("output=", "o"),
      ("stable", "s"), ("buffer-size=", "S"), ("field-separator=", "t"), ("temporary-directory=", "T"),
      ("parallel=", "parallel"), ("unique", "u"), ("zero-terminated", "z")]

/-- The letters of the ways to sort by their names. -/
def sortNames : List (String × Char) :=
  [("general-numeric", 'g'), ("human-numeric", 'h'), ("month", 'M'), ("numeric", 'n'), ("random", 'R'),
    ("version", 'V')]

/-- The separator that a text names. -/
def separatorOf (s : String) : Except String Char :=
  match s.toList with
  | [] => .error "empty tab"
  | [c] => .ok c
  | ['\\', '0'] => .ok '\x00'
  | _ => .error ("multi-character tab " ++ Quotation.quoted s)

/-- The rule that options ask for. -/
def sortRule (given : List Options.Given) : Except String SortRule := do
  let overall := given.foldl (fun (s : KeyStyle) g =>
    match g.option.toList with
    | [c] => (s.adding? true true c).getD s
    | _ =>
      match if g.option = "sort" then sortNames.find? fun n => n.1 = g.value.getD "" else none with
      | some (_, c) => (s.adding? true true c).getD s
      | none => s) KeyStyle.plain
  let keys ← (given.filter fun g => g.option = "k").mapM fun g => SortKey.read (g.value.getD "")
  let separator ←
    match value? given "t" with
    | some s => (separatorOf s).map some
    | none => pure none
  let isUsual (s : KeyStyle) : Bool :=
    { s with skipsBlanks := false, skipsEndBlanks := false } = KeyStyle.plain && !s.skipsBlanks &&
      !s.skipsEndBlanks
  let keys := keys.map fun k => if isUsual k.style then { k with style := overall } else k
  let keys :=
    if keys.isEmpty && !isUsual { overall with isReverse := false } then [⟨0, 0, none, overall⟩] else keys
  return ⟨keys, separator, overall.isReverse, has given "u", has given "s"⟩

/-- Sorts the lines of files. `write` writes a file. -/
def sort (write : String → List Char → Action (Option Errno)) (name : String) (arguments : List String) :
    Action Nat :=
  withOptions name sortOptions true 2 arguments fun given files =>
    match sortRule given with
    | .error message => giveUp name message 2
    | .ok rule => do
      let checks := (last? given ["c", "C", "check"]).map fun g =>
        g.option = "C" || (g.value.any fun v => v = "quiet" || v = "silent")
      match checks, files with
      | some isSilent, _ :: extra :: _ =>
        return ← misuse name ("extra operand " ++ Quotation.quoted extra ++ " not allowed with -" ++
          (if isSilent then "C" else "c")) 2
      | _, _ => pure ()
      let ending := lineEnd given
      let mut texts : List (String × List Char) := []
      for file in if files.isEmpty then ["-"] else files do
        match ← read file with
        | .ok b => texts := (file, charactersOf b) :: texts
        | .error (.opening e) =>
          return ← giveUp name ((if checks.isSome then "open failed: " else "cannot read: ") ++
            Quotation.forShell file ++ ": " ++ e.description) 2
        | .error (.reading e) =>
          return ← giveUp name ("read failed: " ++ Quotation.forShell file ++ ": " ++ e.description) 2
      let lists := texts.reverse.map fun t => bareLines ending t.2
      match checks with
      | some isSilent =>
        match rule.disorder? lists.flatten with
        | none => return 0
        | some (n, l) =>
          if !isSilent then
            complain name ((files.headD "-") ++ ":" ++ toString n ++ ": disorder: " ++ String.ofList l)
          return 1
      | none =>
        let sorted := if has given "m" then rule.merge lists else rule.sort lists.flatten
        let cs := joined ending sorted
        match value? given "o" with
        | none => finish name 2 cs 0
        | some file =>
          match ← write file cs with
          | none => return 0
          | some e => giveUp name ("open failed: " ++ Quotation.forShell file ++ ": " ++ e.description) 2

end Utility

end AddonAtlas.Shell
