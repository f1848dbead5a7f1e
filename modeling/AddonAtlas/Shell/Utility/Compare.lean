import AddonAtlas.Shell.Expression.Reading
import AddonAtlas.Shell.Utility.Listing

/-!
# Programs that compare files

Where two files differ for the first time, and which lines have to be removed and added to make one of the
other. Of the shortest ways to do that, one is found by going from both ends at once to a place in the
middle; changes that could as well stand elsewhere are moved together.
-/

namespace AddonAtlas.Shell

namespace Utility

open Shell.Action

/-! ## The first difference -/

/-- A character as it is shown behind its code. -/
def shownByte (c : Char) : String :=
  let n := c.toNat
  let low := n % 128
  let base := if low < 32 then ['^', Char.ofNat (low + 64)] else if low = 127 then ['^', '?'] else [Char.ofNat low]
  String.ofList (if n < 128 then base else 'M' :: '-' :: base)

/-- Compares the bytes of two files. -/
def compareBytes (name : String) (arguments : List String) : Action Nat := do
  let table := Options.Table.of "bci:ln:sv" [("print-bytes", "b"), ("print-chars", "c"), ("ignore-initial=", "i"),
    ("verbose", "l"), ("bytes=", "n"), ("silent", "s"), ("quiet", "s"), ("version", "v"), ("help", "help")]
  let r := Options.read table true arguments
  let refuse (message : String) : Action Nat := do
    complain name message
    giveUp name ("Try '" ++ name ++ " --help' for more information.") 2
  match r.fault?, r.operands with
  | some fault, _ => refuse fault
  | none, [] => refuse ("missing operand after " ++ Quotation.quoted name)
  | none, first :: rest =>
    match rest with
    | _ :: _ :: _ :: extra :: _ => refuse ("extra operand " ++ Quotation.quoted extra)
    | _ =>
      let given := r.options
      let second := rest.headD "-"
      let skips := ((value? given "i").getD "0").splitOn ":"
      let skip (i : Nat) : Nat := ((skips[i]?.or skips.getLast?).bind fun s => amount? s.toList).getD 0
      let isSilent := has given "s"
      match ← read first with
      | .error u => if isSilent then return 2 else giveUp name (first ++ ": " ++ u.description) 2
      | .ok a =>
        match ← (if first = second then pure (Except.ok a) else read second) with
        | .error u => if isSilent then return 2 else giveUp name (second ++ ": " ++ u.description) 2
        | .ok b =>
          let cut (b : Bytes) (extra i : Nat) : List Char :=
            let cs := (charactersOf b).drop (skip i + extra)
            match (value? given "n").bind fun s => amount? s.toList with
            | some n => cs.take n
            | none => cs
          let operand (i : Nat) : Nat := ((rest[i]?).bind fun s => amount? s.toList).getD 0
          let a := cut a (operand 1) 0
          let b := cut b (operand 2) 1
          let pairs := a.zip b
          let differing := pairs.zipIdx.filter fun ((x, y), _) => x ≠ y
          let shorter? : Option (String × List Char) :=
            if a.length < b.length then some (first, a) else if b.length < a.length then some (second, b) else none
          let ending (showsLine : Bool) : Action Nat := do
            match shorter? with
            | none => return if differing.isEmpty then 0 else 1
            | some (file, text) =>
              if text.isEmpty then complain name ("EOF on " ++ file ++ " which is empty")
              else
                let line := (text.filter (· == '\n')).length
                let where_ :=
                  if !showsLine then ""
                  else if text.getLast? = some '\n' then ", line " ++ toString line
                  else ", in line " ++ toString (line + 1)
                complain name ("EOF on " ++ file ++ " after byte " ++ toString text.length ++ where_)
              return 1
          let code (c : Char) : List Char := filled 3 (Nat.toDigits 8 c.toNat)
          if isSilent then return if differing.isEmpty && shorter?.isNone then 0 else 1
          else if has given "l" then
            let size := min a.length b.length
            let width := (toString (if size = 0 then 1 else size)).length
            let text := differing.flatMap fun ((x, y), i) =>
              let shown (c : Char) : List Char :=
                if has given "b" || has given "c" then ' ' :: (shownByte c).toList else []
              let first := shown x
              let first := if first.isEmpty then [] else first ++ List.replicate (5 - first.length) ' '
              filledNumber width (i + 1) ++ ' ' :: code x ++ first ++ ' ' :: code y ++ shown y ++ ['\n']
            let _ ← put (toBytes text)
            ending false
          else
            match differing with
            | [] => ending true
            | ((x, y), i) :: _ =>
              let line := ((a.take i).filter (· == '\n')).length + 1
              let bytes := has given "b" || has given "c"
              let text := first ++ " " ++ second ++ " differ: " ++ (if bytes then "byte " else "char ") ++
                toString (i + 1) ++ ", line " ++ toString line ++
                (if bytes then
                  " is " ++ String.ofList (code x) ++ " " ++ shownByte x ++ " " ++ String.ofList (code y) ++ " " ++
                    shownByte y
                else "") ++ "\n"
              let _ ← put (toBytes text.toList)
              return 1

/-! ## The shortest way from one list to another -/

namespace Difference

/-- How far one gets on each diagonal of the table of both lists; a diagonal is the difference of two
indices. -/
structure Front where
  reached : Array Int
  /-- Added to the number of a diagonal to find it in the array. -/
  shift : Int
  low : Int
  high : Int

namespace Front

def get (f : Front) (d : Int) : Int :=
  f.reached.getD (d + f.shift).toNat 0

def set (f : Front) (d x : Int) : Front :=
  { f with reached := f.reached.setIfInBounds (d + f.shift).toNat x }

/-- The front with one diagonal more at each side; where there is none, with one less. `none_` is what stands
beyond the outer diagonals. -/
def widened (f : Front) (least most none_ : Int) : Front :=
  let f := if least < f.low then { (f.set (f.low - 2) none_) with low := f.low - 1 } else { f with low := f.low + 1 }
  if f.high < most then { (f.set (f.high + 2) none_) with high := f.high + 1 } else { f with high := f.high - 1 }

end Front

/-- A part of both lists: from the first indices up to the last ones. -/
structure Region where
  x₀ : Int
  x₁ : Int
  y₀ : Int
  y₁ : Int

/-- Goes down a diagonal as long as both lists have the same. -/
def slideDown (same : Int → Int → Bool) (r : Region) : (fuel : Nat) → (x y : Int) → Int
  | 0, x, _ => x
  | fuel + 1, x, y => if x < r.x₁ ∧ y < r.y₁ ∧ same x y then slideDown same r fuel (x + 1) (y + 1) else x

/-- Goes up a diagonal as long as both lists have the same. -/
def slideUp (same : Int → Int → Bool) (r : Region) : (fuel : Nat) → (x y : Int) → Int
  | 0, x, _ => x
  | fuel + 1, x, y =>
    if r.x₀ < x ∧ r.y₀ < y ∧ same (x - 1) (y - 1) then slideUp same r fuel (x - 1) (y - 1) else x

/-- Goes one step on all diagonals from one end, from the highest diagonal on; or finds a place that was
reached from the other end. -/
def sweep (same : Int → Int → Bool) (r : Region) (size : Nat) (isDown : Bool) (meets : Bool) (other : Front) :
    (fuel : Nat) → (d : Int) → Front → Front ⊕ (Int × Int)
  | 0, _, f => .inl f
  | fuel + 1, d, f =>
    if d < f.low then .inl f
    else
      let below := f.get (d - 1)
      let above := f.get (d + 1)
      let x :=
        if isDown then
          let start := if below < above then above else below + 1
          slideDown same r size start (start - d)
        else
          let start := if below < above then below else above - 1
          slideUp same r size start (start - d)
      let f := f.set d x
      let isMet := meets && other.low ≤ d && d ≤ other.high &&
        (if isDown then other.get d ≤ x else x ≤ other.get d)
      if isMet then .inr (x, x - d) else sweep same r size isDown meets other fuel (d - 2) f

/-- A place in the middle of a shortest way. -/
def middle (same : Int → Int → Bool) (r : Region) (size : Nat) : Int × Int :=
  let least := r.x₀ - r.y₁
  let most := r.x₁ - r.y₀
  let shift := 2 - least
  let width := (most - least + 6).toNat
  let down₀ := r.x₀ - r.y₀
  let up₀ := r.x₁ - r.y₁
  let far : Int := 4 * size + 8
  let down : Front := Front.set ⟨Array.replicate width (-1), shift, down₀, down₀⟩ down₀ r.x₀
  let up : Front := Front.set ⟨Array.replicate width far, shift, up₀, up₀⟩ up₀ r.x₁
  let isOdd := (down₀ - up₀) % 2 ≠ 0
  go least most far isOdd (2 * size + 4) down up
where
  /-- Takes steps from both ends in turn. -/
  go (least most far : Int) (isOdd : Bool) : (fuel : Nat) → (down up : Front) → Int × Int
    | 0, _, _ => (r.x₀, r.y₀)
    | fuel + 1, down, up =>
      let down := down.widened least most (-1)
      match sweep same r size true isOdd up (size + 4) down.high down with
      | .inr place => place
      | .inl down =>
        let up := up.widened least most far
        match sweep same r size false (!isOdd) down (size + 4) up.high up with
        | .inr place => place
        | .inl up => go least most far isOdd fuel down up

/-- The indices of what is only in the first list, and of what is only in the second one. -/
def changes (same : Int → Int → Bool) (size : Nat) : (fuel : Nat) → Region → List Nat × List Nat
  | 0, _ => ([], [])
  | fuel + 1, r =>
    let x₀ := slideDown same r size r.x₀ r.y₀
    let y₀ := r.y₀ + (x₀ - r.x₀)
    let r : Region := { r with x₀ := x₀, y₀ := y₀ }
    let x₁ := slideUp same r size r.x₁ r.y₁
    let y₁ := r.y₁ - (r.x₁ - x₁)
    let r : Region := { r with x₁ := x₁, y₁ := y₁ }
    let range (a b : Int) : List Nat := (List.range (b - a).toNat).map fun i => a.toNat + i
    if r.x₀ = r.x₁ then ([], range r.y₀ r.y₁)
    else if r.y₀ = r.y₁ then (range r.x₀ r.x₁, [])
    else
      let (x, y) := middle same r size
      let (a, b) := changes same size fuel { r with x₁ := x, y₁ := y }
      let (c, d) := changes same size fuel { r with x₀ := x, y₀ := y }
      (a ++ c, b ++ d)

/-! ## Moving changes together -/

/-- The marks of what was changed in both lists, with one mark in front of and behind each. -/
structure Marks where
  own : Array Bool
  other : Array Bool

/-- The mark of an index; there are none outside of a list. -/
def marked (a : Array Bool) (i : Int) : Bool :=
  a.getD (i + 1).toNat false

def mark (a : Array Bool) (i : Int) (b : Bool) : Array Bool :=
  a.setIfInBounds (i + 1).toNat b

/-- Steps back over marks: from an index to the first one before it that is not marked. -/
def backOver (a : Array Bool) : (fuel : Nat) → (i : Int) → Int
  | 0, i => i
  | fuel + 1, i => if marked a i then backOver a fuel (i - 1) else i

/-- Steps on over marks. -/
def onOver (a : Array Bool) : (fuel : Nat) → (i : Int) → Int
  | 0, i => i
  | fuel + 1, i => if marked a i then onOver a fuel (i + 1) else i

/-- A run of changes that is being moved: where it starts and ends, and the place in the other list. -/
structure Run where
  own : Array Bool
  start : Int
  finish : Int
  place : Int
  /-- The last place at which the run would stand beside changes of the other list. -/
  corresponding : Int

/-- Moves a run back as long as what is in front of it is what is at its end. -/
def moveBack (same : Int → Int → Bool) (other : Array Bool) (size : Nat) : (fuel : Nat) → Run → Run
  | 0, r => r
  | fuel + 1, r =>
    if 0 < r.start ∧ same (r.start - 1) (r.finish - 1) then
      let own := mark (mark r.own (r.start - 1) true) (r.finish - 1) false
      let start := r.start - 1
      let start := backOver own size (start - 1) + 1
      moveBack same other size fuel
        { r with own := own, start := start, finish := r.finish - 1, place := backOver other size (r.place - 1) }
    else r

/-- Moves a run on as long as what follows it is what is at its start. -/
def moveOn (same : Int → Int → Bool) (other : Array Bool) (size : Nat) (length : Int) : (fuel : Nat) → Run → Run
  | 0, r => r
  | fuel + 1, r =>
    if r.finish ≠ length ∧ same r.start r.finish then
      let own := mark (mark r.own r.start false) r.finish true
      let finish := onOver own size (r.finish + 1)
      let place := r.place + 1
      let next := onOver other size place
      let corresponding := if marked other place then finish else r.corresponding
      moveOn same other size length fuel
        { r with own := own, start := r.start + 1, finish := finish, place := next, corresponding := corresponding }
    else r

/-- Moves a run to and fro until it does not grow any more. -/
def settle (same : Int → Int → Bool) (other : Array Bool) (size : Nat) (length : Int) : (fuel : Nat) → Run → Run
  | 0, r => r
  | fuel + 1, r =>
    let before := r.finish - r.start
    let r := moveBack same other size size r
    let r := { r with corresponding := if marked other (r.place - 1) then r.finish else length }
    let r := moveOn same other size length size r
    if r.finish - r.start = before then r else settle same other size length fuel r

/-- Moves a run back to where the other list has changes too. -/
def align (other : Array Bool) (size : Nat) : (fuel : Nat) → Run → Run
  | 0, r => r
  | fuel + 1, r =>
    if r.corresponding < r.finish then
      align other size fuel
        { r with
          own := mark (mark r.own (r.start - 1) true) (r.finish - 1) false
          start := r.start - 1
          finish := r.finish - 1
          place := backOver other size (r.place - 1) }
    else r

/-- Moves all runs of one list, from an index and a place in the other list on. -/
def moveAll (same : Int → Int → Bool) (other : Array Bool) (size : Nat) (length : Int) :
    (fuel : Nat) → (own : Array Bool) → (i j : Int) → Array Bool
  | 0, own, _, _ => own
  | fuel + 1, own, i, j =>
    if length ≤ i then own
    else if !marked own i then moveAll same other size length fuel own (i + 1) (onOver other size j + 1)
    else
      let finish := onOver own size i
      let r := settle same other size length size ⟨own, i, finish, onOver other size j, length⟩
      let r := align other size size r
      moveAll same other size length fuel r.own r.finish r.place

/-- The marks of what was changed in both lists. -/
def marks (a b : Array Nat) : Array Bool × Array Bool :=
  let size := a.size + b.size + 4
  let known (l : Array Nat) (x : Nat) : Bool := l.contains x
  let ofList (n : Nat) (l : List Nat) : Array Bool :=
    l.foldl (fun (m : Array Bool) i => m.setIfInBounds (i + 1) true) (Array.replicate (n + 2) false)
  -- What the other list does not have at all is a change for certain.
  let keptA := ((List.range a.size).filter fun i => known b (a.getD i 0)).toArray
  let keptB := ((List.range b.size).filter fun i => known a (b.getD i 0)).toArray
  let same (x y : Int) : Bool :=
    a.getD (keptA.getD x.toNat 0) 0 == b.getD (keptB.getD y.toNat 0) 0
  let (onlyA, onlyB) := changes same size (2 * size) ⟨0, keptA.size, 0, keptB.size⟩
  let lostA := (List.range a.size).filter fun i => !known b (a.getD i 0)
  let lostB := (List.range b.size).filter fun i => !known a (b.getD i 0)
  let changedA := ofList a.size (lostA ++ onlyA.map fun i => keptA.getD i 0)
  let changedB := ofList b.size (lostB ++ onlyB.map fun i => keptB.getD i 0)
  let sameIn (l : Array Nat) (x y : Int) : Bool := l.getD x.toNat 0 == l.getD y.toNat 0
  let changedA := moveAll (sameIn a) changedB size a.size (2 * size) changedA 0 0
  let changedB := moveAll (sameIn b) changedA size b.size (2 * size) changedB 0 0
  (changedA, changedB)

/-- A change: lines from an index on, so many of them, and those that stand for them in the other list. -/
structure Change where
  first : Nat
  removed : Nat
  second : Nat
  added : Nat

/-- The changes that marks tell of. -/
def changesOf (a b : Array Bool) (sizeA sizeB : Nat) : (fuel : Nat) → (i j : Nat) → List Change
  | 0, _, _ => []
  | fuel + 1, i, j =>
    if sizeA ≤ i ∧ sizeB ≤ j then []
    else if marked a i ∨ marked b j then
      let n := (onOver a (sizeA + 1) i).toNat - i
      let k := (onOver b (sizeB + 1) j).toNat - j
      ⟨i, n, j, k⟩ :: changesOf a b sizeA sizeB fuel (i + n) (j + k)
    else changesOf a b sizeA sizeB fuel (i + 1) (j + 1)

end Difference

/-! ## Differences of files -/

/-- How differences are looked for and shown. -/
structure DiffStyle where
  given : List Options.Given

namespace DiffStyle

def isOn (s : DiffStyle) (option : String) : Bool :=
  has s.given option

/-- What of a line counts. -/
def counted (s : DiffStyle) (l : Line) : Line :=
  let isBlank (c : Char) : Bool := Arithmetic.isSpace c
  let l := if s.isOn "i" then l.map Char.toLower else l
  let hasEnd := l.getLast? = some '\n'
  let body := bare '\n' l
  if s.isOn "w" then body.filter (!isBlank ·)
  else if s.isOn "b" then
    let words := body.splitBy fun a b => isBlank a == isBlank b
    let words := if words.getLast?.any fun w => w.all isBlank then words.dropLast else words
    words.flatMap fun w => if w.all isBlank then [' '] else w
  else if s.isOn "Z" then (body.reverse.dropWhile isBlank).reverse
  else if s.isOn "strip" then
    (if body.getLast? = some '\r' then body.dropLast else body) ++ (if hasEnd then ['\n'] else [])
  else l

/-- Numbers that are the same for lines that count as the same. -/
def numbered (s : DiffStyle) (a b : List Line) : Array Nat × Array Nat :=
  let all := a.map s.counted ++ b.map s.counted
  let known := all.zipIdx.foldl (fun (known : List (Line × Nat)) (l, i) =>
    if known.any fun k => k.1 = l then known else (l, i) :: known) []
  let numberOf (l : Line) : Nat := ((known.find? fun k => k.1 = l).map (·.2)).getD 0
  let numbers := all.map numberOf
  ((numbers.take a.length).toArray, (numbers.drop a.length).toArray)

/-- The changes that make one file of another one. -/
def changes (s : DiffStyle) (a b : List Line) : List Difference.Change :=
  let (x, y) := s.numbered a b
  let (m, n) := Difference.marks x y
  let found := Difference.changesOf m n x.size y.size (x.size + y.size + 1) 0 0
  if s.isOn "B" then
    found.filter fun c =>
      !((a.drop c.first).take c.removed ++ (b.drop c.second).take c.added).all fun l => (bare '\n' l).isEmpty
  else found

/-- A line behind a mark. -/
def line (mark : String) (l : Line) : List Char :=
  mark.toList ++ l ++ (if l.getLast? = some '\n' then [] else "\n\\ No newline at end of file\n".toList)

/-- The numbers of lines, of which there may be one, several, or none behind a line. -/
def range (first count : Nat) : String :=
  if count ≤ 1 then toString (first + count) else toString (first + 1) ++ "," ++ toString (first + count)

def normal (a b : List Line) (cs : List Difference.Change) : List Char :=
  cs.flatMap fun c =>
    let letter := if c.removed = 0 then "a" else if c.added = 0 then "d" else "c"
    let head := range c.first c.removed ++ letter ++ range c.second c.added ++ "\n"
    head.toList ++ ((a.drop c.first).take c.removed).flatMap (line "< ") ++
      (if c.removed ≠ 0 ∧ c.added ≠ 0 then "---\n".toList else []) ++
      ((b.drop c.second).take c.added).flatMap (line "> ")

/-- Changes that are shown together: those with so few lines between them. -/
def hunks (context : Nat) (cs : List Difference.Change) : List (List Difference.Change) :=
  (cs.foldl (fun (done : List (List Difference.Change)) c =>
    match done with
    | (last :: others) :: rest =>
      if c.first - (last.first + last.removed) ≤ 2 * context then (c :: last :: others) :: rest
      else [c] :: done
    | _ => [c] :: done) []).reverse.map List.reverse

def unifiedRange (first count : Nat) : String :=
  if count = 1 then toString (first + 1)
  else if count = 0 then toString first ++ ",0"
  else toString (first + 1) ++ "," ++ toString count

def unified (context : Nat) (a b : List Line) (cs : List Difference.Change) : List Char :=
  (hunks context cs).flatMap fun h =>
    match h, h.getLast? with
    | first :: _, some last =>
      let front := min context first.first
      let endA := last.first + last.removed
      let behind := min context (a.length - endA)
      let startA := first.first - front
      let startB := first.second - front
      let endB := last.second + last.added
      let head := "@@ -" ++ unifiedRange startA (endA + behind - startA) ++ " +" ++
        unifiedRange startB (endB + behind - startB) ++ " @@\n"
      let body := h.foldl (fun (done : List Char × Nat) c =>
        let same := (a.drop done.2).take (c.first - done.2)
        (done.1 ++ same.flatMap (line " ") ++ ((a.drop c.first).take c.removed).flatMap (line "-") ++
          ((b.drop c.second).take c.added).flatMap (line "+"), c.first + c.removed)) ([], startA)
      head.toList ++ body.1 ++ ((a.drop endA).take behind).flatMap (line " ")
    | _, _ => []

def contextRange (first count : Nat) : String :=
  if count = 0 then toString first
  else if count = 1 then toString (first + 1)
  else toString (first + 1) ++ "," ++ toString (first + count)

def contextual (context : Nat) (a b : List Line) (cs : List Difference.Change) : List Char :=
  (hunks context cs).flatMap fun h =>
    match h, h.getLast? with
    | first :: _, some last =>
      let front := min context first.first
      let endA := last.first + last.removed
      let endB := last.second + last.added
      let behind := min context (a.length - endA)
      let startA := first.first - front
      let startB := first.second - front
      let side (lines : List Line) (start finish : Nat) (mark : String)
          (part : Difference.Change → Nat × Nat × Nat) : List Char :=
        let done := h.foldl (fun (done : List Char × Nat) c =>
          let (i, n, k) := part c
          let sign := if n ≠ 0 ∧ k ≠ 0 then "! " else mark
          (done.1 ++ ((lines.drop done.2).take (i - done.2)).flatMap (line "  ") ++
            ((lines.drop i).take n).flatMap (line sign), i + n)) ([], start)
        done.1 ++ ((lines.drop done.2).take (finish - done.2)).flatMap (line "  ")
      let hasRemoved := h.any fun c => c.removed ≠ 0
      let hasAdded := h.any fun c => c.added ≠ 0
      "***************\n*** ".toList ++ (contextRange startA (endA + behind - startA)).toList ++ " ****\n".toList ++
        (if hasRemoved then side a startA (endA + behind) "- " fun c => (c.first, c.removed, c.added) else []) ++
        "--- ".toList ++ (contextRange startB (endB + behind - startB)).toList ++ " ----\n".toList ++
        (if hasAdded then side b startB (endB + behind) "+ " fun c => (c.second, c.added, c.removed) else [])
    | _, _ => []

def editScript (a b : List Line) (cs : List Difference.Change) : List Char :=
  let _ := a
  cs.reverse.flatMap fun c =>
    let letter := if c.removed = 0 then "a" else if c.added = 0 then "d" else "c"
    let head := range c.first c.removed ++ letter ++ "\n"
    head.toList ++
      (if c.added = 0 then [] else ((b.drop c.second).take c.added).flatten ++ ".\n".toList)

/-- How many lines around changes are shown. -/
def contextLines (s : DiffStyle) (letter name : String) : Option Nat :=
  match last? s.given [letter, name] with
  | none => none
  | some g =>
    let digits := s.given.filter fun g => g.option.toList.all isDigit
    let shown := String.join (digits.map (·.option))
    some ((g.value.bind String.toNat?).getD (shown.toNat?.getD 3))

/-- The name of a file in front of its differences, with the time of its last change. -/
def heading (s : DiffStyle) (i : Nat) (file : String) : String :=
  match ((s.given.filter fun g => g.option = "L").filterMap (·.value))[i]? with
  | some label => label
  | none => file ++ "\t1970-01-01 00:00:00.000000000 +0000"

/-- What is written for two files, and the status. -/
def compare (s : DiffStyle) (front : String) (a b : String × List Char) : List Char × Nat :=
  let isBinary (cs : List Char) : Bool := (cs.take 32768).contains '\x00'
  let same : List Char × Nat :=
    (if s.isOn "s" then ("Files " ++ a.1 ++ " and " ++ b.1 ++ " are identical\n").toList else [], 0)
  if a.2 = b.2 then same
  else if !s.isOn "a" && (isBinary a.2 || isBinary b.2) then
    if s.isOn "q" then (("Files " ++ a.1 ++ " and " ++ b.1 ++ " differ\n").toList, 1)
    else (("Binary files " ++ a.1 ++ " and " ++ b.1 ++ " differ\n").toList, 2)
  else
    let x := linesOf '\n' a.2
    let y := linesOf '\n' b.2
    let cs := s.changes x y
    if cs.isEmpty then same
    else if s.isOn "q" then (("Files " ++ a.1 ++ " and " ++ b.1 ++ " differ\n").toList, 1)
    else
      let heads (first second : String) : List Char :=
        (first ++ " " ++ s.heading 0 a.1 ++ "\n" ++ second ++ " " ++ s.heading 1 b.1 ++ "\n").toList
      let text :=
        match s.contextLines "u" "U", s.contextLines "c" "C" with
        | some n, _ => heads "---" "+++" ++ unified n x y cs
        | none, some n => heads "***" "---" ++ contextual n x y cs
        | none, none => if s.isOn "e" then editScript x y cs else normal x y cs
      (front.toList ++ text, 1)

end DiffStyle

def diffOptions : Options.Table :=
  .of "0123456789abBcC:dD:eEfF:hHiI:lL:nNpPqrsS:tTuU:vwW:x:X:yZ" [("ignore-case", "i"), ("ignore-tab-expansion", "E"),
    ("ignore-trailing-space", "Z"), ("ignore-space-change", "b"), ("ignore-all-space", "w"),
    ("ignore-blank-lines", "B"), ("text", "a"), ("strip-trailing-cr", "strip"), ("brief", "q"), ("context?", "C"),
    ("unified?", "U"), ("ed", "e"), ("normal", "normal"), ("recursive", "r"), ("new-file", "N"),
    ("report-identical-files", "s"), ("minimal", "d"), ("label=", "L"), ("exclude=", "x"), ("no-dereference", "P"),
    ("color?", "color"), ("help", "help"), ("version", "v")]

/-- The differences of what two paths lead to. -/
def differences (s : DiffStyle) (words : String) : (fuel : Nat) → (isInside : Bool) → (first second : String) →
    Action (List Char × Nat)
  | 0, _, _, _ => return ([], 0)
  | fuel + 1, isInside, first, second => do
    let name := "diff"
    let m ← get
    let kind (file : String) : Except Errno Bool :=
      if file = "-" then .ok false else (resolve m file).map fun r => r.2 matches .directory
    match kind first, kind second with
    | .ok true, .ok true =>
      if isInside && !s.isOn "r" then
        return (("Common subdirectories: " ++ first ++ " and " ++ second ++ "\n").toList, 0)
      else
        let names (file : String) : List String :=
          match resolve m file with
          | .ok (place, _) => (m.tree.children place).map encode
          | .error _ => []
        let left := names first
        let right := names second
        let excluded := (s.given.filter fun g => g.option = "x").filterMap (·.value)
        let all := (left ++ right.filter (!left.contains ·)).filter fun n =>
          !excluded.any fun p => Pattern.isMatch p.toList n.toList
        let sorted := all.mergeSort fun a b => compareCharacters a.toList b.toList != .gt
        let mut text : List Char := []
        let mut status := 0
        for n in sorted do
          let alone (directory : String) : List Char := ("Only in " ++ directory ++ ": " ++ n ++ "\n").toList
          if left.contains n && right.contains n || s.isOn "N" then
            let (t, r) ← differences s words fuel true (inside first n) (inside second n)
            text := text ++ t
            status := max status r
          else
            text := text ++ (if left.contains n then alone first else alone second)
            status := max status 1
        return (text, status)
    | .ok true, .ok false =>
      if isInside then
        return (("File " ++ first ++ " is a directory while file " ++ second ++ " is a regular file\n").toList, 1)
      else differences s words fuel false (inside first (basename second)) second
    | .ok false, .ok true =>
      if isInside then
        return (("File " ++ first ++ " is a regular file while file " ++ second ++ " is a directory\n").toList, 1)
      else differences s words fuel false first (inside second (basename first))
    | a, b =>
      let missing (file : String) : Except Errno Bool → Action Bool
        | .error e =>
          if s.isOn "N" then return false
          else do
            complain name (file ++ ": " ++ e.description)
            return true
        | .ok _ => return false
      let isMissing ← missing first a
      let isMissing := (← missing second b) || isMissing
      if isMissing then return ([], 2)
      else
        let content (file : String) : Action (List Char) := do
          match ← read file with
          | .ok b => return charactersOf b
          | .error _ => return []
        let x ← content first
        let y ← if first = second then pure x else content second
        let front := if isInside then "diff" ++ words ++ " " ++ first ++ " " ++ second ++ "\n" else ""
        return s.compare front (first, x) (second, y)

def compareLines (name : String) (arguments : List String) : Action Nat := do
  let r := Options.read diffOptions true arguments
  let refuse (message : String) : Action Nat := do
    complain name message
    giveUp name ("Try '" ++ name ++ " --help' for more information.") 2
  match r.fault?, r.operands with
  | some fault, _ => refuse fault
  | none, [] => refuse ("missing operand after " ++ Quotation.quoted name)
  | none, [file] => refuse ("missing operand after " ++ Quotation.quoted file)
  | none, _ :: _ :: extra :: _ => refuse ("extra operand " ++ Quotation.quoted extra)
  | none, [first, second] =>
    let words := String.join ((arguments.filter fun a => a.startsWith "-" && a ≠ "-").map (" " ++ ·))
    let (text, status) ← differences ⟨r.options⟩ words ((← get).tree.entries.length + 3) false first second
    finish name 2 text status

end Utility

end AddonAtlas.Shell
