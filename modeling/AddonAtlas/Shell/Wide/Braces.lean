import AddonAtlas.Shell.Arithmetic

/-!
# Braces

A word of the wide dialect with braces in it stands for several words: one for each of the parts between commas,
or one for each member of a sequence from one number or letter to another. Braces in which there is neither stand
for themselves.
-/

namespace AddonAtlas.Shell.Braces

/-- A word by its characters as they stand and its other pieces. -/
abbrev Units := List (Char ⊕ Piece)

/-- What stands up to the closing brace, the opening one being taken, by the parts between commas; and what
follows. `current` is the part that is being read, the last unit first. -/
def parts? : (depth : Nat) → (current : Units) → Units → Option (List Units × Units)
  | _, _, [] => none
  | depth, current, .inl c :: rest =>
    if c = '\x7d' && depth = 0 then some ([current.reverse], rest)
    else if c = ',' && depth = 0 then
      (parts? 0 [] rest).map fun (others, after) => (current.reverse :: others, after)
    else
      let depth := if c = '\x7b' then depth + 1 else if c = '\x7d' then depth - 1 else depth
      parts? depth (.inl c :: current) rest
  | depth, current, u :: rest => parts? depth (u :: current) rest

/-- A whole number with a sign. -/
def integer? (cs : List Char) : Option Int :=
  match cs with
  | '-' :: ds => if ds.isEmpty || !ds.all isDigit then none else some (-((Arithmetic.digitsOf 10 ds).1 : Int))
  | '+' :: ds => if ds.isEmpty || !ds.all isDigit then none else some (Arithmetic.digitsOf 10 ds).1
  | ds => if ds.isEmpty || !ds.all isDigit then none else some (Arithmetic.digitsOf 10 ds).1

/-- The parts of a text between pairs of points. -/
def betweenPoints (current : List Char) : List Char → List (List Char)
  | '.' :: '.' :: rest => current.reverse :: betweenPoints [] rest
  | c :: rest => betweenPoints (c :: current) rest
  | [] => [current.reverse]

/-- Whether a number is written with zeros in front. -/
def isPadded (cs : List Char) : Bool :=
  match if cs.head? = some '-' then cs.drop 1 else cs with
  | '0' :: _ :: _ => true
  | _ => false

/-- The numbers from one to another. -/
def numbers (first last : Int) (step : Nat) : List Int :=
  let step := max step 1
  let count := (last - first).natAbs / step + 1
  (List.range count).map fun (i : Nat) =>
    if first ≤ last then first + ((i * step : Nat) : Int) else first - ((i * step : Nat) : Int)

/-- A number in so many places, with zeros in front. -/
def inPlaces (width : Nat) (n : Int) : List Char :=
  let digits := (toString n.natAbs).toList
  let sign := if n < 0 then ['-'] else []
  sign ++ List.replicate (width - sign.length - digits.length) '0' ++ digits

/-- The members of a sequence that is written between braces. -/
def sequence? (text : List Char) : Option (List (List Char)) :=
  let of (first last : List Char) (step : Nat) : Option (List (List Char)) :=
    match integer? first, integer? last with
    | some a, some b =>
      let width := if isPadded first || isPadded last then max first.length last.length else 0
      some ((numbers a b step).map (inPlaces width))
    | _, _ =>
      match first, last with
      | [a], [b] =>
        if a.isAlpha && b.isAlpha then some ((numbers a.toNat b.toNat step).map fun n => [Char.ofNat n.toNat])
        else none
      | _, _ => none
  match betweenPoints [] text with
  | [first, last] => of first last 1
  | [first, last, step] => (integer? step).bind fun n => of first last n.natAbs
  | _ => none

/-- The text of units none of which is a piece. -/
def text? : Units → Option (List Char)
  | [] => some []
  | .inl c :: rest => (text? rest).map (c :: ·)
  | _ :: _ => none

/-- The words that a word stands for. -/
def expand : (fuel : Nat) → Units → List Units
  | 0, us => [us]
  | _ + 1, [] => [[]]
  | fuel + 1, u :: rest =>
    let asItIs := (expand fuel rest).map (u :: ·)
    match u with
    | .inl '\x7b' =>
      match parts? 0 [] rest with
      | none => asItIs
      | some ([single], after) =>
        match (text? single).bind sequence? with
        | some members =>
          let ends := expand fuel after
          members.flatMap fun m => ends.map fun e => m.map Sum.inl ++ e
        | none => asItIs
      | some (alternatives, after) =>
        let ends := expand fuel after
        (alternatives.flatMap (expand fuel)).flatMap fun a => ends.map fun e => a ++ e
    | _ => asItIs

/-- The words that a word with braces stands for. -/
def words (w : Word) : List Word :=
  let us := w.units
  if us.any fun u => match u with
    | .inl c => c = '\x7b'
    | .inr _ => false
  then (expand (us.length + 1) us).map Word.ofUnits
  else [w]

end AddonAtlas.Shell.Braces
