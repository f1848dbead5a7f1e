import AddonAtlas.Shell.Expression
import AddonAtlas.Shell.Records.Value

/-!
# Texts in programs that work on records

How a record is taken from a text and divided into fields, how matches are replaced, and how values are written
by a format.
-/

namespace AddonAtlas.Shell.Records

/-! ## Separators -/

/-- What stands between fields, or between records. -/
inductive Separator
  | blanks
  | character (c : Char)
  | nothing
  | pattern (e : Expression)

/-- The parts of a text between the matches of an expression that are not empty. -/
def between (e : Expression) (text : Array Char) : (fuel : Nat) → (start place : Nat) → List (List Char)
  | 0, start, _ => [(text.extract start text.size).toList]
  | fuel + 1, start, place =>
    match e.search? (AddonAtlas.Word.ofArray text) place with
    | none => [(text.extract start text.size).toList]
    | some (i, j, _) =>
      if i = j then
        if text.size ≤ i then [(text.extract start text.size).toList] else between e text fuel start (i + 1)
      else (text.extract start i).toList :: between e text fuel j j

/-- The words of a text. -/
def wordsOf (cs : List Char) : List (List Char) :=
  let isBlank (c : Char) : Bool := c == ' ' || c == '\t' || c == '\n' || c == '\r' || c == '\x0b' || c == '\x0c'
  go isBlank (cs.length + 1) cs
where
  /-- Takes one word after the other. -/
  go (isBlank : Char → Bool) : (fuel : Nat) → List Char → List (List Char)
    | 0, _ => []
    | fuel + 1, cs =>
      match cs.dropWhile isBlank with
      | [] => []
      | rest =>
        let word := rest.takeWhile fun c => !isBlank c
        word :: go isBlank fuel (rest.drop word.length)

/-- The fields of a text. -/
def Separator.divide (s : Separator) (cs : List Char) : List (List Char) :=
  match s with
  | .blanks => wordsOf cs
  | .character c => if cs.isEmpty then [] else cs.splitOn c
  | .nothing => cs.map fun c => [c]
  | .pattern e => if cs.isEmpty then [] else between e cs.toArray (cs.length + 1) 0 0

/-- The first record of a text that is not empty, and what follows it. Where nothing stands between records,
blank lines do. -/
def Separator.take (s : Separator) (cs : List Char) : Option (List Char × List Char) :=
  match s with
  | .character c =>
    if cs.isEmpty then none
    else
      let found := cs.takeWhile (· != c)
      some (found, cs.drop (found.length + 1))
  | .pattern e =>
    if cs.isEmpty then none
    else
      match e.search? (Expression.subject cs) 0 with
      | some (i, j, _) => if i < j then some (cs.take i, cs.drop j) else some (cs, [])
      | none => some (cs, [])
  | .blanks | .nothing =>
    let cs := cs.dropWhile (· == '\n')
    if cs.isEmpty then none
    else
      let (record, rest) := paragraph (cs.length + 1) [] cs
      some (record, rest.dropWhile (· == '\n'))
where
  /-- The lines up to a blank one. -/
  paragraph : (fuel : Nat) → (done : List Char) → List Char → List Char × List Char
    | 0, done, rest => (done.reverse, rest)
    | _ + 1, done, [] => (done.reverse, [])
    | _ + 1, done, ['\n'] => (done.reverse, [])
    | _ + 1, done, '\n' :: '\n' :: rest => (done.reverse, rest)
    | fuel + 1, done, c :: rest => paragraph fuel (c :: done) rest

/-! ## Replacements -/

/-- The text for a match: a match stands for an ampersand with no backslash in front of it. -/
def replacement (found : List Char) : List Char → List Char
  | [] => []
  | '\\' :: '&' :: rest => '&' :: replacement found rest
  | '\\' :: '\\' :: '&' :: rest => '\\' :: (found ++ replacement found rest)
  | '&' :: rest => found ++ replacement found rest
  | c :: rest => c :: replacement found rest

/-- Replaces the first match, or all of them, from a place on; with the number of matches. An empty match does
not count behind another one. -/
def replaced (e : Expression) (by_ : List Char) (isGlobal : Bool) (text : Array Char) :
    (fuel : Nat) → (place : Nat) → (behind : Bool) → List Char × Nat
  | 0, place, _ => ((text.extract place text.size).toList, 0)
  | fuel + 1, place, behind =>
    match e.search? (AddonAtlas.Word.ofArray text) place with
    | none => ((text.extract place text.size).toList, 0)
    | some (i, j, _) =>
      let before := (text.extract place i).toList
      let step (rest : Nat) (front : List Char) (count : Nat) (behind : Bool) : List Char × Nat :=
        let (more, n) := replaced e by_ isGlobal text fuel rest behind
        (front ++ more, n + count)
      if i = j && behind && i = place then
        match text[i]? with
        | none => ([], 0)
        | some c => step (i + 1) [c] 0 false
      else
        let here := before ++ replacement (text.extract i j).toList by_
        if !isGlobal then (here ++ (text.extract j text.size).toList, 1)
        else if i = j then
          match text[i]? with
          | none => (here, 1)
          | some c => step (i + 1) (here ++ [c]) 1 false
        else step j here 1 true

/-! ## Formats -/

/-- What a format has come to, and what is wrong with it. -/
structure Formatted where
  text : List Char
  fault? : Option String

/-- The values written by a format. `number` is that of the next directive. -/
def formatted (convert : Value → String) : (fuel : Nat) → (number : Nat) → List Char → List Value → Formatted
  | 0, _, _, _ => ⟨[], none⟩
  | _ + 1, _, [], _ => ⟨[], none⟩
  | fuel + 1, number, '%' :: '%' :: rest, values =>
    let r := formatted convert fuel number rest values
    { r with text := '%' :: r.text }
  | fuel + 1, number, '%' :: rest, values =>
    let flags := rest.takeWhile fun c => ['#', '-', '+', ' ', '0'].contains c
    let (width, rest, values) := size (rest.drop flags.length) values
    let (precision, rest, values) :=
      match rest with
      | '.' :: rest =>
        let (p, rest, values) := size rest values
        (p.map fun (n : Int) => some n.toNat, rest, values)
      | _ => (some none, rest, values)
    let rest := rest.dropWhile fun c => c == 'h' || c == 'l'
    match width, precision, rest, values with
    | some width, some precision, c :: after, values =>
      let d : Format.Directive := ⟨if width < 0 then '-' :: flags else flags, width.natAbs, precision⟩
      if !("diouxXeEfgGcs".toList.contains c) then ⟨[], some ("improper conversion(number " ++ toString number ++ ")")⟩
      else
        match values with
        | [] => ⟨[], some "not enough arguments passed"⟩
        | v :: values =>
          let shown :=
            match c with
            | 'd' | 'i' => d.signed (whole v.toNumber)
            | 'o' | 'u' | 'x' | 'X' => d.plain c (Arithmetic.bits (whole v.toNumber))
            | 's' => d.text (convert v).toList
            | 'c' =>
              match v.decided with
              | .text s | .input s => d.fill [s.toList.headD '\x00']
              | v => d.fill [Char.ofNat ((whole v.toNumber) % 256).toNat]
            | c => d.real c (binary v.toNumber)
          let r := formatted convert fuel (number + 1) after values
          { r with text := shown ++ r.text }
    | none, _, _, _ | _, none, _, _ => ⟨[], some "not enough arguments passed"⟩
    | _, _, [], _ => ⟨[], some ("improper conversion(number " ++ toString number ++ ")")⟩
  | fuel + 1, number, c :: rest, values =>
    let r := formatted convert fuel number rest values
    { r with text := c :: r.text }
where
  /-- A width or a precision: digits, or a value; nothing if there is no value. -/
  size (cs : List Char) (values : List Value) : Option Int × List Char × List Value :=
    match cs, values with
    | '*' :: rest, v :: values => (some (whole v.toNumber), rest, values)
    | '*' :: rest, [] => (none, rest, [])
    | cs, values =>
      let ds := cs.takeWhile isDigit
      (some ((Arithmetic.digitsOf 10 ds).1 : Nat), cs.drop ds.length, values)

/-! ## Chance -/

/-- The numbers by which chance is computed from a seed: each one is the sum of two that came before. -/
def chances (seed : Nat) : Array Nat :=
  let seed : Nat := if seed % 2 ^ 32 = 0 then 1 else seed % 2 ^ 32
  let first : Int := if seed < 2 ^ 31 then seed else (seed : Int) - 2 ^ 32
  let rec start : (count : Nat) → (last : Int) → List Int
    | 0, _ => []
    | n + 1, last =>
      let x := Int.tmod (16807 * last) 2147483647
      let x := if x < 0 then x + 2147483647 else x
      x :: start n x
  let begun := (first :: start 30 first).map fun (x : Int) => (x % (2 ^ 32 : Int)).toNat
  let rows := begun.toArray ++ (begun.take 3).toArray
  (List.range 310).foldl (fun a _ => advance a) rows
where
  /-- Adds the next number. -/
  advance (a : Array Nat) : Array Nat :=
    a.push ((a.getD (a.size - 31) 0 + a.getD (a.size - 3) 0) % 2 ^ 32)

end AddonAtlas.Shell.Records
