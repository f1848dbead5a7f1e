import AddonAtlas.Shell.Wide.Quoting

/-!
# What is made of values

Parts of texts and of lists, texts with what matches a pattern replaced, and texts with their letters changed. A
pattern comes as the condition which texts it matches.
-/

namespace AddonAtlas.Shell.Wide

/-- A part of a list, from an offset on; negative numbers count from the end. Nothing, if it would end before it
begins. -/
def part? {α : Type} (items : List α) (offset : Int) (length? : Option Int) : Option (List α) :=
  let size : Int := items.length
  let start := if offset < 0 then offset + size else offset
  if start < 0 ∨ size < start then some []
  else
    match length? with
    | none => some (items.drop start.toNat)
    | some n =>
      let stop := if n < 0 then size + n else start + n
      if stop < start then none else some ((items.drop start.toNat).take (stop - start).toNat)

/-- The length of the longest text at the start of a text that a pattern matches. -/
def longestMatch? (isMatch : List Char → Bool) (text : List Char) : Option Nat :=
  (List.range (text.length + 1)).reverse.find? fun n => isMatch (text.take n)

/-- A text with parts that match replaced, all of them or the first one. -/
def replaceFrom (isMatch : List Char → Bool) (substitute : List Char → List Char) (all : Bool) :
    (fuel : Nat) → List Char → List Char
  | 0, text => text
  | _ + 1, [] => []
  | fuel + 1, c :: text =>
    match longestMatch? isMatch (c :: text) with
    | none => c :: replaceFrom isMatch substitute all fuel text
    | some n =>
      let found := (c :: text).take n
      if !all then substitute found ++ (c :: text).drop n
      else if n = 0 then substitute found ++ c :: replaceFrom isMatch substitute all fuel text
      else substitute found ++ replaceFrom isMatch substitute all fuel ((c :: text).drop n)

/-- A text with parts of it replaced. -/
def replaced (how : Replacing) (isMatch : List Char → Bool) (substitute : List Char → List Char)
    (text : List Char) : List Char :=
  match how with
  | .first => replaceFrom isMatch substitute false (text.length + 1) text
  | .all => replaceFrom isMatch substitute true (text.length + 1) text
  | .atStart =>
    match longestMatch? isMatch text with
    | some n => substitute (text.take n) ++ text.drop n
    | none => text
  | .atEnd =>
    match (List.range (text.length + 1)).find? fun n => isMatch (text.drop n) with
    | some n => text.take n ++ substitute (text.drop n)
    | none => text

/-- What a letter becomes. -/
def Casing.change (how : Casing) (c : Char) : Char :=
  match how with
  | .upper => c.toUpper
  | .lower => c.toLower
  | .other => if c.isUpper then c.toLower else c.toUpper

/-- A text with the letters changed that match a pattern, all of them or the first character only. -/
def recased (how : Casing) (all : Bool) (isMatch : List Char → Bool) (text : List Char) : List Char :=
  text.zipIdx.map fun (c, i) => if (all || i = 0) && isMatch [c] then Casing.change how c else c

/-- A replacement with what was matched for every ampersand in it that counts. -/
def filledIn (replacement : List (Char × Bool)) (found : List Char) : List Char :=
  replacement.flatMap fun (c, isLiteral) => if c = '&' && !isLiteral then found else [c]

/-- A text transformed as a letter asks for. -/
def transformed (letter : Char) (s : String) : String :=
  match letter with
  | 'Q' => reusable s
  | 'U' => String.ofList (s.toList.map Char.toUpper)
  | 'L' => String.ofList (s.toList.map Char.toLower)
  | 'u' => String.ofList (recased .upper false (fun _ => true) s.toList)
  | 'E' => String.ofList (Escaped.quoted s.toList)
  | _ => s

end AddonAtlas.Shell.Wide
