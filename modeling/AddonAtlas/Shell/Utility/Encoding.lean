import AddonAtlas.Shell.Utility.Display

/-!
# Bytes as letters

Each letter of an alphabet stands for some binary digits. The digits of all bytes are cut into parts of that
length, and what is missing at the end of a group of letters is marked.
-/

namespace AddonAtlas.Shell

namespace Utility

open Shell.Action

/-- An alphabet, how many digits a letter stands for, and how many letters make a group. -/
structure Alphabet where
  letters : List Char
  digits : Nat
  group : Nat
  /-- The lowest digit of a byte comes first. -/
  isReversed : Bool := false

namespace Alphabet

def upper : List Char :=
  "ABCDEFGHIJKLMNOPQRSTUVWXYZ".toList

/-- The letters and digits of the alphabet of 64, with two others at its end. -/
def sixtyFour (last : String) : List Char :=
  upper ++ upper.map Char.toLower ++ "0123456789".toList ++ last.toList

/-- The alphabets by their names. -/
def named : List (String × Alphabet) :=
  [("base64", ⟨sixtyFour "+/", 6, 4, false⟩), ("base64url", ⟨sixtyFour "-_", 6, 4, false⟩),
    ("base32", ⟨upper ++ "234567".toList, 5, 8, false⟩),
    ("base32hex", ⟨"0123456789ABCDEFGHIJKLMNOPQRSTUV".toList, 5, 8, false⟩),
    ("base16", ⟨"0123456789ABCDEF".toList, 4, 2, false⟩), ("base2msbf", ⟨['0', '1'], 1, 8, false⟩),
    ("base2lsbf", ⟨['0', '1'], 1, 8, true⟩)]

/-- The binary digits of a number, the highest one first. -/
def bits (count n : Nat) : List Bool :=
  (List.range count).reverse.map fun i => n / 2 ^ i % 2 = 1

/-- The number of binary digits. -/
def ofBits (bs : List Bool) : Nat :=
  bs.foldl (fun n b => 2 * n + if b then 1 else 0) 0

/-- The letters for bytes. -/
def encode (a : Alphabet) (bytes : List UInt8) : List Char :=
  let all := bytes.flatMap fun b =>
    let ds := bits 8 b.toNat
    if a.isReversed then ds.reverse else ds
  let letters := (chunks a.digits all).map fun ds =>
    a.letters.getD (ofBits (ds ++ List.replicate (a.digits - ds.length) false)) '?'
  letters ++ List.replicate ((a.group - letters.length % a.group) % a.group) '='

/-- The bytes that a group of letters stands for; nothing if it is none. -/
def ofGroup (a : Alphabet) (cs : List Char) : Option (List UInt8) :=
  let letters := (cs.reverse.dropWhile (· == '=')).reverse
  let values := letters.filterMap a.letters.idxOf?
  let used := letters.length * a.digits
  let left := used % 8
  if values.length ≠ letters.length || cs.length ≠ a.group || letters.isEmpty || a.digits ≤ left then none
  else
    let all := values.flatMap (bits a.digits)
    let whole := all.take (used - left)
    if (all.drop (used - left)).any id then none
    else
      some ((chunks 8 whole).map fun ds => (ofBits (if a.isReversed then ds.reverse else ds)).toUInt8)

/-- The bytes that letters stand for, and whether all of them do. -/
def decode (a : Alphabet) (cs : List Char) : List UInt8 × Bool :=
  (chunks a.group cs).foldl (fun (found, isGood) group =>
    match isGood, a.ofGroup group with
    | true, some bytes => (found ++ bytes, true)
    | _, _ => (found, false)) ([], true)

end Alphabet

/-- Writes bytes as letters, or the other way round; the alphabet is named by an option if none is given. -/
def encodeBytes (fixed : Option String) (name : String) (arguments : List String) : Action Nat :=
  let kinds := Alphabet.named.map (·.1)
  let t := Options.Table.of "diw:" ([("decode", "d"), ("ignore-garbage", "i"), ("wrap=", "w"), ("help", "help"),
    ("version", "version")] ++ if fixed.isNone then kinds.map fun k => (k, k) else [])
  withOptions name t true 1 arguments fun given files => do
    let wrap := (value? given "w").map fun s => (s, natural? s.toList)
    let kind := fixed.or ((last? given kinds).map (·.option))
    match wrap, kind.bind fun k => (Alphabet.named.find? fun a => a.1 = k).map (·.2), files with
    | some (s, none), _, _ => giveUp name ("invalid wrap size: " ++ Quotation.quoted s) 1
    | _, none, _ => misuse name "missing encoding type" 1
    | _, _, _ :: extra :: _ => misuse name ("extra operand " ++ Quotation.quoted extra) 1
    | wrap, some a, files =>
      let file := files.headD "-"
      match ← Utility.read file with
      | .error (.opening e) => giveUp name (plainRefusal file (.opening e)) 1
      | .error (.reading e) => giveUp name ("read error: " ++ e.description) 1
      | .ok b =>
        if has given "d" then
          let cs := (charactersOf b).filter (· ≠ '\n')
          let cs := if has given "i" then cs.filter fun c => a.letters.contains c || c == '=' else cs
          let (bytes, isWhole) := a.decode cs
          let status ← finish name 1 (bytes.map fun x => Char.ofNat x.toNat) 0
          if isWhole then return status else giveUp name "invalid input" 1
        else finish name 1 (inLines ((wrap.bind (·.2)).getD 76) (a.encode b.toList)) 0

end Utility

end AddonAtlas.Shell
