import AddonAtlas.Shell.Utility.Files

/-!
# Texts in other codings

A coding says which bytes a character is written with. A text is taken apart into characters by one coding and
written by another one; what cannot be read, or cannot be written, ends the conversion, unless it may be left out
or something like it may be written.
-/

namespace AddonAtlas.Shell

namespace Utility

open Shell.Action

/-- A way to write characters as bytes. `isSwapped` says that the highest byte comes first; without it there is a
mark at the start of a text that tells. -/
inductive Coding
  | ascii
  | latin (others : List (Nat × Nat))
  | units8
  | units16 (isSwapped : Option Bool)
  | units32 (isSwapped : Option Bool)

/-- What the bytes at the front of a text are. -/
inductive Decoded
  | char (code size : Nat)
  | wrong
  | cut

namespace Coding

/-- Characters in the place of others, for the western languages. -/
def western : List (Nat × Nat) :=
  [(0xA4, 0x20AC), (0xA6, 0x160), (0xA8, 0x161), (0xB4, 0x17D), (0xB8, 0x17E), (0xBC, 0x152), (0xBD, 0x153),
    (0xBE, 0x178)]

/-- Characters in the place of others, for windows. -/
def windows : List (Nat × Nat) :=
  [(0x80, 0x20AC), (0x82, 0x201A), (0x83, 0x192), (0x84, 0x201E), (0x85, 0x2026), (0x86, 0x2020), (0x87, 0x2021),
    (0x88, 0x2C6), (0x89, 0x2030), (0x8A, 0x160), (0x8B, 0x2039), (0x8C, 0x152), (0x8E, 0x17D), (0x91, 0x2018),
    (0x92, 0x2019), (0x93, 0x201C), (0x94, 0x201D), (0x95, 0x2022), (0x96, 0x2013), (0x97, 0x2014), (0x98, 0x2DC),
    (0x99, 0x2122), (0x9A, 0x161), (0x9B, 0x203A), (0x9C, 0x153), (0x9E, 0x17E), (0x9F, 0x178)]

/-- The coding of a name. -/
def ofName? (name : String) : Option Coding :=
  let upper := String.ofList (name.toList.map Char.toUpper)
  if ["", "ASCII", "US-ASCII", "US", "ANSI_X3.4-1968", "ANSI_X3.4-1986", "ISO646-US", "ISO-IR-6", "ISO_646.IRV:1991",
      "646", "CP367", "IBM367", "CSASCII", "OSF00010020"].contains upper then some .ascii
  else if ["ISO-8859-1", "ISO8859-1", "ISO_8859-1", "ISO_8859-1:1987", "ISO88591", "LATIN1", "L1", "8859_1", "CP819",
      "IBM819", "ISO-IR-100", "CSISOLATIN1", "OSF00010001"].contains upper then some (.latin [])
  else if ["ISO-8859-15", "ISO8859-15", "ISO_8859-15", "ISO885915", "LATIN-9", "ISO-IR-203"].contains upper then
    some (.latin western)
  else if ["CP1252", "WINDOWS-1252", "MS-ANSI"].contains upper then some (.latin windows)
  else if ["UTF-8", "UTF8", "ISO-IR-193", "WCHAR_T8"].contains upper then some .units8
  else if ["UTF-16", "UTF16"].contains upper then some (.units16 none)
  else if ["UTF-16LE", "UTF16LE", "UCS-2LE", "UNICODELITTLE"].contains upper then some (.units16 (some false))
  else if ["UTF-16BE", "UTF16BE", "UCS-2BE", "UNICODEBIG"].contains upper then some (.units16 (some true))
  else if ["UTF-32", "UTF32"].contains upper then some (.units32 none)
  else if ["UTF-32LE", "UTF32LE", "UCS-4LE"].contains upper then some (.units32 (some false))
  else if ["UTF-32BE", "UTF32BE", "UCS-4BE", "UCS-4", "ISO-10646", "10646-1:1993"].contains upper then
    some (.units32 (some true))
  else none

/-- Whether a number is that of a character. -/
def isCharacter (n : Nat) : Bool :=
  n < 0xD800 || (0xE000 ≤ n && n < 0x110000)

/-- The number that bytes make. -/
def joined (isSwapped : Bool) (bytes : List Nat) : Nat :=
  (if isSwapped then bytes else bytes.reverse).foldl (fun n b => 256 * n + b) 0

/-- The character at the front of bytes. -/
def decode (c : Coding) (bytes : List Nat) : Decoded :=
  match c, bytes with
  | _, [] => .cut
  | .ascii, b :: _ => if b < 128 then .char b 1 else .wrong
  | .latin others, b :: _ =>
    match others.lookup b with
    | some n => .char n 1
    | none => if others.length = windows.length && [0x81, 0x8D, 0x8F, 0x90, 0x9D].contains b then .wrong else .char b 1
  | .units8, b :: rest =>
    if b < 0x80 then .char b 1
    else
      let size := if 0xC2 ≤ b && b < 0xE0 then 2 else if 0xE0 ≤ b && b < 0xF0 then 3 else if 0xF0 ≤ b && b < 0xF5 then 4 else 0
      if size = 0 then .wrong
      else
        let tail := (rest.take (size - 1)).takeWhile fun x => 0x80 ≤ x && x < 0xC0
        if tail.length = size - 1 then
          let n := tail.foldl (fun n x => 64 * n + x % 64) (b % (2 ^ (7 - size)))
          let least := if size = 2 then 0x80 else if size = 3 then 0x800 else 0x10000
          if n < least || !isCharacter n then .wrong else .char n size
        else if tail.length = rest.length then .cut
        else .wrong
  | .units16 isSwapped, bytes =>
    let unit := joined (isSwapped.getD false)
    if bytes.length < 2 then .cut
    else
      let high := unit (bytes.take 2)
      if 0xD800 ≤ high && high < 0xDC00 then
        if bytes.length < 4 then .cut
        else
          let low := unit ((bytes.drop 2).take 2)
          if 0xDC00 ≤ low && low < 0xE000 then .char (0x10000 + (high - 0xD800) * 1024 + (low - 0xDC00)) 4 else .wrong
      else if isCharacter high then .char high 2
      else .wrong
  | .units32 isSwapped, bytes =>
    if bytes.length < 4 then .cut
    else
      let n := joined (isSwapped.getD false) (bytes.take 4)
      if isCharacter n then .char n 4 else .wrong

/-- The bytes of a number, so many of them. -/
def split (isSwapped : Bool) (count n : Nat) : List Nat :=
  let low := (List.range count).map fun i => n / 256 ^ i % 256
  if isSwapped then low.reverse else low

/-- The bytes of a character, if it can be written. -/
def encode? (c : Coding) (n : Nat) : Option (List Nat) :=
  match c with
  | .ascii => if n < 128 then some [n] else none
  | .latin others =>
    match others.find? fun o => o.2 = n with
    | some (b, _) => some [b]
    | none =>
      let isTaken := (others.lookup n).isSome || (others.length = windows.length && 0x80 ≤ n && n < 0xA0)
      if n < 256 && !isTaken then some [n] else none
  | .units8 => some ((String.singleton (Char.ofNat n)).toUTF8.toList.map UInt8.toNat)
  | .units16 isSwapped =>
    let unit := split (isSwapped.getD false) 2
    if n < 0x10000 then some (unit n)
    else some (unit (0xD800 + (n - 0x10000) / 1024) ++ unit (0xDC00 + (n - 0x10000) % 1024))
  | .units32 isSwapped => some (split (isSwapped.getD false) 4 n)

/-- What stands at the start of a text. -/
def opening : Coding → List Nat
  | .units16 none => [0xFF, 0xFE]
  | .units32 none => [0xFF, 0xFE, 0, 0]
  | _ => []

/-- The coding with which a text goes on behind the mark at its start, and the size of that. -/
def begun (c : Coding) (bytes : List Nat) : Coding × Nat :=
  match c with
  | .units16 none =>
    if bytes.take 2 == [0xFF, 0xFE] then (.units16 (some false), 2)
    else if bytes.take 2 == [0xFE, 0xFF] then (.units16 (some true), 2)
    else (c, 0)
  | .units32 none =>
    if bytes.take 4 == [0xFF, 0xFE, 0, 0] then (.units32 (some false), 4)
    else if bytes.take 4 == [0, 0, 0xFE, 0xFF] then (.units32 (some true), 4)
    else (c, 0)
  | c => (c, 0)

end Coding

/-- What is written for characters that cannot be written themselves. -/
def substitutes : List (Nat × String) :=
  [(0xA0, " "), (0xA9, "(C)"), (0xAB, "<<"), (0xAD, "-"), (0xAE, "(R)"), (0xB5, "u"), (0xB8, ","), (0xBB, ">>"),
    (0xBC, " 1/4 "), (0xBD, " 1/2 "), (0xBE, " 3/4 "), (0xC6, "AE"), (0xD7, "x"), (0xDF, "ss"), (0xE6, "ae"),
    (0x152, "OE"), (0x153, "oe"), (0x2002, " "), (0x2003, " "), (0x2009, " "), (0x2010, "-"), (0x2011, "-"),
    (0x2012, "-"), (0x2013, "-"), (0x2014, "-"), (0x2018, "'"), (0x2019, "'"), (0x201A, ","), (0x201B, "'"),
    (0x201C, "\""), (0x201D, "\""), (0x201E, ",,"), (0x201F, "\""), (0x2020, "+"), (0x2022, "o"), (0x2025, ".."),
    (0x2026, "..."), (0x2039, "<"), (0x203A, ">"), (0x20AC, "EUR"), (0x2122, "TM"), (0x2190, "<-"), (0x2192, "->"),
    (0x2212, "-"), (0xFB00, "ff"), (0xFB01, "fi"), (0xFB02, "fl")]

/-- How a conversion is done. -/
structure Recoding where
  source : Coding
  target : Coding
  substitutes : Bool
  /-- Leaves out what cannot be converted. -/
  omits : Bool

/-- How a conversion ends: all is converted, something cannot be at a place, or the last character is not whole. -/
inductive Recoded
  | whole
  | stopped (place : Nat)
  | incomplete
deriving DecidableEq

namespace Recoding

/-- The bytes of a character by the way of a conversion. -/
def bytes? (v : Recoding) (n : Nat) : Option (List Nat) :=
  match v.target.encode? n with
  | some bs => some bs
  | none =>
    if v.substitutes then
      ((((Utility.substitutes.lookup n).getD "?").toList.map Char.toNat).mapM fun x => v.target.encode? x).map List.flatten
    else none

/-- Converts bytes from a place on; what was written comes in pieces, the last one first. -/
def run (v : Recoding) (source : Coding) : (fuel : Nat) → (place : Nat) → (done : List (List Nat)) → List Nat →
    List (List Nat) × Recoded × Bool
  | 0, _, done, _ => (done, .whole, false)
  | fuel + 1, place, done, bytes =>
    match bytes with
    | [] => (done, .whole, false)
    | _ :: rest =>
      match source.decode bytes with
      | .char n size =>
        match v.bytes? n with
        | some bs => run v source fuel (place + size) (bs :: done) (bytes.drop size)
        | none =>
          if v.omits then
            let (done, r, _) := run v source fuel (place + size) done (bytes.drop size)
            (done, r, true)
          else (done, .stopped place, false)
      | .wrong =>
        if v.omits then
          let (done, r, _) := run v source fuel (place + 1) done rest
          (done, r, true)
        else (done, .stopped place, false)
      | .cut => (done, .incomplete, false)

end Recoding

/-- The name of a coding, and what is said about it behind two slashes. -/
def codingParts (s : String) : String × List String :=
  match s.splitOn "//" with
  | name :: rest => (name, (rest.flatMap fun r => (r.splitOn "/").flatMap fun r => r.splitOn ",").map fun r =>
      String.ofList (r.toList.map Char.toUpper))
  | [] => (s, [])

/-- Converts files, or standard input, from one coding to another one. -/
def recode (name : String) (arguments : List String) : Action Nat := do
  let table := Options.Table.of "cf:lo:st:" [("from-code=", "f"), ("to-code=", "t"), ("list", "l"), ("output=", "o"),
    ("silent", "s"), ("verbose", "v"), ("help", "help"), ("usage", "usage"), ("version", "version")]
  let quote (s : String) : String := String.singleton (Char.ofNat 96) ++ s ++ "'"
  let hint : Action Unit :=
    say ("Try " ++ quote (name ++ " --help") ++ " or " ++ quote (name ++ " --usage") ++ " for more information.\n")
  let r := Options.read table true arguments
  match r.fault? with
  | some fault =>
    complain name fault
    hint
    return 64
  | none =>
    let (sourceName, _) := codingParts ((value? r.options "f").getD "")
    let (targetName, wishes) := codingParts ((value? r.options "t").getD "")
    let shown (option name : String) : String := quote (((value? r.options option).filter (· ≠ "")).getD name)
    match Coding.ofName? sourceName, Coding.ofName? targetName with
    | some source, some target =>
      let v : Recoding := ⟨source, target, wishes.contains "TRANSLIT", has r.options "c" || wishes.contains "IGNORE"⟩
      let output? := value? r.options "o"
      let mut status := 0
      let mut done : List Char := []
      let chars (bytes : List Nat) : List Char := bytes.map Char.ofNat
      let mut isFirst := true
      for file in if r.operands.isEmpty then ["-"] else r.operands do
        match ← read file with
        | .error u =>
          match u with
          | .opening e => complain name ("cannot open input file " ++ quote file ++ ": " ++ e.description)
          | .reading _ => complain name "unable to allocate buffer for input: Invalid argument"
          status := 1
        | .ok b =>
          let bytes := (charactersOf b).map Char.toNat
          let (begun, size) := source.begun bytes
          let (pieces, result, wasOmitted) := v.run begun (bytes.length + 1) size [] (bytes.drop size)
          let opening := if isFirst && !bytes.isEmpty then target.opening else []
          isFirst := isFirst && bytes.isEmpty
          let text := chars (opening ++ pieces.reverse.flatten)
          match output? with
          | some _ => done := done ++ text
          | none =>
            let _ ← put (toBytes text)
          match result with
          | .whole =>
            if wasOmitted && !has r.options "c" then
              complain name ("illegal input sequence at position " ++ toString bytes.length)
              status := 1
          | .stopped place =>
            complain name ("illegal input sequence at position " ++ toString place)
            status := 1
          | .incomplete =>
            complain name "incomplete character or shift sequence at end of buffer"
            status := 1
          if result ≠ .whole then break
      if let some file := output? then
        if let some e ← writeText file done then
          complain name ("unable to open output file: " ++ e.description)
          status := 1
      return status
    | source?, target? =>
      complain name (match source?, target? with
        | none, none =>
          "conversions from " ++ shown "f" sourceName ++ " and to " ++ shown "t" targetName ++ " are not supported"
        | none, _ => "conversion from " ++ shown "f" sourceName ++ " is not supported"
        | _, _ => "conversion to " ++ shown "t" targetName ++ " is not supported")
      hint
      return 1

end Utility

end AddonAtlas.Shell
