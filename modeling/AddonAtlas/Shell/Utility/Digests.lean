import AddonAtlas.Checksum
import AddonAtlas.Shell.Utility.Basic

/-!
# Programs that write checksums

The checksum of each file stands in a line with the file's name, in one of two forms. Such lines can be read
back, to tell whether the files still have these checksums.
-/

namespace AddonAtlas.Shell

namespace Utility

open Shell.Action

namespace Digests

/-- How a checksum is found. -/
inductive Method
  | digest (name : String) (size : Nat) (find : List UInt8 → List UInt8)
  | cyclic
  | rotated
  | folded

namespace Method

/-- The digest by BLAKE2 with so many binary digits. -/
def blake (length : Nat) : Method :=
  .digest (if length = 512 then "BLAKE2b" else "BLAKE2b-" ++ toString length) (length / 8) (Checksum.blake2b (length / 8))

/-- The methods that find digests, by their short names. -/
def digests : List (String × Method) :=
  [("md5", .digest "MD5" 16 Checksum.md5), ("sha1", .digest "SHA1" 20 Checksum.sha1),
    ("sha224", .digest "SHA224" 28 Checksum.sha224.digest), ("sha256", .digest "SHA256" 32 Checksum.sha256.digest),
    ("sha384", .digest "SHA384" 48 Checksum.sha384.digest), ("sha512", .digest "SHA512" 64 Checksum.sha512.digest),
    ("blake2b", .blake 512)]

/-- All methods, by their short names. -/
def all : List (String × Method) :=
  ("bsd", .rotated) :: ("sysv", .folded) :: ("crc", .cyclic) :: digests

end Method

/-- The hexadecimal digits of bytes. -/
def hexadecimal (bs : List UInt8) : List Char :=
  bs.flatMap fun b => [Nat.digitChar (b.toNat / 16), Nat.digitChar (b.toNat % 16)]

/-- Whether a name cannot stand in a line as it is. -/
def isProblematic (name : List Char) : Bool :=
  name.any fun c => c == '\\' || c == '\n' || c == '\r'

/-- A name as it stands in a line that begins with a backslash. -/
def escaped (name : List Char) : List Char :=
  name.flatMap fun c =>
    if c = '\\' then ['\\', '\\'] else if c = '\n' then ['\\', 'n'] else if c = '\r' then ['\\', 'r'] else [c]

/-- The name that is written with backslashes; nothing if they stand wrong. -/
def unescaped : List Char → Option (List Char)
  | [] => some []
  | '\\' :: '\\' :: rest => (unescaped rest).map ('\\' :: ·)
  | '\\' :: 'n' :: rest => (unescaped rest).map ('\n' :: ·)
  | '\\' :: 'r' :: rest => (unescaped rest).map ('\r' :: ·)
  | c :: rest => if c = '\\' || c = '\x00' then none else (unescaped rest).map (c :: ·)

/-- How lines are written. -/
structure Form where
  isTagged : Bool := false
  isBinary : Bool := false
  ending : Char := '\n'
  isRaw : Bool := false

/-- The line for a file, and what of it is written. -/
def line (m : Method) (f : Form) (name : Option String) (content : List UInt8) : List Char :=
  let shown := (name.map fun s => ' ' :: s.toList).getD []
  let blocks (size : Nat) : Nat := (content.length + size - 1) / size
  match m with
  | .cyclic => (toString (Checksum.cyclic content) ++ " " ++ toString content.length).toList ++ shown ++ [f.ending]
  | .rotated =>
    let digits := (toString (Checksum.rotatedSum content)).toList
    List.replicate (5 - digits.length) '0' ++ digits ++ ' ' :: filledNumber 5 (blocks 1024) ++ shown ++ [f.ending]
  | .folded =>
    (toString (Checksum.foldedSum content) ++ " " ++ toString (blocks 512)).toList ++ shown ++ [f.ending]
  | .digest tag _ find =>
    let found := find content
    if f.isRaw then found.map fun b => Char.ofNat b.toNat
    else
      let name := (name.getD "-").toList
      let isEscaped := f.ending = '\n' && isProblematic name
      let name := if isEscaped then escaped name else name
      let digits := hexadecimal found
      (if isEscaped then ['\\'] else []) ++
        (if f.isTagged then tag.toList ++ ' ' :: '(' :: name ++ ')' :: ' ' :: '=' :: ' ' :: digits
        else digits ++ ' ' :: (if f.isBinary then '*' else ' ') :: name) ++ [f.ending]

/-! ## Reading lines back -/

def isHexadecimal (c : Char) : Bool :=
  isDigit c || ('a' ≤ c && c ≤ 'f') || ('A' ≤ c && c ≤ 'F')

/-- The method, the digits and the file's name in a line of which the tag is one of some methods'. -/
def readTagged (methods : List Method) (cs : List Char) : Option (Method × List Char × List Char) :=
  methods.findSome? fun m =>
    match m with
    | .digest tag size _ =>
      let (m, tag, size, cs) :=
        let behind := cs.drop (tag.length + 1)
        let ds := behind.takeWhile isDigit
        if tag = "BLAKE2b" && (tag ++ "-").toList.isPrefixOf cs && !ds.isEmpty then
          let length := (Arithmetic.digitsOf 10 ds).1
          (Method.blake length, "", length / 8, behind.drop ds.length)
        else (m, tag, size, cs)
      if !tag.toList.isPrefixOf cs then none
      else
        let rest := cs.drop tag.length
        let rest := if rest.head? = some ' ' then rest.drop 1 else rest
        match rest with
        | '(' :: rest =>
          let back := rest.reverse
          let tail := back.takeWhile (· != ')')
          let name := (back.drop (tail.length + 1)).reverse
          let isBlank (c : Char) : Bool := c == ' ' || c == '\t'
          match tail.reverse.dropWhile isBlank with
          | '=' :: digits =>
            let digits := digits.dropWhile isBlank
            if tail.length < back.length && digits.length = 2 * size && digits.all isHexadecimal then
              some (m, digits, name)
            else none
          | _ => none
        | _ => none
    | _ => none

/-- The digits and the file's name in a line without a tag, for a digest of a size. -/
def readPlain (size : Nat) (cs : List Char) : Option (List Char × List Char) :=
  let digits := cs.takeWhile isHexadecimal
  match cs.drop digits.length with
  | ' ' :: rest =>
    if digits.length ≠ 2 * size then none
    else
      match rest with
      | ' ' :: name | '*' :: name => if name.isEmpty then none else some (digits, name)
      | _ => if rest.isEmpty then none else some (digits, rest)
  | _ => none

/-- The method, the digits and the file's name in a line. -/
def readLine (tagged : List Method) (plain : Option Method) (l : Line) : Option (Method × List Char × String) :=
  let cs := l.dropWhile fun c => c == ' ' || c == '\t'
  let isEscaped := cs.head? = some '\\'
  let cs := if isEscaped then cs.drop 1 else cs
  let found :=
    match readTagged tagged cs, plain with
    | some found, _ => some found
    | none, some m =>
      match m with
      | .digest _ size _ => (readPlain size cs).map fun (digits, name) => (m, digits, name)
      | _ => none
    | none, none => none
  found.bind fun (m, digits, name) =>
    if isEscaped then (unescaped name).map fun name => (m, digits, String.ofList name)
    else some (m, digits, String.ofList name)

/-- How checksums are checked. -/
structure Check where
  isSilent : Bool
  isQuiet : Bool
  warns : Bool
  isStrict : Bool
  ignoresMissing : Bool

/-- A number of things, with the words for one and for several. -/
def counted (n : Nat) (one several : String) : String :=
  toString n ++ " " ++ (if n = 1 then one else several)

/-- Checks the files that one file lists; whether all is well. -/
def check (name : String) (c : Check) (tagged : List Method) (plain : Option Method) (file : String) :
    Action Bool := do
  match ← Utility.read file with
  | .error u =>
    complain name (Quotation.forShell file ++ ": " ++ (match u with
      | .opening e => e.description
      | .reading _ => "read error"))
    return false
  | .ok b =>
    let title := if file = "-" then "standard input" else Quotation.forShell file
    let mut output : List Char := []
    let mut wrong := 0
    let mut right := 0
    let mut different := 0
    let mut unread := 0
    let mut same := 0
    for (l, i) in (bareLines '\n' (charactersOf b)).zipIdx do
      if l.head? = some '#' || l.isEmpty then pure ()
      else
        match readLine tagged plain l with
        | none =>
          wrong := wrong + 1
          if c.warns then
            let kind :=
              match plain with
              | some (.digest tag _ _) => tag ++ " "
              | _ => ""
            complain name (title ++ ": " ++ toString (i + 1) ++ ": improperly formatted " ++ kind ++ "checksum line")
        | some (m, digits, listed) =>
          right := right + 1
          let cs := listed.toList
          let shown := if isProblematic cs then '\\' :: escaped cs else cs
          match ← Utility.read listed with
          | .error u =>
            if c.ignoresMissing && u.errno = .noEntry then pure ()
            else
              complain name (Quotation.forShell listed ++ ": " ++ u.description)
              unread := unread + 1
              if !c.isSilent then output := output ++ shown ++ ": FAILED open or read\n".toList
          | .ok content =>
            let found :=
              match m with
              | .digest _ _ find => hexadecimal (find content.toList)
              | _ => []
            if found == digits.map Char.toLower then
              same := same + 1
              if !c.isSilent && !c.isQuiet then output := output ++ shown ++ ": OK\n".toList
            else
              different := different + 1
              if !c.isSilent then output := output ++ shown ++ ": FAILED\n".toList
    let _ ← finish name 1 output 0
    if right = 0 then complain name (title ++ ": no properly formatted checksum lines found")
    else if !c.isSilent then
      if 0 < wrong then
        complain name ("WARNING: " ++ counted wrong "line is improperly formatted" "lines are improperly formatted")
      if 0 < unread then
        complain name ("WARNING: " ++ counted unread "listed file could not be read" "listed files could not be read")
      if 0 < different then
        complain name ("WARNING: " ++
          counted different "computed checksum did NOT match" "computed checksums did NOT match")
      if c.ignoresMissing && same = 0 then complain name (title ++ ": no file was verified")
    return right ≠ 0 && different = 0 && unread = 0 && (!c.isStrict || wrong = 0) && (!c.ignoresMissing || same ≠ 0)

/-- Writes the lines of files; whether all can be read. -/
def writeLines (name : String) (m : Method) (f : Form) (files : List String) : Action Nat := do
  let mut status := 0
  for file in if files.isEmpty then ["-"] else files do
    match ← Utility.read file with
    | .error u =>
      complain name (plainRefusal file u)
      status := 1
    | .ok b =>
      let r ← finish name 1 (line m f (if files.isEmpty then none else some file) b.toList) 0
      status := max status r
  return status

/-- The names of the options that all have. -/
def longOptions : List (String × String) :=
  [("binary", "b"), ("check", "c"), ("ignore-missing", "ignore-missing"), ("quiet", "quiet"), ("status", "status"),
    ("text", "t"), ("warn", "w"), ("strict", "strict"), ("tag", "tag"), ("zero", "z")]

/-- Why options do not go with each other. -/
def conflict? (given : List Options.Given) : Option String :=
  let only := " option is meaningful only when verifying checksums"
  if has given "c" then
    if has given "tag" then some "the --tag option is meaningless when verifying checksums"
    else if has given "z" then some "the --zero option is not supported when verifying checksums"
    else if has given "b" || has given "t" then
      some "the --binary and --text options are meaningless when verifying checksums"
    else none
  else
    if has given "tag" && (last? given ["b", "t"]).any (·.option = "t") then
      some "--tag does not support --text mode"
    else
      ([("ignore-missing", "ignore-missing"), ("status", "status"), ("w", "warn"), ("quiet", "quiet"),
        ("strict", "strict")].find? fun o => has given o.1).map fun o => "the --" ++ o.2 ++ only

/-- Does what options ask for with a method. -/
def run (name : String) (m : Method) (tagged : List Method) (plain : Option Method) (f : Form)
    (given : List Options.Given) (files : List String) : Action Nat := do
  match conflict? given with
  | some message => misuse name message 1
  | none =>
    if has given "c" then
      let c : Check :=
        ⟨has given "status", has given "quiet", has given "w", has given "strict", has given "ignore-missing"⟩
      let mut status := 0
      for file in if files.isEmpty then ["-"] else files do
        if !(← check name c tagged plain file) then status := 1
      return status
    else writeLines name m f files

/-- The size of a digest that an option asks for. -/
def lengthOf (given : List Options.Given) : Except (List String) Nat :=
  match value? given "l" with
  | none => .ok 512
  | some s =>
    match natural? s.toList with
    | none => .error ["invalid length: " ++ Quotation.quoted s]
    | some n =>
      if 512 < n then
        .error ["invalid length: " ++ Quotation.quoted s,
          "maximum digest length for " ++ Quotation.quoted "BLAKE2b" ++ " is 512 bits"]
      else if n % 8 ≠ 0 then
        .error ["invalid length: " ++ Quotation.quoted s, "length is not a multiple of 8"]
      else .ok (if n = 0 then 512 else n)

end Digests

open Digests in
/-- Writes or checks digests by one method. -/
def digests (method name : String) (arguments : List String) : Action Nat :=
  let hasLength := method = "blake2b"
  let t := Options.Table.of (if hasLength then "bcl:twz" else "bctwz")
    (longOptions ++ if hasLength then [("length=", "l")] else [])
  withOptions name t true 1 arguments fun given files => do
    match lengthOf given, (Method.digests.find? fun m => m.1 = method).map (·.2) with
    | .error messages, _ =>
      for m in messages do complain name m
      return 1
    | _, none => return 0
    | .ok length, some m =>
      let m := if hasLength then Method.blake length else m
      let f : Form :=
        { isTagged := has given "tag"
          isBinary := (last? given ["b", "t"]).any (·.option = "b")
          ending := lineEnd given }
      run name m [m] (some m) f given files

open Digests in
/-- Writes or checks checksums by a method that an option names. -/
def checksums (name : String) (arguments : List String) : Action Nat :=
  let t := Options.Table.of "a:bcl:twz" (longOptions ++ [("algorithm=", "a"), ("length=", "l"), ("untagged", "untagged"),
    ("raw", "raw"), ("debug", "debug")])
  withOptions name t true 1 arguments fun given files => do
    let asked := (value? given "a").getD "crc"
    match Method.all.find? fun m => m.1 = asked with
    | none =>
      complain name ("invalid argument " ++ Quotation.quoted asked ++ " for '--algorithm'")
      say "Valid arguments are:\n"
      for m in ["bsd", "sysv", "crc", "md5", "sha1", "sha224", "sha256", "sha384", "sha512", "blake2b", "sm3"] do
        say ("  - '" ++ m ++ "'\n")
      hint name 1
    | some (_, m) =>
      if has given "l" && asked ≠ "blake2b" then
        giveUp name "--length is only supported with --algorithm=blake2b" 1
      else
        match lengthOf given with
        | .error messages =>
          for m in messages do complain name m
          return 1
        | .ok length =>
          let m := if has given "l" then Method.blake length else m
          let f : Form :=
            { isTagged := (last? given ["tag", "untagged"]).all (·.option = "tag")
              isBinary := has given "b"
              ending := lineEnd given
              isRaw := has given "raw" }
          let given := given.filter fun g => g.option ≠ "tag" || has given "c"
          run name m (Method.digests.map (·.2)) (if has given "a" then some m else none) f given files

open Digests in
/-- Writes small sums with the numbers of blocks. -/
def sums (name : String) (arguments : List String) : Action Nat :=
  withOptions name (Options.Table.of "rs" [("sysv", "s")]) true 1 arguments fun given files =>
    let isFolded := (last? given ["r", "s"]).any (·.option = "s")
    writeLines name (if isFolded then .folded else .rotated) {} files

end Utility

end AddonAtlas.Shell
