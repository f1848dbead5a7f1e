import AddonAtlas.Shell.Expression.Reading
import AddonAtlas.Shell.Utility.Basic
import AddonAtlas.Text.Base64

/-!
# Programs that show files

Programs that write out what is in files, whole or in part, from the front or from behind, with numbers, or
byte by byte.
-/

namespace AddonAtlas.Shell

namespace Utility

open Shell.Action

/-! ## Whole files -/

/-- A character of a byte as it is shown: control characters behind `^`, the upper half behind `M-`. -/
def visible (c : Char) : List Char :=
  let n := c.toNat
  if n < 32 then ['^', Char.ofNat (n + 64)]
  else if n < 127 then [c]
  else if n = 127 then ['^', '?']
  else if n < 160 then ['M', '-', '^', Char.ofNat (n - 64)]
  else if n < 255 then ['M', '-', Char.ofNat (n - 128)]
  else ['M', '-', '^', '?']

/-- How `cat` shows lines. -/
structure LineView where
  numbersAll : Bool
  numbersFilled : Bool
  squeezes : Bool
  showsEnds : Bool
  showsTabs : Bool
  showsControls : Bool

namespace LineView

/-- A line without what stands in front of it. -/
def body (v : LineView) (l : Line) : List Char :=
  let isOver := l.getLast? = some '\n'
  let text := bare '\n' l
  let endsReturn := v.showsEnds && !v.showsControls && isOver && text.getLast? = some '\r'
  let text := if endsReturn then text.dropLast else text
  let shown := text.flatMap fun c =>
    if c = '\t' then (if v.showsTabs then ['^', 'I'] else [c])
    else if v.showsControls then visible c
    else [c]
  shown ++ (if endsReturn then ['^', 'M'] else []) ++
    (if isOver then (if v.showsEnds then ['$', '\n'] else ['\n']) else [])

/-- Lines as they are shown; `number` is that of the next one, `blanks` tells how many lines before were
blank. -/
def lines (v : LineView) : (number blanks : Nat) → List Line → List Char
  | _, _, [] => []
  | number, blanks, l :: rest =>
    let isBlank := l = ['\n']
    if isBlank && v.squeezes && 0 < blanks then lines v number (blanks + 1) rest
    else
      let isNumbered := v.numbersAll || (v.numbersFilled && !isBlank)
      let front := if isNumbered then filledNumber 6 number ++ ['\t'] else []
      front ++ v.body l ++
        lines v (if isNumbered then number + 1 else number) (if isBlank then blanks + 1 else 0) rest

end LineView

def catOptions : Options.Table :=
  .of "AbeEnstTuv" [("show-all", "A"), ("number-nonblank", "b"), ("show-ends", "E"), ("number", "n"),
    ("squeeze-blank", "s"), ("show-tabs", "T"), ("show-nonprinting", "v")]

/-- The file that standard output is written to. -/
def outputPlace? (m : Machine) : Option Location :=
  match (m.openFile? 1).bind (·.sink) with
  | some (.file place _) => some place
  | _ => none

def concatenate (name : String) (arguments : List String) : Action Nat :=
  withOptions name catOptions true 1 arguments fun given files => do
    if ((← get).openFile? 1).isNone then return ← giveUp name "standard output: Bad file descriptor" 1
    let has := has given
    let view : LineView :=
      { numbersAll := has "n" && !has "b"
        numbersFilled := has "b"
        squeezes := has "s"
        showsEnds := has "E" || has "e" || has "A"
        showsTabs := has "T" || has "t" || has "A"
        showsControls := has "v" || has "e" || has "t" || has "A" }
    let m ← get
    let isOutput (file : String) : Bool :=
      match m.find? file with
      | some (.file place size _) => outputPlace? m = some place && 0 < size
      | _ => false
    let mut texts : List Bytes := []
    let mut status := 0
    for file in if files.isEmpty then ["-"] else files do
      if file ≠ "-" && isOutput file then
        complain name (Quotation.forShell file ++ ": input file is output file")
        status := 1
      else
        match ← read file with
        | .ok b => texts := b :: texts
        | .error u =>
          complain name (plainRefusal file u)
          status := 1
    let all := Bytes.concat texts.reverse
    if given.all fun g => g.option = "u" then
      let fault? ← if all.isEmpty then pure none else put? all
      match fault? with
      | none => return status
      | some e => giveUp name ("write error: " ++ e.description) 1
    else finish name 1 (view.lines 1 0 (linesOf '\n' (charactersOf all))) status

/-- Cuts a text behind, or in front of, each place where a separator stands. -/
def recordsOf (separator : List Char) (inFront : Bool) (cs : List Char) : List Line :=
  go [] [] (cs.length + 1) cs
where
  /-- Goes on from a record that is being read, the last character first. -/
  go (done : List Line) (current : Line) : (fuel : Nat) → List Char → List Line
    | 0, _ => done.reverse
    | _ + 1, [] => (if current.isEmpty then done else current.reverse :: done).reverse
    | fuel + 1, c :: cs =>
      if separator.isPrefixOf (c :: cs) then
        let rest := (c :: cs).drop separator.length
        if inFront then
          go (if current.isEmpty then done else current.reverse :: done) separator.reverse fuel rest
        else go ((separator.reverse ++ current).reverse :: done) [] fuel rest
      else go done (c :: current) fuel cs

/-- Writes files from the last line on to the first one. -/
def reverseLines (name : String) (arguments : List String) : Action Nat :=
  let t := Options.Table.of "brs:" [("before", "b"), ("regex", "r"), ("separator=", "s")]
  withOptions name t true 1 arguments fun given files => do
    let refusal (file : String) (u : Unreadable) : String :=
      match u with
      | .opening e => "failed to open " ++ Quotation.inShellQuotes file ++ " for reading: " ++ e.description
      | .reading e => Quotation.forShell file ++ ": read error: " ++ e.description
    let separator := ((value? given "s").map String.toList).getD ['\n']
    let separator := if separator.isEmpty then ['\x00'] else separator
    let (texts, status) ← readAll name 1 refusal files
    let turned := texts.map fun (_, cs) => (recordsOf separator (has given "b") cs).reverse.flatten
    finish name 1 turned.flatten status

/-- Turns lines around. -/
def mirrorLines (name : String) (arguments : List String) : Action Nat :=
  withOptions name (.of "" []) true 1 arguments fun _ files => do
    let refusal (file : String) (u : Unreadable) : String := "cannot open " ++ file ++ ": " ++ u.description
    let (texts, status) ← readAll name 1 refusal files
    let turned := (linesOf '\n' (texts.flatMap (·.2))).map fun l =>
      (bare '\n' l).reverse ++ (if l.getLast? = some '\n' then ['\n'] else [])
    finish name 1 turned.flatten status

/-! ## Parts of files -/

/-- A number of lines or bytes, which may be counted from the other end. -/
structure Count where
  ofBytes : Bool
  isOpposite : Bool
  amount : Nat

namespace Count

/-- How much of a text is at its beginning. Counted from the other end, it is what is not at the end. -/
def headLength (n : Count) (ending : Char) (cs : List Char) : Nat :=
  if n.ofBytes then (if n.isOpposite then cs.length - n.amount else min n.amount cs.length)
  else
    let lines := linesOf ending cs
    ((lines.take (if n.isOpposite then lines.length - n.amount else n.amount)).map List.length).sum

/-- The end of a text. Counted from the other end, it begins with the line, or the byte, of a number. -/
def tail (n : Count) (ending : Char) (cs : List Char) : List Char :=
  if n.ofBytes then cs.drop (if n.isOpposite then n.amount - 1 else cs.length - n.amount)
  else
    let lines := linesOf ending cs
    (lines.drop (if n.isOpposite then n.amount - 1 else lines.length - n.amount)).flatten

end Count

/-- The old way to give a number: behind a hyphen, with letters behind it. -/
def oldCount? (a : String) : Option (List String) :=
  match a.toList with
  | '-' :: cs =>
    let ds := cs.takeWhile isDigit
    if ds.isEmpty then none
    else
      let letters := cs.drop ds.length
      let kept := letters.filter fun c => ['q', 'v', 'z'].contains c
      let unit := letters.filter fun c => ['b', 'k', 'm'].contains c
      let byBytes := letters.any fun c => ['b', 'c', 'k', 'm'].contains c
      if letters.all fun c => ['b', 'c', 'k', 'l', 'm', 'q', 'v', 'z'].contains c then
        some ((if byBytes then "-c" else "-n") :: String.ofList (ds ++ unit) ::
          kept.map fun c => String.ofList ['-', c])
      else none
  | _ => none

def partOptions (more : String) (names : List (String × String)) : Options.Table :=
  .of ("c:n:qvz" ++ more) ([("bytes=", "c"), ("lines=", "n"), ("quiet", "q"), ("silent", "q"),
    ("verbose", "v"), ("zero-terminated", "z")] ++ names)

/-- The count that options ask for, or what is wrong with it. -/
def countOf (opposite : Char) (given : List Options.Given) : Except String Count :=
  match last? given ["c", "n"] with
  | none => .ok ⟨false, false, 10⟩
  | some g =>
    let s := g.value.getD ""
    let (isOpposite, digits) :=
      match s.toList with
      | c :: rest =>
        if c = opposite then (true, rest)
        else if opposite = '+' && c = '-' then (false, rest)
        else (false, c :: rest)
      | [] => (false, [])
    match amount? digits with
    | some n => .ok ⟨g.option = "c", isOpposite, n⟩
    | none =>
      let shown := if opposite = '-' && isOpposite then String.ofList digits else s
      .error ("invalid number of " ++ (if g.option = "c" then "bytes" else "lines") ++ ": " ++
        Quotation.quoted shown)

/-- The title of a file among others. -/
def title (isFirst : Bool) (file : String) : List Char :=
  ((if isFirst then "" else "\n") ++ "==> " ++ (if file = "-" then "standard input" else file) ++
    " <==\n").toList

/-- How many bytes are read at a time from what gives nothing back. -/
def readSize : Nat := 8192

/-- Shows the first or the last part of files. What a program takes from standard input in vain it gives back
if it can. -/
def showParts (name : String) (isHead : Bool) (count : Count) (given : List Options.Given)
    (files : List String) : Action Nat := do
  let hasTitles : Bool :=
    match last? given ["q", "v"] with
    | some g => g.option = "v"
    | none => 1 < files.length
  let ending := lineEnd given
  let mut shown : List (List Char) := []
  let mut status := 0
  for file in if files.isEmpty then ["-"] else files do
    let isInput := file = "-"
    let shownName := if isInput then "standard input" else file
    match ← read file with
    | .error (.opening e) =>
      complain name ("cannot open " ++ Quotation.inShellQuotes shownName ++ " for reading: " ++ e.description)
      status := 1
    | .error (.reading e) =>
      if hasTitles then shown := title shown.isEmpty file :: shown
      complain name ("error reading " ++ Quotation.inShellQuotes shownName ++ ": " ++ e.description)
      status := 1
    | .ok b =>
      let cs := charactersOf b
      if hasTitles then shown := title shown.isEmpty file :: shown
      if isHead then
        let length := count.headLength ending cs
        shown := cs.take length :: shown
        if isInput then
          let m ← get
          let taken :=
            if m.isInputSeekable || count.ofBytes then length
            else (length + readSize - 1) / readSize * readSize
          if !count.isOpposite then MonadState.set (m.returnInput (b.drop taken))
      else shown := count.tail ending cs :: shown
  finish name 1 shown.reverse.flatten status

def head (name : String) (arguments : List String) : Action Nat :=
  let arguments :=
    match arguments with
    | a :: rest => ((oldCount? a).map (· ++ rest)).getD arguments
    | [] => []
  withOptions name (partOptions "" []) true 1 arguments fun given files =>
    match countOf '-' given with
    | .error message => giveUp name message 1
    | .ok count => showParts name true count given files

/-- The old way to tell where the end of a file begins. -/
def oldStart? (a : String) : Option (List String) :=
  let (sign, cs) :=
    match a.toList with
    | '+' :: cs => ("+", cs)
    | '-' :: cs => ("-", cs)
    | cs => ("", cs)
  let ds := cs.takeWhile isDigit
  let letters := (cs.drop ds.length).filter (· ≠ 'f')
  if sign = "" || (sign = "-" && ds.isEmpty) then none
  else
    let number := if ds.isEmpty then "10" else String.ofList ds
    match letters with
    | [] | ['l'] => some ["-n", sign ++ number]
    | ['c'] => some ["-c", sign ++ number]
    | ['b'] => some ["-c", sign ++ number ++ "b"]
    | _ => none

def tail (name : String) (arguments : List String) : Action Nat :=
  let arguments :=
    match arguments with
    | a :: rest =>
      if rest.length ≤ 1 then ((oldStart? a).map (· ++ rest)).getD arguments else arguments
    | [] => []
  let t := partOptions "fFs:" [("follow?", "f"), ("retry", "F"), ("sleep-interval=", "s"), ("pid=", "p")]
  withOptions name t true 1 arguments fun given files =>
    match countOf '+' given with
    | .error message => giveUp name message 1
    | .ok count => showParts name false count given files

/-! ## Counts -/

/-- The lines, words, characters and bytes of a text, and the width of its longest line. -/
structure Measure where
  lines : Nat
  words : Nat
  bytes : Nat
  longest : Nat

namespace Measure

/-- Measures a text. Only what can be printed makes a word. -/
def of (cs : List Char) : Measure :=
  let (m, inWord, width) := cs.foldl (fun ((m : Measure), inWord, width) c =>
    let m := { m with bytes := m.bytes + 1 }
    let ended := { m with words := if inWord then m.words + 1 else m.words }
    let closed := { ended with longest := max ended.longest width }
    if c = '\n' then ({ closed with lines := closed.lines + 1 }, false, 0)
    else if c = '\r' || c = '\x0c' then (closed, false, 0)
    else if c = '\t' then (ended, false, width + 8 - width % 8)
    else if c = ' ' then (ended, false, width + 1)
    else if c = '\x0b' then (ended, false, width)
    else if Quotation.isPrintable c then (m, true, width + 1)
    else (m, inWord, width)) (⟨0, 0, 0, 0⟩, false, 0)
  { m with words := if inWord then m.words + 1 else m.words, longest := max m.longest width }

def add (a b : Measure) : Measure :=
  ⟨a.lines + b.lines, a.words + b.words, a.bytes + b.bytes, max a.longest b.longest⟩

/-- The counts that options ask for, in their order. -/
def counts (m : Measure) (asked : List String) : List Nat :=
  (["l", "w", "m", "c", "L"].filter asked.contains).map fun o =>
    match o with
    | "l" => m.lines
    | "w" => m.words
    | "L" => m.longest
    | _ => m.bytes

end Measure

def countAll (name : String) (arguments : List String) : Action Nat :=
  let t := Options.Table.of "clLmw" [("bytes", "c"), ("chars", "m"), ("lines", "l"), ("words", "w"),
    ("max-line-length", "L"), ("files0-from=", "files")]
  withOptions name t true 1 arguments fun given files => do
    let asked := if given.isEmpty then ["l", "w", "c"] else given.map (·.option)
    let single := (["l", "w", "m", "c", "L"].filter asked.contains).length = 1
    let m ← get
    /- The size of a file, if it is there and has one. -/
    let size? (file : String) : Option (Option Nat) :=
      if file = "-" then
        some (if m.isInputSeekable then (m.openFile? 0).bind fun f => f.unread.map Bytes.size else none)
      else
        match m.find? file with
        | some (.file _ size _) => some (some size)
        | some _ => some none
        | none => none
    let named := if files.isEmpty then ["-"] else files
    let sizes := named.map size?
    let width :=
      if (named.length = 1 && single) || sizes.head?.join.isNone && sizes.head? = some none then 1
      else
        let total := ((sizes.filterMap id).filterMap id).sum
        max (toString total).length (if sizes.contains (some none) then 7 else 1)
    let mut rows : List (List Nat × String) := []
    let mut total : Measure := ⟨0, 0, 0, 0⟩
    let mut status := 0
    for file in named do
      let shown := if files.isEmpty then "" else " " ++ (if file.toList.contains '\n' then Quotation.forShell file else file)
      match ← read file with
      | .ok b =>
        let n := Measure.of (charactersOf b)
        rows := (n.counts asked, shown) :: rows
        total := total.add n
      | .error u =>
        complain name (plainRefusal file u)
        status := 1
        if let .reading _ := u then
          rows := ((⟨0, 0, 0, 0⟩ : Measure).counts asked, shown) :: rows
    let table := rows.reverse ++ (if named.length > 1 then [(total.counts asked, " total")] else [])
    let line (r : List Nat × String) : List Char :=
      (" ".intercalate (r.1.map fun n => String.ofList (filledNumber width n)) ++ r.2 ++ "\n").toList
    finish name 1 (table.flatMap line) status

/-! ## Numbered lines -/

/-- Which lines of a part of a page are numbered. -/
inductive Numbered
  | all
  | filled
  | none_
  | matching (e : Expression)

/-- The style that a text stands for. -/
def Numbered.of? (s : String) : Option Numbered :=
  match s.toList with
  | ['a'] => some .all
  | ['t'] => some .filled
  | ['n'] => some .none_
  | 'p' :: cs => (Expression.parse (Expression.searching false) cs).toOption.map .matching
  | _ => none

def Numbered.includes (n : Numbered) (l : Line) : Bool :=
  match n with
  | .all => true
  | .filled => !l.isEmpty
  | .none_ => false
  | .matching e => e.isIn (Expression.subject l)

/-- How lines are numbered. -/
structure Numbering where
  body : Numbered
  header : Numbered
  footer : Numbered
  first : Int
  step : Int
  width : Nat
  separator : String
  alignment : String
  joinsBlank : Nat
  restarts : Bool
  delimiter : List Char

namespace Numbering

/-- A number in front of a line. -/
def front (n : Numbering) (k : Int) : List Char :=
  let cs := (toString k).toList
  match n.alignment with
  | "ln" => cs ++ List.replicate (n.width - cs.length) ' '
  | "rz" =>
    if k < 0 then '-' :: List.replicate (n.width - cs.length) '0' ++ cs.drop 1
    else List.replicate (n.width - cs.length) '0' ++ cs
  | _ => Utility.filled n.width cs

/-- Lines with their numbers; `style` is that of the part of the page, `blanks` counts blank lines. -/
def lines (n : Numbering) : (style : Numbered) → (number : Int) → (blanks : Nat) → List Line → List Char
  | _, _, _, [] => []
  | style, number, blanks, l :: rest =>
    let d := n.delimiter
    let again := if n.restarts then n.first else number
    if !d.isEmpty && l = d ++ d ++ d then '\n' :: lines n n.header again 0 rest
    else if !d.isEmpty && l = d ++ d then '\n' :: lines n n.body again 0 rest
    else if !d.isEmpty && l = d then '\n' :: lines n n.footer again 0 rest
    else
      let counts :=
        match style with
        | .all => !l.isEmpty || n.joinsBlank ≤ blanks + 1
        | s => s.includes l
      let blanks := if l.isEmpty then (if counts then 0 else blanks + 1) else 0
      if counts then
        n.front number ++ n.separator.toList ++ l ++ '\n' :: lines n style (number + n.step) blanks rest
      else List.replicate (n.width + n.separator.length) ' ' ++ l ++ '\n' :: lines n style number blanks rest

end Numbering

def numberLines (name : String) (arguments : List String) : Action Nat :=
  let t := Options.Table.of "b:d:f:h:i:l:n:ps:v:w:" [("body-numbering=", "b"), ("section-delimiter=", "d"),
    ("footer-numbering=", "f"), ("header-numbering=", "h"), ("line-increment=", "i"),
    ("join-blank-lines=", "l"), ("number-format=", "n"), ("no-renumber", "p"), ("number-separator=", "s"),
    ("starting-line-number=", "v"), ("number-width=", "w")]
  withOptions name t true 1 arguments fun given files => do
    let style (o : String) (usual : Numbered) : Except String Numbered :=
      match value? given o with
      | none => .ok usual
      | some s =>
        match Numbered.of? s with
        | some n => .ok n
        | none =>
          let which := if o = "b" then "body" else if o = "h" then "header" else "footer"
          .error ("invalid " ++ which ++ " numbering style: " ++ Quotation.quoted s)
    let integer (o : String) (usual : Int) (what : String) : Except String Int :=
      match value? given o with
      | none => .ok usual
      | some s =>
        match Arithmetic.readInteger? (some 10) s with
        | some n => .ok n
        | none => .error ("invalid " ++ what ++ ": " ++ Quotation.quoted s)
    let delimiter :=
      match (value? given "d").map String.toList with
      | some [c] => [c, ':']
      | some cs => cs
      | none => ['\\', ':']
    let numbering : Except String Numbering := do
      return {
        body := ← style "b" .filled
        header := ← style "h" .none_
        footer := ← style "f" .none_
        first := ← integer "v" 1 "starting line number"
        step := ← integer "i" 1 "line number increment"
        width := (← integer "w" 6 "line number field width").toNat
        separator := (value? given "s").getD "\t"
        alignment := (value? given "n").getD "rn"
        joinsBlank := (← integer "l" 1 "line number of blank lines").toNat
        restarts := !has given "p"
        delimiter := delimiter }
    match numbering with
    | .error message => giveUp name message 1
    | .ok n =>
      let (cs, status) ← readText name 1 files
      finish name 1 (n.lines n.body n.first 0 (bareLines '\n' cs)) status

/-! ## Bytes -/

/-- How the bytes of a text are shown: as units of some bytes, each in a field of some width. -/
structure Dump where
  bytes : Nat
  width : Nat
  shown : List Char → List Char
  /-- Whether the characters stand at the end of each line too. -/
  withText : Bool

/-- The number that bytes are, the lowest one first. -/
def littleEndian (cs : List Char) : Nat :=
  cs.foldr (fun c n => n * 256 + c.toNat) 0

/-- The names of the characters that cannot be printed. -/
def controlNames : List String :=
  ["nul", "soh", "stx", "etx", "eot", "enq", "ack", "bel", "bs", "ht", "nl", "vt", "ff", "cr", "so", "si",
    "dle", "dc1", "dc2", "dc3", "dc4", "nak", "syn", "etb", "can", "em", "sub", "esc", "fs", "gs", "rs", "us",
    "sp"]

namespace Dump

def named : Dump :=
  ⟨1, 3, fun cs =>
    let n := (cs.headD ' ').toNat % 128
    if n = 127 then "del".toList else ((controlNames[n]?).map String.toList).getD [Char.ofNat n], false⟩

def characters : Dump :=
  ⟨1, 3, fun cs =>
    let c := cs.headD ' '
    if c = '\x00' then ['\\', '0']
    else
      match Quotation.escapeLetter? c with
      | some l => ['\\', l]
      | none => if Quotation.isPrintable c then [c] else Quotation.octal c, false⟩

/-- Units as numbers in a base. -/
def numbers (base bytes : Nat) (isSigned : Bool) : Dump :=
  let widths : List (Nat × List Nat) :=
    [(8, [3, 6, 11, 22]), (16, [2, 4, 8, 16]), (10, if isSigned then [4, 6, 11, 20] else [3, 5, 10, 20])]
  let place := if bytes = 1 then 0 else if bytes = 2 then 1 else if bytes = 4 then 2 else 3
  let width := ((widths.find? fun w => w.1 = base).bind fun w => w.2[place]?).getD 3
  ⟨bytes, width, fun cs =>
    let n := littleEndian cs
    if base = 10 then
      (toString (if isSigned && 2 ^ (8 * bytes - 1) ≤ n then (n : Int) - 2 ^ (8 * bytes) else (n : Int))).toList
    else
      let ds := Nat.toDigits base n
      List.replicate (width - ds.length) '0' ++ ds, false⟩

/-- The dumps that a text of letters and sizes asks for. -/
def ofText : (fuel : Nat) → List Char → Option (List Dump)
  | 0, _ => none
  | _ + 1, [] => some []
  | fuel + 1, c :: rest => do
    let ds := rest.takeWhile isDigit
    let after := rest.drop ds.length
    let (size, after) :=
      match ds, after with
      | [], 'C' :: after => (1, after)
      | [], 'S' :: after => (2, after)
      | [], 'I' :: after => (4, after)
      | [], 'L' :: after => (8, after)
      | [], after => (4, after)
      | ds, after => ((Arithmetic.digitsOf 10 ds).1, after)
    let (withText, after) :=
      match after with
      | 'z' :: after => (true, after)
      | after => (false, after)
    let sized (d : Dump) (after : List Char) : Option (List Dump) := do
      if !([1, 2, 4, 8].contains size) then none
      return { d with withText := withText } :: (← ofText fuel after)
    let plainText (d : Dump) : Option (List Dump) := do
      let (withText, after) :=
        match rest with
        | 'z' :: after => (true, after)
        | after => (false, after)
      return { d with withText := withText } :: (← ofText fuel after)
    match c with
    | 'a' => plainText named
    | 'c' => plainText characters
    | 'd' => sized (numbers 10 size true) after
    | 'o' => sized (numbers 8 size false) after
    | 'u' => sized (numbers 10 size false) after
    | 'x' => sized (numbers 16 size false) after
    | _ => none

/-- One line of a dump of some bytes, of which a whole line has `lineBytes` and is `width` wide. What is left
over in width is put in front of the units, the more the farther left. -/
def line (d : Dump) (width lineBytes : Nat) (cs : List Char) : List Char :=
  let units := chunks d.bytes cs
  let count := lineBytes / d.bytes
  let extra := width - d.width * count
  let body := units.zipIdx.flatMap fun (u, k) =>
    let u := u ++ List.replicate (d.bytes - u.length) '\x00'
    filled (d.width + extra * (count - k) / count - extra * (count - k - 1) / count) (d.shown u)
  let text :=
    if d.withText then
      let missing := count - units.length
      let blanks := missing * d.width + extra * missing / count
      List.replicate blanks ' ' ++ "  >".toList ++
        (cs.map fun c => if Quotation.isPrintable c then c else '.') ++ ['<']
    else []
  body ++ text

end Dump

/-- A number that may be octal or hexadecimal, with a unit behind it. -/
def offset? (s : String) : Option Nat :=
  let cs := s.toList
  let (n, rest) :=
    match cs with
    | '0' :: 'x' :: rest => Arithmetic.digitsOf 16 rest
    | '0' :: rest => Arithmetic.digitsOf 8 rest
    | cs => Arithmetic.digitsOf 10 cs
  if cs.isEmpty || !(cs.head?.any isDigit) then none else (unit? rest).map (n * ·)

/-- The lines of a dump. A line like the one before is left out, and a star stands for any number of these. -/
def dumpLines (dumps : List Dump) (showsAll : Bool) (lineBytes : Nat) (address : Nat → List Char) :
    (place : Nat) → (before : Option (List Char)) → (starred : Bool) → List (List Char) → List Char
  | place, _, _, [] => if (address place).isEmpty then [] else address place ++ ['\n']
  | place, before, starred, cs :: rest =>
    let next := place + cs.length
    if !showsAll && before = some cs && cs.length = lineBytes then
      (if starred then [] else ['*', '\n']) ++
        dumpLines dumps showsAll lineBytes address next before true rest
    else
      let width := dumps.foldl (fun w d => max w ((d.width + 1) * (lineBytes / d.bytes))) 0
      let shown := dumps.zipIdx.flatMap fun (d, i) =>
        let front := if i = 0 then address place else List.replicate (address place).length ' '
        front ++ d.line width lineBytes cs ++ ['\n']
      shown ++ dumpLines dumps showsAll lineBytes address next (some cs) false rest

def dump (name : String) (arguments : List String) : Action Nat :=
  let t := Options.Table.of "A:j:N:S::t:vw::abcdfilosx" [("address-radix=", "A"), ("skip-bytes=", "j"),
    ("read-bytes=", "N"), ("format=", "t"), ("output-duplicates", "v"), ("width?", "w")]
  withOptions name t true 1 arguments fun given files => do
    let kinds : List (String × String) :=
      [("a", "a"), ("b", "o1"), ("c", "c"), ("d", "u2"), ("i", "dI"), ("l", "dL"), ("o", "o2"), ("s", "d2"),
        ("x", "x2")]
    let asked := given.filterMap fun g =>
      if g.option = "t" then g.value else (kinds.find? fun k => k.1 = g.option).map (·.2)
    let asked := if asked.isEmpty then ["oS"] else asked
    match asked.find? fun a => (Dump.ofText (a.length + 1) a.toList).isNone with
    | some bad => giveUp name ("invalid type string " ++ Quotation.quoted bad) 1
    | none =>
      let dumps := (asked.filterMap fun a => Dump.ofText (a.length + 1) a.toList).flatten
      let (texts, status) ← readAll name 1 plainRefusal files
      let skip := ((value? given "j").bind offset?).getD 0
      let cs := (texts.flatMap (·.2)).drop skip
      let cs :=
        match (value? given "N").bind offset? with
        | some n => cs.take n
        | none => cs
      let least := dumps.foldl (fun n d => Nat.lcm n d.bytes) 1
      let lineBytes :=
        match last? given ["w"] with
        | some g => (g.value.bind fun s => natural? s.toList).getD 32
        | none => 16 / least * least
      let address (n : Nat) : List Char :=
        let digits (base width : Nat) : List Char :=
          let ds := Nat.toDigits base n
          List.replicate (width - ds.length) '0' ++ ds
        match value? given "A" with
        | some "n" => []
        | some "d" => digits 10 7
        | some "x" => digits 16 6
        | _ => digits 8 7
      finish name 1
        (dumpLines dumps (has given "v") lineBytes address skip none false (chunks lineBytes cs)) status

/-! ## Base 64 -/

/-- Characters in lines of some width; zero puts them into one line without an end. -/
def inLines (width : Nat) (cs : List Char) : List Char :=
  if width = 0 then cs else (chunks width cs).flatMap fun l => l ++ ['\n']

def base64 (name : String) (arguments : List String) : Action Nat :=
  let t := Options.Table.of "diw:" [("decode", "d"), ("ignore-garbage", "i"), ("wrap=", "w")]
  withOptions name t true 1 arguments fun given files => do
    match value? given "w" |>.map fun s => (s, natural? s.toList) with
    | some (s, none) => giveUp name ("invalid wrap size: " ++ Quotation.quoted s) 1
    | wrap =>
      match files with
      | _ :: extra :: _ => misuse name ("extra operand " ++ Quotation.quoted extra) 1
      | _ =>
        let file := files.headD "-"
        match ← read file with
        | .error (.opening e) => giveUp name (plainRefusal file (.opening e)) 1
        | .error (.reading e) => giveUp name ("read error: " ++ e.description) 1
        | .ok b =>
          if has given "d" then
            let cs := (charactersOf b).filter (· ≠ '\n')
            let isKnown (c : Char) : Bool := (Text.sixBits? c).isSome || c = '='
            let cs := if has given "i" then cs.filter isKnown else cs
            let (bytes, isWhole) := Text.decodedBase64 cs
            let status ← finish name 1 (bytes.map fun x => Char.ofNat x.toNat) 0
            if isWhole then return status else giveUp name "invalid input" 1
          else
            finish name 1 (inLines ((wrap.bind (·.2)).getD 76) (Text.base64 b.toList)) 0

/-! ## Pages -/

/-- Shows files with their names above them, or standard input. Without a screen there is nothing to wait for. -/
def showPages (name : String) (arguments : List String) : Action Nat := do
  let isNumber (a : String) : Bool :=
    match a.toList with
    | '-' :: d :: ds => (d :: ds).all isDigit
    | '+' :: _ => true
    | _ => false
  withOptions name (.of "dflpcsun:eVh" [("silent", "d"), ("logical", "f"), ("no-pause", "l"), ("print-over", "p"),
    ("clean-print", "c"), ("squeeze", "s"), ("plain", "u"), ("lines=", "n"), ("exit-on-eof", "e"), ("help", "help"),
    ("version", "version")]) true 1 (arguments.filter fun a => !isNumber a) fun _ operands => do
      if operands.isEmpty then finish name 1 (charactersOf (← input)) 0
      else
        let bar := String.ofList (List.replicate 14 ':')
        for file in operands do
          match ← readFile file with
          | .ok b => let _ ← put (toBytes ((bar ++ "\n" ++ file ++ "\n" ++ bar ++ "\n").toList ++ charactersOf b))
          | .error (.reading _) => let _ ← put (toBytes ("\n*** " ++ file ++ ": directory ***\n\n").toList)
          | .error (.opening e) => complain name ("cannot open " ++ file ++ ": " ++ e.description)
        return 0

end Utility

end AddonAtlas.Shell
