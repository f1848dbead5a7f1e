import AddonAtlas.Shell.Utility.Dates

/-!
# Text in pages

Lines are put on pages, in one column or in several, with a heading on each page and numbers in front of them if
that is asked for. Blanks between columns are written as tabs as far as they reach the places where tabs lead.
-/

namespace AddonAtlas.Shell

namespace Utility

open Shell.Action

namespace Pages

/-- How lines are put on pages. -/
structure Layout where
  columns : Nat := 1
  isAcross : Bool := false
  isParallel : Bool := false
  width : Nat := 72
  /-- Whether lines are cut off at the width. -/
  isCut : Bool := false
  /-- What stands between columns. -/
  separator : List Char := [' ']
  /-- Whether columns are filled up to their width. -/
  isFilled : Bool := true
  margin : Nat := 0
  length : Nat := 66
  isBare : Bool := false
  /-- No heading, and pages in the text do not count either. -/
  ignoresPages : Bool := false
  feedsForms : Bool := false
  isDouble : Bool := false
  /-- The character behind numbers and the width of these. -/
  numbering : Option (Char × Nat) := none
  firstNumber : Nat := 1
  heading : Option String := none
  dateFormat : String := "%Y-%m-%d %H:%M"
  firstPage : Nat := 1
  lastPage : Option Nat := none
  tabs : Option Nat := none

namespace Layout

/-- How many lines there are in a column of a page. -/
def rows (l : Layout) : Nat :=
  let bare := l.isBare || l.length ≤ 10
  let n := if bare then l.length else l.length - 10
  if l.isDouble then max 1 (n / 2) else n

def hasHeading (l : Layout) : Bool :=
  !l.isBare && 10 < l.length

/-- The width of a column. -/
def columnWidth (l : Layout) : Nat :=
  (l.width - (l.columns - 1) * l.separator.length) / l.columns

end Layout

/-- A text with tabs as blanks. -/
def untabbed (size : Nat) (cs : List Char) : List Char :=
  (cs.foldl (fun (out : List Char) c =>
    if c = '\t' then List.replicate (size - out.length % size) ' ' ++ out else c :: out) []).reverse

/-- So many blanks from a place on, with tabs for them where tabs lead further than one blank. -/
def blanks : (fuel : Nat) → (place goal : Nat) → List Char
  | 0, _, _ => []
  | fuel + 1, place, goal =>
    let next := (place / 8 + 1) * 8
    if place + 1 < goal && next ≤ goal then '\t' :: blanks fuel next goal
    else List.replicate (goal - place) ' '

/-- A row that is being written: the text, the last character first, the place, and blanks that wait. -/
structure Row where
  text : List Char := []
  place : Nat := 0
  waiting : Nat := 0

namespace Row

def flush (r : Row) : Row :=
  let goal := r.place + r.waiting
  { text := (blanks (r.waiting + 1) r.place goal).reverse ++ r.text, place := goal, waiting := 0 }

def put (r : Row) (c : Char) : Row :=
  if c = ' ' then { r with waiting := r.waiting + 1 }
  else
    let r := r.flush
    { r with text := c :: r.text, place := r.place + 1 }

def putAll (r : Row) (cs : List Char) : Row :=
  cs.foldl put r

/-- Goes on at a place further on. -/
def upTo (r : Row) (goal : Nat) : Row :=
  { r with waiting := max r.waiting (goal - r.place) }

end Row

/-- A number in front of a line. -/
def numbered (n : Nat) (mark : Char) (digits : Nat) (isAlone : Bool) : List Char :=
  let ds := (toString n).toList
  let shown := List.replicate (digits - ds.length) ' ' ++ ds.drop (ds.length - digits)
  if mark = '\t' && !isAlone then shown ++ List.replicate (8 - digits % 8) ' ' else shown ++ [mark]

/-- The text of a row with a cell in each column, but perhaps in the last ones. -/
def rowText (l : Layout) (cells : List (Option Nat × List Char)) : List Char :=
  let margin := List.replicate l.margin ' '
  let number (n : Option Nat) (isAlone : Bool) : List Char :=
    match n, l.numbering with
    | some n, some (mark, digits) => numbered n mark digits isAlone
    | _, _ => []
  if l.columns = 1 then
    match cells with
    | (n, cs) :: _ =>
      let text := number n true ++ cs
      margin ++ if l.isCut then text.take l.width else text
    | [] => []
  else if !l.isFilled then
    let parts := cells.map fun (n, cs) => number n false ++ cs
    margin ++ l.separator.intercalate parts
  else
    let width := l.columnWidth
    let row := cells.zipIdx.foldl (fun (r : Row) ((n, cs), i) =>
      let start := l.margin + i * (width + l.separator.length)
      let r := if i = 0 then ({ place := 0, waiting := l.margin } : Row)
        else ((r.upTo (start - l.separator.length)).putAll l.separator).flush
      let text := number n false ++ untabbed 8 cs
      (r.putAll (text.take width))) {}
    row.text.reverse

/-- The rows of a page of lines. -/
def rowsOf (l : Layout) (lines : List (Option Nat × List Char)) : List (List (Option Nat × List Char)) :=
  if l.columns = 1 || l.isAcross then chunks l.columns lines
  else
    let count := l.rows
    let isFull := lines.length = count * l.columns
    let sizes :=
      (List.range l.columns).map fun i =>
        if isFull then count
        else lines.length / l.columns + if i < lines.length % l.columns then 1 else 0
    let (columns, _) := sizes.foldl (fun (found, rest) n =>
      (found ++ [rest.take n], rest.drop n)) (([] : List (List (Option Nat × List Char))), lines)
    (List.range (sizes.foldl max 0)).map fun i => columns.filterMap fun column => column[i]?

/-- The heading of a page. -/
def headingText (l : Layout) (date title : String) (page : Nat) : List Char :=
  let number := "Page " ++ toString page
  let free := l.width - date.length - title.length - number.length
  let left := List.replicate (max 1 (free / 2)) ' '
  let right := List.replicate (max 1 (free - free / 2)) ' '
  ['\n', '\n'] ++ List.replicate l.margin ' ' ++ date.toList ++ left ++ title.toList ++ right ++ number.toList ++
    ['\n', '\n', '\n']

/-- A page of rows. -/
def pageText (l : Layout) (date title : String) (page : Nat) (rows : List (List (Option Nat × List Char))) :
    List Char :=
  let ending := if l.isDouble then ['\n', '\n'] else ['\n']
  let body := rows.flatMap fun r => rowText l r ++ ending
  if l.hasHeading then
    let used := rows.length * (if l.isDouble then 2 else 1)
    let foot := if l.feedsForms then ['\x0c'] else List.replicate (l.length - 5 - used) '\n'
    headingText l date title page ++ body ++ foot
  else body

/-- All pages of lines. -/
def pagesText (l : Layout) (title : String) (lines : List (List Char)) (start : Nat) : List Char :=
  let date := String.ofList (Dates.formatted (Moment.ofSeconds Dates.present) 0 (l.dateFormat.length + 1)
    l.dateFormat.toList)
  let cells := lines.zipIdx.map fun (cs, i) => (l.numbering.map fun _ => start + i, cs)
  let pages := chunks (l.rows * l.columns) cells
  let shown := pages.zipIdx.filter fun (_, i) =>
    l.firstPage ≤ i + 1 && l.lastPage.all fun last => i + 1 ≤ last
  shown.flatMap fun (page, i) => pageText l date title (i + 1) (rowsOf l page)

/-- All pages of files side by side. -/
def parallelText (l : Layout) (title : String) (files : List (List (List Char))) : List Char :=
  let date := String.ofList (Dates.formatted (Moment.ofSeconds Dates.present) 0 (l.dateFormat.length + 1)
    l.dateFormat.toList)
  let count := (files.map List.length).foldl max 0
  let rows := (List.range count).map fun i =>
    files.zipIdx.map fun (lines, k) => (if k = 0 then l.numbering.map fun _ => l.firstNumber + i else none, lines.getD i [])
  let pages := chunks l.rows rows
  let shown := pages.zipIdx.filter fun (_, i) =>
    l.firstPage ≤ i + 1 && l.lastPage.all fun last => i + 1 ≤ last
  shown.flatMap fun (page, i) => pageText l date title (i + 1) page

/-- The character and the number in the text of an option. -/
def markAndNumber (usual : Char) (s : String) : Option (Char × Option Nat) :=
  let cs := s.toList
  let (mark, rest) :=
    match cs with
    | c :: rest => if isDigit c then (usual, cs) else (c, rest)
    | [] => (usual, [])
  if rest.isEmpty then some (mark, none) else (natural? rest).map fun n => (mark, some n)

/-- The layout that options ask for; or what is wrong, and whether help is offered. -/
def layoutOf (given : List Options.Given) (fileCount : Nat) : Except (String × Bool) Layout :=
  let step (r : Except (String × Bool) Layout) (g : Options.Given) : Except (String × Bool) Layout := do
    let l ← r
    let value := g.value.getD ""
    let number (what of_ : String) : Except (String × Bool) Nat :=
      match natural? value.toList with
      | some 0 => .error (Quotation.quoted what ++ " invalid number of " ++ of_ ++ ": " ++ Quotation.quoted value ++
          ": Numerical result out of range", false)
      | some n => .ok n
      | none => .error (Quotation.quoted what ++ " invalid number of " ++ of_ ++ ": " ++ Quotation.quoted value, false)
    match g.option with
    | "a" => .ok { l with isAcross := true }
    | "m" => .ok { l with isParallel := true }
    | "t" => .ok { l with isBare := true }
    | "T" => .ok { l with isBare := true, ignoresPages := true }
    | "d" => .ok { l with isDouble := true }
    | "F" => .ok { l with feedsForms := true }
    | "h" => .ok { l with heading := some value }
    | "D" => .ok { l with dateFormat := value }
    | "J" => .ok { l with isFilled := false, separator := if l.separator = [' '] then ['\t'] else l.separator }
    | "l" => do .ok { l with length := ← number "-l PAGE_LENGTH" "lines" }
    | "w" => do
      let n ← number "-w PAGE_WIDTH" "characters"
      .ok { l with width := n, isFilled := true }
    | "W" => do .ok { l with width := ← number "-W PAGE_WIDTH" "characters", isCut := true, isFilled := true }
    | "o" => do
      match natural? value.toList with
      | some n => .ok { l with margin := n }
      | none => .error (Quotation.quoted "-o MARGIN" ++ " invalid line offset: " ++ Quotation.quoted value, false)
    | "N" => do
      match natural? value.toList with
      | some n => .ok { l with firstNumber := n, numbering := l.numbering.or (some ('\t', 5)) }
      | none =>
        .error (Quotation.quoted "-N NUMBER" ++ " invalid starting line number: " ++ Quotation.quoted value, false)
    | "n" =>
      match markAndNumber '\t' value with
      | some (mark, digits) => .ok { l with numbering := some (mark, digits.getD 5) }
      | none =>
        .error (Quotation.quoted "-n" ++ " extra characters or invalid number in the argument: " ++
          Quotation.quoted (value.drop 1).toString, true)
    | "e" =>
      match markAndNumber '\t' value with
      | some (_, size) => .ok { l with tabs := some (size.getD 8) }
      | none =>
        .error (Quotation.quoted "-e" ++ " extra characters or invalid number in the argument: " ++
          Quotation.quoted (value.drop 1).toString, true)
    | "s" =>
      .ok { l with
        separator := if value.isEmpty then ['\t'] else value.toList
        isFilled := given.any fun g => g.option = "w" || g.option = "W" }
    | "S" => .ok { l with separator := value.toList }
    | "columns" =>
      match natural? value.toList with
      | some 0 => .error ("invalid number of columns: " ++ Quotation.quoted value ++ ": Numerical result out of range", false)
      | some n => .ok { l with columns := n }
      | none => .error ("invalid number of columns: " ++ Quotation.quoted value, false)
    | "pages" =>
      match (value.toList.splitOn ':').map natural? with
      | [some a] => .ok { l with firstPage := a }
      | [some a, some b] => .ok { l with firstPage := a, lastPage := some b }
      | _ =>
        .error ((if value.toList.head?.any isDigit then "invalid page range " else "invalid + argument ") ++
          Quotation.quoted value, false)
    | _ => .ok l
  (given.foldl step (.ok {})).bind fun l =>
    if l.isParallel && 1 < l.columns then
      .error ("cannot specify number of columns when printing in parallel", false)
    else if l.isParallel && l.isAcross then
      .error ("cannot specify both printing across and printing in parallel", false)
    else
      let l := if l.isParallel then { l with columns := max 1 fileCount } else l
      if 1 < l.columns && l.isFilled && l.columnWidth = 0 then .error ("page width too narrow", false) else .ok l

/-- The arguments, with numbers of columns and of pages turned into options. -/
def withNumbers (arguments : List String) : List String :=
  arguments.flatMap fun a =>
    match a.toList with
    | '-' :: c :: rest =>
      if isDigit c then
        let ds := (c :: rest).takeWhile isDigit
        let behind := (c :: rest).drop ds.length
        ("--columns=" ++ String.ofList ds) :: if behind.isEmpty then [] else [String.ofList ('-' :: behind)]
      else if c ≠ '-' && rest.getLast?.any isDigit && ((c :: rest).takeWhile fun c => "tdaTmFfrbcv".toList.contains c).length =
          ((c :: rest).reverse.dropWhile isDigit).length then
        let ds := ((c :: rest).reverse.takeWhile isDigit).reverse
        [String.ofList ('-' :: (c :: rest).take (rest.length + 1 - ds.length)), "--columns=" ++ String.ofList ds]
      else [a]
    | '+' :: c :: rest =>
      if c ≠ '0' then ["--pages=" ++ String.ofList (c :: rest)] else [a]
    | _ => [a]

end Pages

open Pages in
/-- Puts the lines of files on pages. -/
def paginate (name : String) (arguments : List String) : Action Nat :=
  let t := Options.Table.of "abcdD:e::fFh:i::Jl:mn::N:o:rs::S::tTvw:W:" [("pages=", "pages"), ("columns=", "columns"),
    ("across", "a"), ("show-control-chars", "c"), ("double-space", "d"), ("date-format=", "D"), ("expand-tabs?", "e"),
    ("form-feed", "F"), ("header=", "h"), ("output-tabs?", "i"), ("join-lines", "J"), ("length=", "l"), ("merge", "m"),
    ("number-lines?", "n"), ("first-line-number=", "N"), ("indent=", "o"), ("no-file-warnings", "r"),
    ("separator?", "s"), ("sep-string?", "S"), ("omit-header", "t"), ("omit-pagination", "T"),
    ("show-nonprinting", "v"), ("width=", "w"), ("page-width=", "W"), ("help", "help"), ("version", "version")]
  withOptions name t true 1 (withNumbers arguments) fun given files => do
    let given := given.map fun g =>
      if g.option = "f" then { g with option := "F" }
      else if g.option = "S" ∧ g.value.isNone then { g with value := some "" }
      else g
    match layoutOf given files.length with
    | .error (message, isHelped) => if isHelped then misuse name message 1 else giveUp name message 1
    | .ok l =>
      let silent := has given "r"
      let mut found : List (String × List Char) := []
      let mut status := 0
      for file in if files.isEmpty then ["-"] else files do
        match ← Utility.read file with
        | .ok b => found := found ++ [(file, charactersOf b)]
        | .error u =>
          if !silent then complain name (plainRefusal file u)
          status := 1
      let l := if l.isParallel then { l with columns := max 1 found.length } else l
      let linesOfText (cs : List Char) : List (List Char) :=
        let lines := bareLines '\n' (if l.ignoresPages then cs.filter (· ≠ '\x0c') else cs)
        let lines := if has given "i" then lines.map fun cs => (({} : Row).putAll (untabbed 8 cs)).text.reverse else lines
        match l.tabs with
        | some n => lines.map (untabbed (max 1 n))
        | none => lines
      let title (file : String) : String := l.heading.getD (if file = "-" ∨ l.isParallel then "" else file)
      if l.isParallel then
        finish name 1 (parallelText l (title "") (found.map fun f => linesOfText f.2)) status
      else
        let text := found.foldl (fun (text : List Char × Nat) (file, cs) =>
          let lines := linesOfText cs
          (text.1 ++ pagesText l (title file) lines text.2,
            if (given.any fun g => g.option = "N") then text.2 + lines.length else l.firstNumber)) ([], l.firstNumber)
        finish name 1 text.1 status

end Utility

end AddonAtlas.Shell
