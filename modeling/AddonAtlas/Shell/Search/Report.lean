import AddonAtlas.FileTree.ReadBuffer
import AddonAtlas.Shell.Search.Matching

/-!
# Reports of a search

How the lines of one file are gone through and reported: selected lines, the lines around them, and marks
between those that do not follow each other. A file is searched by buffers. From the buffer that holds the
first NUL on a file counts as binary: its lines are no more reported, and end at NULs too.
-/

namespace AddonAtlas.Shell.Search

/-- A line with its number and the place at which it begins. -/
structure Line where
  content : Bytes
  number : Nat
  offset : Nat

/-! ## Writing -/

/-- How the lines of a file are shown. -/
structure Frame where
  settings : Settings
  target : Target
  /-- The name of the file, if reports name it. -/
  title : Option Bytes
  /-- How wide numbers are, if columns are aligned. -/
  width : Nat

/-- What colours a part of a report. -/
def coloured (isColoured : Bool) (code : String) (b : Bytes) : List Bytes :=
  if isColoured then
    [Bytes.ofString ("\x1b[" ++ code ++ "m\x1b[K"), b, Bytes.ofString "\x1b[m\x1b[K"]
  else [b]

namespace Frame

def isColoured (f : Frame) : Bool :=
  f.settings.isColoured

/-- The byte that ends lines. -/
def ending (f : Frame) : UInt8 :=
  if f.settings.nulLines then 0 else Bytes.newline

/-- What stands between the parts of a report. -/
def mark (f : Frame) (c : Char) : List Bytes :=
  coloured f.isColoured "36" (Bytes.ofString (String.ofList [c]))

/-- The name of the file with what ends it. -/
def heading (f : Frame) (c : Char) : List Bytes :=
  match f.title with
  | none => []
  | some name =>
    coloured f.isColoured "35" name ++
      (if f.settings.endsNames then [Bytes.ofList [0]] else f.mark c)

/-- A number with the mark behind it. -/
def numbered (f : Frame) (n : Nat) (c : Char) : List Bytes :=
  let digits := toString n
  let filled := String.ofList (List.replicate (f.width - digits.length) ' ') ++ digits
  coloured f.isColoured "32" (Bytes.ofString filled) ++ f.mark c

/-- What stands in front of a line, or of a part of it that begins at a place. -/
def front (f : Frame) (l : Line) (start size : Nat) (c : Char) : List Bytes :=
  let s := f.settings
  let parts :=
    f.heading c ++ (if s.numbers then f.numbered l.number c else []) ++
      (if s.offsets then f.numbered (l.offset + start) c else [])
  if s.isAligned && (f.title.isSome || s.numbers || s.offsets) && size ≠ 0 then parts ++ [Bytes.ofString "\t"]
  else parts

/-- A line with its matches coloured. -/
def highlighted (b : Bytes) : (i : Nat) → List (Nat × Nat) → List Bytes
  | i, [] => [b.drop i]
  | i, (start, stop) :: rest =>
    b.slice i start :: (coloured true "01;31" (b.slice start stop) ++ highlighted b stop rest)

/-- The report of a line. The mark tells whether it was selected or is shown for another one. -/
def shown (f : Frame) (l : Line) (isSelected : Bool) : List Bytes :=
  let s := f.settings
  let c := if isSelected then ':' else '-'
  let parts : List (Nat × Nat) :=
    if isSelected != s.isInverted && (s.onlyParts || s.isColoured) then
      f.target.parts (f.target.subject l.content)
    else []
  let closing := Bytes.ofList [f.ending]
  if s.onlyParts then
    parts.flatMap fun (start, stop) =>
      let mark := if s.isInverted then '-' else ':'
      f.front l start (stop - start) mark ++
        coloured f.isColoured "01;31" (l.content.slice start stop) ++ [closing]
  else f.front l 0 l.content.size c ++ highlighted l.content 0 parts ++ [closing]

end Frame

/-! ## Going through a file -/

/-- How far the search of a file has come. -/
structure Progress where
  /-- The reports, the last part first. -/
  written : List Bytes
  /-- Whether any line was selected in this file or in one before. -/
  isUsed : Bool
  number : Nat
  offset : Nat
  selected : Nat
  /-- The end of the last selected line. -/
  selectedEnd : Nat
  /-- How many lines are to be shown behind the last selected one. -/
  pending : Nat
  /-- The lines that were not shown and may have to be, the last first. -/
  recent : List Line
  /-- How many lines were passed over since the last one that was shown. -/
  gap : Option Nat
  /-- Nothing is reported any more. -/
  isSilent : Bool
  isDone : Bool

/-- The number of lines in front of selected ones. -/
def Settings.ahead (s : Settings) : Nat :=
  (s.before.or s.around).getD 0

/-- The number of lines behind selected ones. -/
def Settings.behind (s : Settings) : Nat :=
  (s.after.or s.around).getD 0

/-- Whether lines around selected ones were asked for, be it none. -/
def Settings.hasContext (s : Settings) : Bool :=
  s.before.isSome || s.after.isSome || s.around.isSome

/-- Whether the first selected line of a file tells all. -/
def Settings.isBrief (s : Settings) : Bool :=
  s.isQuiet || s.listing ≠ .nothing

namespace Progress

def start (isUsed : Bool) (s : Settings) : Progress :=
  ⟨[], isUsed, 0, 0, 0, 0, 0, [], none, s.isBrief || s.counts, false⟩

def write (p : Progress) (parts : List Bytes) : Progress :=
  { p with written := parts.reverseAux p.written }

/-- Whether no more lines may be selected. -/
def isFull (p : Progress) (s : Settings) : Bool :=
  s.limit.any fun n => n ≤ p.selected

/-- Shows a line that belongs to a selected one. -/
def showPending (p : Progress) (f : Frame) (l : Line) : Progress :=
  let p := { p with pending := p.pending - 1, recent := [], gap := some 0 }.write (f.shown l false)
  { p with isDone := p.pending = 0 && p.isFull f.settings }

/-- Reports a selected line, with those in front of it. -/
def select (p : Progress) (f : Frame) (l : Line) : Progress :=
  let s := f.settings
  let stops := s.isBrief || (p.isSilent && !s.counts)
  let p := { p with selected := p.selected + 1, selectedEnd := p.offset }
  let p :=
    if p.isSilent then { p with pending := 0 }
    else
      let isApart := s.hasContext && p.isUsed && p.gap.all fun n => s.ahead < n
      let between :=
        match if isApart then s.separator else none with
        | some mark =>
          coloured s.isColoured "36" (Bytes.ofList (mark.toList.map fun c => c.toNat.toUInt8)) ++
            [Bytes.ofList [Bytes.newline]]
        | none => []
      let p := p.write (between ++ p.recent.reverse.flatMap (f.shown · false) ++ f.shown l true)
      { p with pending := s.behind, recent := [], gap := some 0 }
  { p with isUsed := true, isDone := stops || (p.pending = 0 && p.isFull s) }

/-- Passes over a line. -/
def pass (p : Progress) (f : Frame) (l : Line) : Progress :=
  let ahead := f.settings.ahead
  { p with
    recent := if ahead = 0 then [] else (l :: p.recent).take ahead
    gap := p.gap.map (· + 1) }

/-- Takes one line into account. `taken` is the number of its bytes with those that end it. -/
def line (p : Progress) (f : Frame) (content : Bytes) (taken : Nat) : Progress :=
  if p.isDone then p
  else
    let l : Line := ⟨content, p.number + 1, p.offset⟩
    let p := { p with number := p.number + 1, offset := p.offset + taken }
    if !p.isFull f.settings && f.target.isIn (f.target.subject content) != f.settings.isInverted then
      p.select f l
    else if 0 < p.pending then p.showPending f l
    else p.pass f l

/-- Takes the lines of a part of a file into account. -/
def lines (f : Frame) (ends : UInt8 → Bool) : (fuel : Nat) → Progress → Bytes → Progress
  | 0, p, _ => p
  | fuel + 1, p, b =>
    if b.isEmpty || p.isDone then p
    else
      match b.findIdxFrom? ends 0 with
      | some i => lines f ends fuel (p.line f (b.take i) (i + 1)) (b.drop (i + 1))
      | none => p.line f b b.size

/-- How many bytes the lines have that may have to be shown. -/
def keptSize (p : Progress) : Nat :=
  (p.recent.map fun l => l.content.size + 1).sum

end Progress

/-- What came of the search of a file. -/
structure FileReport where
  progress : Progress
  /-- How many lines were selected in front of the buffer with the first NUL, if there is one. -/
  beforeNul : Option Nat

/-- Searches a file buffer by buffer. `done` bytes were read, and those from `searched` on are carried over. -/
def searchFrom (f : Frame) (b : Bytes) : (fuel : Nat) → ReadBuffer → (done searched : Nat) →
    (beforeNul : Option Nat) → Progress → FileReport
  | 0, _, _, _, beforeNul, p => ⟨p, beforeNul⟩
  | fuel + 1, buffer, done, searched, beforeNul, p =>
    let s := f.settings
    let kept := done - searched + p.keptSize
    let buffer := buffer.enlarged kept (b.size - done)
    let next := min (done + buffer.room kept) b.size
    let isNew := beforeNul.isNone && !s.nulLines && s.binary ≠ .searched && (b.slice done next).contains 0
    if isNew && s.binary = .passedOver then ⟨{ p with selected := 0 }, none⟩
    else
      let beforeNul := if isNew then some p.selected else beforeNul
      let p := if isNew && !s.counts then { p with isSilent := true } else p
      let ends (x : UInt8) : Bool := x == f.ending || (beforeNul.isSome && x == 0)
      if next ≤ done then
        ⟨Progress.lines f ends (b.size + 1) p (b.drop searched), beforeNul⟩
      else
        let stop := if beforeNul.isSome then max (b.lineEndBefore f.ending next) (b.lineEndBefore 0 next)
          else b.lineEndBefore f.ending next
        let p := Progress.lines f ends (b.size + 1) p (b.slice searched stop)
        if p.isDone then ⟨p, beforeNul⟩ else searchFrom f b fuel buffer next stop beforeNul p

/-- Searches a file. -/
def searchFile (f : Frame) (isUsed : Bool) (b : Bytes) : FileReport :=
  searchFrom f b (b.size / ReadBuffer.page + 3) .initial 0 0 none (.start isUsed f.settings)

end AddonAtlas.Shell.Search
