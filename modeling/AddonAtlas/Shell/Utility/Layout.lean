import AddonAtlas.Shell.Utility.Basic

/-!
# Programs that lay out lines

Tabs become blanks and blanks tabs, long lines are broken, and paragraphs are filled. Paragraphs are broken
so that the costs of their lines are least: a line costs more the farther it is from the width that is aimed
at and from the length of the line before it, and it costs more or less to break it at certain words.
-/

namespace AddonAtlas.Shell

namespace Utility

open Shell.Action

/-! ## Tabs -/

/-- Where the tabs stand: at places of their own, and behind them at multiples of a number, counted from the
last of these places if `isRelative`. -/
structure TabStops where
  places : List Nat
  period : Nat
  isRelative : Bool

namespace TabStops

/-- The next tab behind a column; nothing if there is none. -/
def next? (t : TabStops) (column : Nat) : Option Nat :=
  match t.places.find? (column < ·) with
  | some n => some n
  | none =>
    if t.period = 0 then none
    else if t.isRelative then
      let last := t.places.getLastD 0
      some (last + ((column - last) / t.period + 1) * t.period)
    else some ((column / t.period + 1) * t.period)

/-- The tabs that a list names. -/
def ofList (s : String) : Except String TabStops := do
  let parts := (s.toList.map fun c => if c = ' ' || c = '\t' then ',' else c).splitOn ','
  let t ← (parts.filter (!List.isEmpty ·)).foldlM (fun (t : TabStops) cs => do
      let number (cs : List Char) : Except String Nat :=
        match natural? cs with
        | some n => .ok n
        | none =>
          .error ("tab size contains invalid character(s): " ++
            Quotation.quoted (String.ofList (cs.dropWhile isDigit)))
      match cs with
      | '/' :: ds =>
        let n ← number ds
        return { t with period := n }
      | '+' :: ds =>
        let n ← number ds
        return { t with period := n, isRelative := true }
      | ds =>
        let n ← number ds
        if n = 0 then throw "tab size cannot be 0"
        else if n ≤ t.places.getLastD 0 then throw "tab sizes must be ascending"
        else return { t with places := t.places ++ [n] })
    (⟨[], 0, false⟩ : TabStops)
  match t.places, t.period with
  | [], 0 => return ⟨[], 8, false⟩
  | [n], 0 => return ⟨[], n, false⟩
  | _, _ => return t

end TabStops

/-- The tabs that options ask for; digits behind a hyphen are such an option too. -/
def withTabs (name : String) (letters : String) (names : List (String × String)) (arguments : List String)
    (k : List Options.Given → TabStops → List String → Action Nat) : Action Nat :=
  let arguments := arguments.map fun a =>
    match a.toList with
    | '-' :: c :: rest => if isDigit c then String.ofList ('-' :: 't' :: c :: rest) else a
    | _ => a
  withOptions name (.of (letters ++ "t:") (names ++ [("tabs=", "t"), ("help", "help"), ("version", "version")])) true 1
    arguments fun given files =>
    let lists := (given.filter fun g => g.option = "t").filterMap (·.value)
    match TabStops.ofList (",".intercalate lists) with
    | .error e => giveUp name e 1
    | .ok t => k given t files

/-- A line with blanks instead of its tabs, from a column on. `isInitial` says that only those in front of the
text are meant. -/
def expanded (t : TabStops) (isInitial : Bool) : (column : Nat) → (isFront : Bool) → List Char → List Char
  | _, _, [] => []
  | column, isFront, c :: rest =>
    let isMeant := !isInitial || isFront
    if c = '\t' && isMeant then
      let next := (t.next? column).getD (column + 1)
      List.replicate (next - column) ' ' ++ expanded t isInitial next isFront rest
    else
      let isFront := isFront && (c = ' ' || c = '\t')
      c :: expanded t isInitial (if c = '\x08' then column - 1 else column + 1) isFront rest

def expandTabs (name : String) (arguments : List String) : Action Nat :=
  withTabs name "i" [("initial", "i")] arguments fun given t files => do
    let (cs, status) ← readText name 1 files
    finish name 1 ((linesOf '\n' cs).flatMap (expanded t (has given "i") 0 true)) status

/-- What is known while blanks become tabs. -/
structure TabFilling where
  column : Nat
  /-- The blanks that were not written yet, the last one first. -/
  pending : List Char
  /-- The text so far, the last character first. -/
  written : List Char
  /-- Whether blanks still become tabs. -/
  isGoing : Bool
  /-- Whether the blank before stands alone at the end of a tab's width. -/
  wasStop : Bool

/-- A line with tabs instead of its blanks. -/
def unexpanded (t : TabStops) (isWhole : Bool) (l : List Char) : List Char :=
  let start : TabFilling := ⟨0, [], [], true, false⟩
  let done := l.foldl step start
  (done.pending ++ done.written).reverse
where
  /-- Goes on by one character. -/
  step (f : TabFilling) (c : Char) : TabFilling :=
    if !f.isGoing then { f with written := c :: f.written }
    else
      let isBlank := c == ' ' || c == '\t'
      if isBlank then
        match t.next? f.column with
        | none => { f with isGoing := false, pending := [], written := c :: f.pending ++ f.written }
        | some next =>
          if c = '\t' then
            let pending := if f.pending.isEmpty then [] else if f.wasStop then ['\t'] else []
            { f with column := next, pending := [], written := '\t' :: pending ++ f.written, wasStop := false }
          else
            let column := f.column + 1
            if column = next then
              if f.pending.isEmpty then { f with column := column, pending := [' '], wasStop := true }
              else
                let front := if f.wasStop then ['\t'] else []
                { f with column := column, pending := [], written := '\t' :: front ++ f.written, wasStop := false }
            else { f with column := column, pending := ' ' :: f.pending }
      else
        let isGoing := isWhole && c ≠ '\n'
        let column := if c = '\x08' then f.column - 1 else f.column + 1
        { f with
          column := column
          pending := []
          written := c :: f.pending ++ f.written
          isGoing := isGoing
          wasStop := false }

def unexpandTabs (name : String) (arguments : List String) : Action Nat :=
  withTabs name "a" [("all", "a"), ("first-only", "first")] arguments fun given t files => do
    let (cs, status) ← readText name 1 files
    let isWhole := (has given "a" || has given "t") && !has given "first"
    finish name 1 ((linesOf '\n' cs).flatMap (unexpanded t isWhole)) status

/-! ## Folding -/

/-- The column behind a character. -/
def columnAfter (countsBytes : Bool) (column : Nat) (c : Char) : Nat :=
  if countsBytes then column + 1
  else
    match c with
    | '\x08' => column - 1
    | '\r' => 0
    | '\t' => (column / 8 + 1) * 8
    | _ => column + 1

/-- A text broken into lines of a width, if need be behind the last blank of each. -/
def folded (width : Nat) (countsBytes atBlanks : Bool) : (fuel : Nat) → (column : Nat) →
    (line : List Char) → List Char → List Char
  | 0, _, line, rest => line.reverse ++ rest
  | _ + 1, _, line, [] => line.reverse
  | fuel + 1, column, line, c :: rest =>
    if c = '\n' then line.reverse ++ '\n' :: folded width countsBytes atBlanks fuel 0 [] rest
    else
      let next := columnAfter countsBytes column c
      if next ≤ width then folded width countsBytes atBlanks fuel next (c :: line) rest
      else
        let isBlank (c : Char) : Bool := c == ' ' || c == '\t'
        let tail := line.takeWhile (!isBlank ·)
        if atBlanks && tail.length < line.length then
          let kept := line.drop tail.length
          let column := tail.reverse.foldl (columnAfter countsBytes) 0
          kept.reverse ++ '\n' :: folded width countsBytes atBlanks fuel column tail (c :: rest)
        else if line.isEmpty then folded width countsBytes atBlanks fuel next [c] rest
        else line.reverse ++ '\n' :: folded width countsBytes atBlanks fuel 0 [] (c :: rest)

def fold (name : String) (arguments : List String) : Action Nat :=
  let arguments := arguments.map fun a =>
    match a.toList with
    | '-' :: c :: rest => if isDigit c then String.ofList ('-' :: 'w' :: c :: rest) else a
    | _ => a
  withOptions name (.of "bsw:" [("bytes", "b"), ("spaces", "s"), ("width=", "w"), ("help", "help"),
    ("version", "version")]) true 1 arguments fun given files => do
    let width := (value? given "w").getD "80"
    match (natural? width.toList).filter (0 < ·) with
    | none => giveUp name ("invalid number of columns: " ++ Quotation.quoted width) 1
    | some width =>
      let (cs, status) ← readText name 1 files
      finish name 1 (folded width (has given "b") (has given "s") (3 * cs.length + 1) 0 [] cs) status

/-! ## Paragraphs -/

/-- A word of a paragraph. -/
structure FmtWord where
  text : List Char
  /-- How many blanks follow. -/
  space : Nat
  opensParenthesis : Bool
  endsInMark : Bool
  /-- Whether it ends in a mark that may end a sentence. -/
  isPeriod : Bool
  /-- Whether a sentence ends with it. -/
  isFinal : Bool

structure FmtStyle where
  width : Nat
  goal : Nat
  isUniform : Bool
  isSplit : Bool
  isCrown : Bool
  isTagged : Bool

/-- A line with its indentation. -/
structure FmtLine where
  indent : Nat
  words : List FmtWord

namespace FmtStyle

/-- The blanks at the front of a text, as the column that they lead to. -/
def skipBlanks : (column : Nat) → List Char → Nat × List Char
  | column, ' ' :: rest => skipBlanks (column + 1) rest
  | column, '\t' :: rest => skipBlanks ((column / 8 + 1) * 8) rest
  | column, rest => (column, rest)

def isWordEnd (c : Char) : Bool :=
  [' ', '\t', '\n', '\x0b', '\x0c', '\r'].contains c

/-- The words of a line behind its indentation. -/
def wordsOf (s : FmtStyle) (isLast : Bool) : (fuel : Nat) → (column : Nat) → List Char → List FmtWord
  | 0, _, _ => []
  | _ + 1, _, [] => []
  | fuel + 1, column, c :: cs =>
    let text := c :: cs.takeWhile (!isWordEnd ·)
    let rest := (c :: cs).drop text.length
    let start := column + text.length
    let (next, rest) := skipBlanks start rest
    let core := (text.reverse.dropWhile fun c => ")]'\"".toList.contains c).reverse
    let core := if core.isEmpty then text.take 1 else core
    let isPeriod := core.getLast?.any fun c => ".?!".toList.contains c
    let isEnd := rest.isEmpty
    let isFinal := (isEnd && isLast) || (isPeriod && (isEnd || 1 < next - start))
    let space := if isEnd || s.isUniform then (if isFinal then 2 else 1) else next - start
    let isMark (c : Char) : Bool := Quotation.isPrintable c && c ≠ ' ' && !c.isAlphanum
    ⟨text, space, "(['\"".toList.contains c || c = Char.ofNat 96, text.getLast?.any isMark, isPeriod, isFinal⟩ ::
      wordsOf s isLast fuel next rest

/-- What it costs to begin a line at a word, by those around it. -/
def startCost (before before2 : Option FmtWord) (w : FmtWord) : Int :=
  let cost : Int := 4900
  let cost :=
    match before with
    | none => cost
    | some p =>
      if p.isPeriod then (if p.isFinal then cost - 2500 else cost + 360000)
      else if p.endsInMark then cost - 1600
      else if before2.any (·.isFinal) then cost + 40000 / ((p.text.length : Int) + 2)
      else cost
  if w.opensParenthesis then cost - 1600
  else if w.isFinal then cost + 22500 / ((w.text.length : Int) + 2)
  else cost

/-- What is known of the best way to break a paragraph from a word on: what it costs, how many words the first
line has, and how long it is. -/
structure Break where
  cost : Int
  words : Nat
  length : Int

/-- The best way to break a paragraph from a word on, by the best ways from the words behind it. `ways` starts
with that from the next word on; the last one is that for the end. -/
def bestBreak (s : FmtStyle) (indent : Nat) (words : List FmtWord) (ways : List Break) : Break :=
  match words with
  | [] => ⟨0, 0, 0⟩
  | w :: rest => go (indent + w.text.length) 1 w rest ways none
where
  /-- Tries to break in front of the next word, then farther behind. -/
  go (length : Nat) (count : Nat) (last : FmtWord) : List FmtWord → List Break → Option Break → Break
    | rest, way :: ways, best =>
      let square (n : Int) : Int := n * n
      let lineCost : Int :=
        if rest.isEmpty then 0
        else
          square (((s.goal : Int) - length) * 10) +
            (if way.words = rest.length then 0 else square ((length - way.length) * 10) / 2)
      let cost := lineCost + way.cost
      let best :=
        match best with
        | some b => if cost < b.cost then ⟨cost, count, length⟩ else b
        | none => ⟨cost, count, length⟩
      match rest with
      | [] => best
      | w :: rest =>
        let length := length + last.space + w.text.length
        if length < s.width then go length (count + 1) w rest ways (some best) else best
    | _, [], best => best.getD ⟨0, count, length⟩

/-- The best ways to break a paragraph from each of its words on, and for its end. -/
def breaks (s : FmtStyle) (first other : Nat) (words : List FmtWord) : List Break :=
  (words.zipIdx.reverse.foldl (fun (tail, ways) (w, i) =>
      let tail := w :: tail
      let way := bestBreak s (if i = 0 then first else other) tail ways
      let before (n : Nat) : Option FmtWord := if n ≤ i then words[i - n]? else none
      let start := startCost (before 1) (before 2) w
      (tail, { way with cost := way.cost + start } :: ways))
    (([] : List FmtWord), [(⟨0, 0, 0⟩ : Break)])).2

/-- Blanks from one column to another, as tabs where that may be. -/
def blanksTo (usesTabs : Bool) (column target : Nat) : List Char :=
  let tabTarget := target / 8 * 8
  if usesTabs && column + 1 < tabTarget then
    List.replicate (tabTarget / 8 - column / 8) '\t' ++ List.replicate (target - tabTarget) ' '
  else List.replicate (target - column) ' '

/-- A line of words. -/
def lineText (usesTabs : Bool) (indent : Nat) (words : List FmtWord) : List Char :=
  let front := blanksTo usesTabs 0 indent
  go indent words front
where
  /-- Goes on at a column. -/
  go (column : Nat) : List FmtWord → List Char → List Char
    | [], text => text ++ ['\n']
    | [w], text => text ++ w.text ++ ['\n']
    | w :: rest, text =>
      let column := column + w.text.length
      go (column + w.space) rest (text ++ w.text ++ blanksTo usesTabs column (column + w.space))

/-- The lines of a paragraph. -/
def layOut (usesTabs : Bool) (other : Nat) : (fuel : Nat) → (indent : Nat) → List FmtWord → List Break → List Char
  | 0, _, _, _ => []
  | _ + 1, _, [], _ => []
  | fuel + 1, indent, words, ways =>
    let n := max ((ways.head?.map (·.words)).getD 1) 1
    lineText usesTabs indent (words.take n) ++ layOut usesTabs other fuel other (words.drop n) (ways.drop n)

/-- A paragraph of lines. -/
def paragraph (s : FmtStyle) (usesTabs : Bool) (other : Nat) (lines : List FmtLine) : List Char :=
  match lines with
  | [] => []
  | l :: _ =>
    let words := lines.flatMap (·.words)
    let words := words.dropLast ++ words.getLast?.toList.map fun w => { w with isPeriod := true, isFinal := true }
    layOut usesTabs other (words.length + 1) l.indent words (s.breaks l.indent other words)

/-- How many lines belong to a paragraph, and how its other lines are indented. -/
def extent (s : FmtStyle) (lines : List FmtLine) : Nat × Nat :=
  match lines with
  | [] => (0, 0)
  | l :: rest =>
    let following (other : Nat) : Nat :=
      1 + (rest.takeWhile fun k => !k.words.isEmpty && k.indent = other).length
    let next? := rest.head?.filter fun k => !k.words.isEmpty
    if s.isSplit then (1, l.indent)
    else if s.isCrown then
      match next? with
      | some k => (following k.indent, k.indent)
      | none => (1, l.indent)
    else if s.isTagged then
      match next? with
      | some k =>
        if k.indent ≠ l.indent then (following k.indent, k.indent) else (1, if l.indent = 0 then 3 else 0)
      | none => (1, if l.indent = 0 then 3 else 0)
    else (following l.indent, l.indent)

/-- A text of lines with its paragraphs filled. -/
def fill (s : FmtStyle) (usesTabs : Bool) : (fuel : Nat) → List FmtLine → List Char
  | 0, _ => []
  | _ + 1, [] => []
  | fuel + 1, l :: rest =>
    if l.words.isEmpty then '\n' :: fill s usesTabs fuel rest
    else
      let (n, other) := s.extent (l :: rest)
      s.paragraph usesTabs other ((l :: rest).take n) ++ fill s usesTabs fuel ((l :: rest).drop n)

end FmtStyle

def fillParagraphs (name : String) (arguments : List String) : Action Nat :=
  let arguments :=
    match arguments with
    | a :: rest =>
      match a.toList with
      | '-' :: c :: ds => if isDigit c then ("-w" ++ String.ofList (c :: ds)) :: rest else arguments
      | _ => arguments
    | [] => []
  withOptions name (.of "cstuw:p:g:" [("crown-margin", "c"), ("prefix=", "p"), ("split-only", "s"),
    ("tagged-paragraph", "t"), ("uniform-spacing", "u"), ("width=", "w"), ("goal=", "g"), ("help", "help"),
    ("version", "version")]) true 1 arguments fun given files => do
    let number (option : String) (most : Nat) : Except String (Option Nat) :=
      match value? given option with
      | none => .ok none
      | some s =>
        match (natural? s.toList).filter (· ≤ most) with
        | some n => .ok (some n)
        | none =>
          let reason := if (natural? s.toList).isSome then ": Numerical result out of range" else ""
          .error ("invalid width: " ++ Quotation.quoted s ++ reason)
    match number "w" 2500, number "g" 2500 with
    | .error e, _ | _, .error e => giveUp name e 1
    | .ok width, .ok goal =>
      let (width, goal) :=
        match width, goal with
        | some w, some g => (w, g)
        | some w, none => (w, w * 187 / 200)
        | none, some g => (g + 10, g)
        | none, none => (75, 70)
      let s : FmtStyle := ⟨width, goal, has given "u", has given "s", has given "c", has given "t"⟩
      let (texts, status) ← readAll name 1
        (fun file u =>
          match u with
          | .opening e => "cannot open " ++ Quotation.inShellQuotes file ++ " for reading: " ++ e.description
          | .reading e => "read error: " ++ e.description) files
      let lay (cs : List Char) : List Char :=
        let isRagged := cs.getLast?.any (· ≠ '\n')
        let all := bareLines '\n' cs
        let lines := all.zipIdx.map fun (l, i) =>
          let (column, rest) := FmtStyle.skipBlanks 0 l
          (⟨column, s.wordsOf (isRagged && i + 1 = all.length) (rest.length + 1) column rest⟩ : FmtLine)
        s.fill (cs.contains '\t') (lines.length + 1) lines
      finish name 1 (texts.flatMap fun t => lay t.2) status

end Utility

end AddonAtlas.Shell
