import AddonAtlas.Shell.Utility.Basic

/-!
# Programs that work on parts of lines

Programs that cut out, or put together, fields and columns of lines, and that compare sorted files line by
line.
-/

namespace AddonAtlas.Shell

namespace Utility

open Shell.Action

/-! ## Repeated lines -/

/-- Runs of lines that count as the same, in their order. -/
def runsOf (same : Line → Line → Bool) (lines : List Line) : List (List Line) :=
  (lines.foldl (fun (found : List (List Line)) l =>
    match found with
    | (k :: more) :: rest => if same k l then (k :: l :: more) :: rest else [l] :: found
    | _ => [l] :: found) []).reverse.map fun run =>
      match run with
      | k :: more => k :: more.reverse
      | [] => []

/-- What of a line counts: behind some fields and some characters, and no more than so much. -/
def countedPart (fields skipped : Nat) (width : Option Nat) (ignoresCase : Bool) (l : Line) : Line :=
  let isBlank (c : Char) : Bool := c == ' ' || c == '\t'
  let rec skip : Nat → Line → Line
    | 0, l => l
    | n + 1, l => skip n ((l.dropWhile isBlank).dropWhile fun c => !isBlank c)
  let l := (skip fields l).drop skipped
  let l :=
    match width with
    | some n => l.take n
    | none => l
  if ignoresCase then l.map Char.toUpper else l

/-- The arguments with numbers behind a hyphen in the old way turned into options. -/
def withOldNumbers (letter : Char) (arguments : List String) : List String :=
  arguments.map fun a =>
    match a.toList with
    | '-' :: c :: cs => if isDigit c && cs.all isDigit then String.ofList ('-' :: letter :: c :: cs) else a
    | _ => a

/-- Leaves out repeated lines. `write` writes a file. -/
def unrepeated (write : String → List Char → Action (Option Errno)) (name : String) (arguments : List String) :
    Action Nat :=
  let t := Options.Table.of "cdDf:is:uw:z" [("count", "c"), ("repeated", "d"), ("all-repeated?", "D"),
    ("group?", "group"), ("skip-fields=", "f"), ("ignore-case", "i"), ("skip-chars=", "s"), ("unique", "u"),
    ("check-chars=", "w"), ("zero-terminated", "z")]
  withOptions name t true 1 (withOldNumbers 'f' arguments) fun given files => do
    let number (o what : String) : Except String (Option Nat) :=
      match value? given o with
      | none => .ok none
      | some s =>
        match natural? s.toList with
        | some n => .ok (some n)
        | none => .error (s ++ ": invalid number of " ++ what)
    let numbers : Except String (Nat × Nat × Option Nat) := do
      let fields ← number "f" "fields to skip"
      let skipped ← number "s" "bytes to skip"
      let width ← number "w" "bytes to compare"
      return (fields.getD 0, skipped.getD 0, width)
    match numbers, files with
    | .error message, _ => giveUp name message 1
    | _, _ :: _ :: extra :: _ => misuse name ("extra operand " ++ Quotation.quoted extra) 1
    | .ok (fields, skipped, width), _ =>
      let file := files.headD "-"
      match ← read file with
      | .error (.opening e) => giveUp name (plainRefusal file (.opening e)) 1
      | .error (.reading e) => giveUp name ("error reading " ++ Quotation.inShellQuotes file ++ ": " ++ e.description) 1
      | .ok b =>
        let ending := lineEnd given
        let counted := countedPart fields skipped width (has given "i")
        let runs := runsOf (fun a b => counted a == counted b) (bareLines ending (charactersOf b))
        let all := last? given ["D", "group"]
        let shown : List Line :=
          match all with
          | some g =>
            let runs := if g.option = "D" then runs.filter fun r => 1 < r.length else runs
            let method := g.value.getD (if g.option = "D" then "none" else "separate")
            let inFront := method = "prepend" || method = "both"
            let between := method = "separate" || method = "both" || method = "append" || inFront
            let blocks := runs.zipIdx.map fun (r, i) =>
              (if (i ≠ 0 && between && method ≠ "append") || (i = 0 && inFront) then [[]] else []) ++ r ++
                (if method = "append" || (method = "both" && i + 1 = runs.length) then [[]] else [])
            blocks.flatten
          | none =>
            let kept := runs.filter fun r =>
              (!has given "d" || 1 < r.length) && (!has given "u" || r.length = 1)
            kept.map fun r =>
              (if has given "c" then filledNumber 7 r.length ++ [' '] else []) ++ r.headD []
        let cs := joined ending shown
        match files with
        | [_, target] =>
          if target = "-" then finish name 1 cs 0
          else
            match ← write target cs with
            | none => return 0
            | some e => giveUp name (Quotation.forShell target ++ ": " ++ e.description) 1
        | _ => finish name 1 cs 0

/-! ## Ranges -/

/-- Places counted from one: from a first one up to a last one, if there is one. -/
abbrev Range := Nat × Option Nat

/-- What was read of a list of ranges. -/
structure RangeReading where
  dash : Bool
  left : Option Nat
  right : Option Nat

/-- The ranges of a list such as `1,3-5`. -/
def rangesOf (ofFields : Bool) (s : String) : Except String (List Range) :=
  let kind := if ofFields then "field" else "byte/character position"
  let fromOne := if ofFields then "fields are numbered from 1" else "byte/character positions are numbered from 1"
  let invalid := if ofFields then "invalid field range" else "invalid byte or character range"
  let close (r : RangeReading) : Except String Range :=
    if r.dash then
      match r.left, r.right with
      | none, none => .error "invalid range with no endpoint: -"
      | left, none => .ok (left.getD 1, none)
      | left, some n => if n < left.getD 1 then .error "invalid decreasing range" else .ok (left.getD 1, some n)
    else
      match r.left with
      | none | some 0 => .error fromOne
      | some n => .ok (n, some n)
  let rec go : (fuel : Nat) → RangeReading → List Char → Except String (List Range)
    | 0, _, _ => .ok []
    | fuel + 1, r, cs => do
      match cs with
      | [] => return [← close r]
      | c :: rest =>
        if c = '-' then
          if r.dash then .error invalid
          else if r.left = some 0 then .error fromOne
          else go fuel { r with dash := true } rest
        else if c = ',' || c = ' ' || c = '\t' then
          let range ← close r
          return range :: (← go fuel ⟨false, none, none⟩ rest)
        else if isDigit c then
          let (n, after) := Arithmetic.digitsOf 10 cs
          go fuel (if r.dash then { r with right := some n } else { r with left := some n }) after
        else
          .error ("invalid " ++ kind ++ (if ofFields then " value " else " ") ++
            Quotation.quoted (String.ofList cs))
  if s.isEmpty then .error (if ofFields then "fields are numbered from 1" else fromOne)
  else go (s.length + 2) ⟨false, none, none⟩ s.toList

/-- Ranges in order, those that touch put together. -/
def mergedRanges (ranges : List Range) : List Range :=
  (ranges.mergeSort fun a b => decide (a.1 ≤ b.1)).foldr (fun r found =>
    match found with
    | (low, high) :: rest =>
      match r.2 with
      | none => [r]
      | some last =>
        if low ≤ last then (r.1, high.map fun h => max h last) :: rest else r :: found
    | [] => [r]) []

/-- The places that are in none of some merged ranges. -/
def otherRanges (ranges : List Range) : List Range :=
  go 1 ranges
where
  /-- Goes on from a place. -/
  go (next : Nat) : List Range → List Range
    | [] => [(next, none)]
    | (low, high) :: rest =>
      (if next < low then [(next, some (low - 1))] else []) ++
        (match high with
        | some h => go (max next (h + 1)) rest
        | none => [])

def isInRanges (ranges : List Range) (i : Nat) : Bool :=
  ranges.any fun (low, high) => low ≤ i && high.all (i ≤ ·)

/-- The chosen bytes of a line, with a text between those of different ranges. -/
def cutBytes (between : Option (List Char)) (ranges : List Range) (l : Line) : Line :=
  match between with
  | none => (l.zipIdx 1).filterMap fun (c, i) => if isInRanges ranges i then some c else none
  | some between =>
    (l.zipIdx 1).flatMap fun (c, i) =>
      if isInRanges ranges i then
        (if ranges.any (fun r => r.1 = i) && ranges.any (fun r => r.1 < i) then between else []) ++ [c]
      else []

/-- The chosen fields of a line. A line without a separator stays as it is, or is left out. -/
def cutFields (separator : Char) (between : List Char) (onlySeparated : Bool) (ranges : List Range) (l : Line) :
    Option Line :=
  if l.contains separator then
    let kept := ((l.splitOn separator).zipIdx 1).filterMap fun (f, i) =>
      if isInRanges ranges i then some f else none
    some (List.flatten (kept.intersperse between))
  else if onlySeparated then none
  else some l

def cut (name : String) (arguments : List String) : Action Nat :=
  let t := Options.Table.of "b:c:d:f:nsz" [("bytes=", "b"), ("characters=", "c"), ("fields=", "f"),
    ("delimiter=", "d"), ("only-delimited", "s"), ("output-delimiter=", "output"),
    ("complement", "complement"), ("zero-terminated", "z")]
  withOptions name t true 1 arguments fun given files => do
    let lists := given.filter fun g => ["b", "c", "f"].contains g.option
    let fault (message : String) : Action Nat := misuse name message 1
    match lists with
    | [] => fault "you must specify a list of bytes, characters, or fields"
    | _ :: _ :: _ => fault "only one list may be specified"
    | [list] =>
      let byFields := list.option = "f"
      let separator? := (value? given "d").map fun s =>
        match s.toList with
        | [] => some '\x00'
        | [c] => some c
        | _ => none
      if separator? = some none then fault "the delimiter must be a single character"
      else if !byFields && separator?.isSome then
        fault "an input delimiter may be specified only when operating on fields"
      else if !byFields && has given "s" then
        fault "suppressing non-delimited lines makes sense\n\tonly when operating on fields"
      else
        match rangesOf byFields (list.value.getD "") with
        | .error message => fault message
        | .ok ranges =>
          let ranges := mergedRanges ranges
          let ranges := if has given "complement" then otherRanges ranges else ranges
          let (cs, status) ← readText name 1 files
          let separator := separator?.join.getD '\t'
          let between? := (value? given "output").map fun s => if s.isEmpty then ['\x00'] else s.toList
          let ending := lineEnd given
          let lines := (bareLines ending cs).filterMap fun l =>
            if byFields then cutFields separator (between?.getD [separator]) (has given "s") ranges l
            else some (cutBytes between? ranges l)
          finish name 1 (joined ending lines) status

/-! ## Pasting -/

/-- The delimiters that a text lists, one after the other; an empty one is none. -/
def delimitersOf : List Char → Option (List (List Char))
  | [] => some []
  | ['\\'] => none
  | '\\' :: c :: rest =>
    let d :=
      match c with
      | '0' => []
      | 'b' => ['\x08']
      | 'f' => ['\x0c']
      | 'n' => ['\n']
      | 'r' => ['\r']
      | 't' => ['\t']
      | 'v' => ['\x0b']
      | c => [c]
    (delimitersOf rest).map (d :: ·)
  | c :: rest => (delimitersOf rest).map ([c] :: ·)

/-- A list put together with delimiters, over and over. -/
def interspersed (delimiters : List (List Char)) (lines : List Line) : List Char :=
  (lines.zipIdx).flatMap fun (l, i) =>
    (if i = 0 then [] else delimiters.getD ((i - 1) % max 1 delimiters.length) []) ++ l

/-- The lines of files side by side. A file that stands there several times gives one line after the other. -/
def pasted (delimiters : List (List Char)) (ending : Char) (sources : List Nat) :
    (fuel : Nat) → List (List Line) → List Char
  | 0, _ => []
  | fuel + 1, contents =>
    let (row, contents) := sources.foldl (fun ((row : List (Option Line)), (contents : List (List Line))) k =>
      match contents.getD k [] with
      | l :: rest => (some l :: row, contents.set k rest)
      | [] => (none :: row, contents)) ([], contents)
    if row.all Option.isNone then []
    else
      interspersed delimiters (row.reverse.map (·.getD [])) ++ ending ::
        pasted delimiters ending sources fuel contents

def paste (name : String) (arguments : List String) : Action Nat :=
  let t := Options.Table.of "d:sz" [("delimiters=", "d"), ("serial", "s"), ("zero-terminated", "z")]
  withOptions name t true 1 arguments fun given files => do
    let files := if files.isEmpty then ["-"] else files
    let list := (value? given "d").getD "\t"
    let ending := lineEnd given
    match delimitersOf (if list.isEmpty then ['\\', '0'] else list.toList) with
    | none => giveUp name ("delimiter list ends with an unescaped backslash: " ++ list) 1
    | some delimiters =>
      if has given "s" then
        let (texts, status) ← readAll name 1 plainRefusal files
        let rows := texts.map fun (_, cs) => interspersed delimiters (bareLines ending cs)
        finish name 1 (joined ending rows) status
      else
        let names := files.eraseDups
        let mut contents : List (List Line) := []
        for file in names do
          match ← read file with
          | .ok b => contents := bareLines ending (charactersOf b) :: contents
          | .error u => return ← giveUp name (plainRefusal file u) 1
        let sources := files.map fun file => (names.idxOf? file).getD 0
        let rows := (contents.map List.length).sum + 1
        finish name 1 (pasted delimiters ending sources rows contents.reverse) 0

/-! ## Comparing sorted files -/

/-- The lines of two sorted lists by whether they are only in the first one, only in the second one, or in
both. -/
def compared : (fuel : Nat) → List Line → List Line → List (Nat × Line)
  | 0, _, _ => []
  | _ + 1, [], [] => []
  | _ + 1, a, [] => a.map fun l => (1, l)
  | _ + 1, [], b => b.map fun l => (2, l)
  | fuel + 1, a :: as, b :: bs =>
    if a = b then (3, a) :: compared fuel as bs
    else if a < b then (1, a) :: compared fuel as (b :: bs)
    else (2, b) :: compared fuel (a :: as) bs

/-- Whether any line stands behind one that it should stand in front of. -/
def isDisordered (lines : List Line) : Bool :=
  (lines.zip (lines.drop 1)).any fun (a, b) => decide (b < a)

/-- Checks the number of files of a program that takes two. -/
def withTwoFiles (name : String) (files : List String) (k : String → String → Action Nat) : Action Nat :=
  match files with
  | [] => misuse name "missing operand" 1
  | [a] => misuse name ("missing operand after " ++ Quotation.quoted a) 1
  | [a, b] => k a b
  | _ :: _ :: extra :: _ => misuse name ("extra operand " ++ Quotation.quoted extra) 1

def common (name : String) (arguments : List String) : Action Nat :=
  let t := Options.Table.of "123z" [("check-order", "check"), ("nocheck-order", "nocheck"),
    ("output-delimiter=", "output"), ("total", "total"), ("zero-terminated", "z")]
  withOptions name t true 1 arguments fun given files =>
    withTwoFiles name files fun a b => do
      let ending := lineEnd given
      let mut found : List (List Line) := []
      for file in [a, b] do
        match ← read file with
        | .ok b => found := bareLines ending (charactersOf b) :: found
        | .error u => return ← giveUp name (plainRefusal file u) 1
      let left := found.getD 1 []
      let right := found.getD 0 []
      let rows := compared (left.length + right.length + 1) left right
      let between := ((value? given "output").getD "\t").toList
      let shows (n : Nat) : Bool := !has given (toString n)
      let front (n : Nat) : List Char :=
        ((List.range n).filter fun k => 1 ≤ k && shows k).flatMap fun _ => between
      let shown := rows.flatMap fun (n, l) => if shows n then front n ++ l ++ [ending] else []
      let total :=
        if has given "total" then
          let count (n : Nat) : List Char := (toString (rows.filter fun r => r.1 = n).length).toList
          count 1 ++ between ++ count 2 ++ between ++ count 3 ++ between ++ "total".toList ++ [ending]
        else []
      let checks := !has given "nocheck" &&
        (has given "check" || rows.any fun r => r.1 ≠ 3)
      let status ← finish name 1 (shown ++ total) 0
      let bad := ([(left, 1), (right, 2)].filter fun f => isDisordered f.1).map (·.2)
      if !checks || bad.isEmpty then return status
      else
        for n in bad do
          complain name ("file " ++ toString n ++ " is not in sorted order")
        return ← giveUp name "input is not in sorted order" 1

/-! ## Joining -/

/-- A field of a joined line: the one that was compared, or one of a file. -/
inductive JoinField
  | key
  | field (file place : Nat)

/-- How files are joined. -/
structure JoinRule where
  separator : Option Char
  keys : Nat × Nat
  ignoresCase : Bool
  /-- The files whose lines are shown if they have no partner. -/
  unpaired : List Nat
  showsPairs : Bool
  missing : List Char
  format : Option (List JoinField)

namespace JoinRule

def fieldsOf (r : JoinRule) (l : Line) : List Line :=
  match r.separator with
  | some c => l.splitOn c
  | none =>
    let isBlank (c : Char) : Bool := c == ' ' || c == '\t' || c == '\n'
    (l.splitBy fun a b => isBlank a == isBlank b).filter fun w => !w.all isBlank

def keyOf (r : JoinRule) (file : Nat) (fields : List Line) : Line :=
  let key := fields.getD ((if file = 1 then r.keys.1 else r.keys.2) - 1) []
  if r.ignoresCase then key.map Char.toUpper else key

/-- A joined line of the fields of one or both files. -/
def render (r : JoinRule) (first second : Option (List Line)) : Line :=
  let separator := r.separator.getD ' '
  let ofFile (n : Nat) : Option (List Line) := if n = 1 then first else second
  let key : Option Line :=
    match first, second with
    | some f, _ => f[r.keys.1 - 1]?
    | none, some f => f[r.keys.2 - 1]?
    | none, none => none
  let shown (f : Option Line) : Line :=
    match f with
    | some [] | none => r.missing
    | some l => l
  let fields :=
    match r.format with
    | some format => format.map fun f =>
      match f with
      | JoinField.key => shown key
      | JoinField.field file place => shown ((ofFile file).bind fun l => l[place - 1]?)
    | none =>
      let others (file : Nat) (key : Nat) : List Line :=
        (((ofFile file).getD []).zipIdx 1).filterMap fun (f, i) =>
          if i = key then none else some (shown (some f))
      shown key :: others 1 r.keys.1 ++ others 2 r.keys.2
  List.flatten (fields.intersperse [separator])

/-- The lines of two lists whose keys are in order, joined. -/
def join (r : JoinRule) : (fuel : Nat) → List (List Line) → List (List Line) → List Line
  | 0, _, _ => []
  | fuel + 1, left, right =>
    let alone (file : Nat) (f : List Line) : List Line :=
      if r.unpaired.contains file then
        [if file = 1 then r.render (some f) none else r.render none (some f)]
      else []
    match left, right with
    | [], [] => []
    | a :: as, [] => alone 1 a ++ join r fuel as []
    | [], b :: bs => alone 2 b ++ join r fuel [] bs
    | a :: as, b :: bs =>
      let x := r.keyOf 1 a
      let y := r.keyOf 2 b
      if x < y then alone 1 a ++ join r fuel as (b :: bs)
      else if y < x then alone 2 b ++ join r fuel (a :: as) bs
      else
        let same := (a :: as).takeWhile fun f => r.keyOf 1 f = x
        let partners := (b :: bs).takeWhile fun f => r.keyOf 2 f = x
        let pairs :=
          if r.showsPairs then same.flatMap fun f => partners.map fun g => r.render (some f) (some g) else []
        pairs ++ join r fuel ((a :: as).drop same.length) ((b :: bs).drop partners.length)

end JoinRule

/-- The fields that a format lists. -/
def joinFormat? (s : String) : Option (List JoinField) :=
  let parts := (s.toList.splitBy fun a b =>
    (a == ',' || a == ' ' || a == '\t') == (b == ',' || b == ' ' || b == '\t')).filter fun p =>
      !p.any fun c => c == ',' || c == ' ' || c == '\t'
  parts.mapM fun p =>
    match p with
    | ['0'] => some JoinField.key
    | '1' :: '.' :: ds => (natural? ds).map (JoinField.field 1)
    | '2' :: '.' :: ds => (natural? ds).map (JoinField.field 2)
    | _ => none

def join (name : String) (arguments : List String) : Action Nat :=
  let t := Options.Table.of "1:2:a:e:ij:o:t:v:z" [("ignore-case", "i"), ("check-order", "check"),
    ("nocheck-order", "nocheck"), ("zero-terminated", "z"), ("header", "header")]
  withOptions name t true 1 arguments fun given files =>
    withTwoFiles name files fun a b => do
      let number (o : String) : Option Nat := (value? given o).bind fun s => natural? s.toList
      match given.find? fun g => ["1", "2", "j"].contains g.option && ((g.value.bind fun s => natural? s.toList).getD 0 = 0) with
      | some g => giveUp name ("invalid field number: " ++ Quotation.quoted (g.value.getD "")) 1
      | none =>
        let files (o : String) : List Nat :=
          (given.filter fun g => g.option = o).filterMap fun g => g.value.bind fun s => natural? s.toList
        let format := (given.filter fun g => g.option = "o").filterMap (·.value)
        let r : JoinRule :=
          { separator := (value? given "t").map fun s => s.toList.headD '\n'
            keys := ((number "1").getD ((number "j").getD 1), (number "2").getD ((number "j").getD 1))
            ignoresCase := has given "i"
            unpaired := files "a" ++ files "v"
            showsPairs := !has given "v"
            missing := ((value? given "e").getD "").toList
            format :=
              if format.isEmpty || format = ["auto"] then none else joinFormat? (",".intercalate format) }
        let ending := lineEnd given
        let mut found : List (List Line) := []
        for file in [a, b] do
          match ← read file with
          | .ok b => found := bareLines ending (charactersOf b) :: found
          | .error u => return ← giveUp name (plainRefusal file u) 1
        let left := (found.getD 1 []).map r.fieldsOf
        let right := (found.getD 0 []).map r.fieldsOf
        let header := has given "header"
        let first :=
          if header && !(left.isEmpty && right.isEmpty) then
            [r.render (some (left.headD [])) (some (right.headD []))]
          else []
        let left := if header then left.drop 1 else left
        let right := if header then right.drop 1 else right
        let rows := first ++ r.join (left.length + right.length + 1) left right
        finish name 1 (joined ending rows) 0

end Utility

end AddonAtlas.Shell
