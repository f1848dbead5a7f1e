import AddonAtlas.Shell.Expression.Reading
import AddonAtlas.Shell.Utility.Files

/-!
# Programs that cut files into pieces

Files of so many lines or bytes each, files that end where a line matches an expression, and copies block by
block.
-/

namespace AddonAtlas.Shell

namespace Utility

open Shell.Action

/-! ## Pieces of one size -/

/-- The ending of a piece's name by its number: so many characters of an alphabet. -/
def pieceSuffix (alphabet : List Char) : (length : Nat) → (number : Nat) → List Char
  | 0, _ => []
  | length + 1, number => pieceSuffix alphabet length (number / alphabet.length) ++
    [alphabet.getD (number % alphabet.length) '0']

/-- Lines together in pieces that have at most so many bytes; longer lines are cut. -/
def packed (size : Nat) : (fuel : Nat) → (current : List Char) → List Line → List (List Char)
  | 0, current, _ => if current.isEmpty then [] else [current]
  | _ + 1, current, [] => if current.isEmpty then [] else [current]
  | fuel + 1, current, l :: rest =>
    if current.length + l.length ≤ size then packed size fuel (current ++ l) rest
    else if !current.isEmpty then current :: packed size fuel [] (l :: rest)
    else l.take size :: packed size fuel [] (l.drop size :: rest)

/-- A text in so many pieces of the same size, the last of which takes what is left over. -/
def equalPieces (count : Nat) (cs : List Char) : List (List Char) :=
  let size := cs.length / count
  let extra := cs.length % count
  go (List.range count) size extra cs
where
  /-- Cuts off the pieces of some numbers; the first ones have one character more. -/
  go (numbers : List Nat) (size extra : Nat) (cs : List Char) : List (List Char) :=
    match numbers with
    | [] => []
    | i :: rest =>
      let n := if i < extra then size + 1 else size
      cs.take n :: go rest size extra (cs.drop n)

/-- Lines in so many pieces: a line belongs to the piece in which its first byte would be. -/
def equalLines (count : Nat) (cs : List Char) : List (List Char) :=
  let size := cs.length / count
  let extra := cs.length % count
  let pieceOf (offset : Nat) : Nat :=
    if offset < (size + 1) * extra then offset / (size + 1)
    else if size = 0 then count - 1 else min (count - 1) ((offset - extra) / size)
  let placed := ((linesOf '\n' cs).foldl (fun (done, offset) l =>
    ((pieceOf offset, l) :: done, offset + l.length)) (([] : List (Nat × Line)), 0)).1.reverse
  (List.range count).map fun i => (placed.filter fun p => p.1 = i).flatMap (·.2)

def splitOptions : Options.Table :=
  .of "0123456789C:a:b:del:n:t:ux" [("bytes=", "b"), ("lines=", "l"), ("line-bytes=", "C"), ("number=", "n"),
    ("elide-empty-files", "e"), ("unbuffered", "u"), ("suffix-length=", "a"), ("additional-suffix=", "additional"),
    ("numeric-suffixes?", "d"), ("hex-suffixes?", "x"), ("filter=", "filter"), ("verbose", "verbose"),
    ("separator=", "t"), ("help", "help"), ("version", "version")]

def split (name : String) (arguments : List String) : Action Nat :=
  let arguments := arguments.map fun a =>
    match a.toList with
    | '-' :: c :: rest => if isDigit c && rest.all isDigit then String.ofList ('-' :: 'l' :: c :: rest) else a
    | _ => a
  withOptions name splitOptions true 1 arguments fun given operands => do
    match operands with
    | _ :: _ :: extra :: _ => misuse name ("extra operand " ++ Quotation.quoted extra) 1
    | _ =>
      let file := operands.headD "-"
      let front := operands.getD 1 "x"
      let ending := ((value? given "t").bind fun s => s.toList.head?).getD '\n'
      let number (option what : String) : Except String (Option Nat) :=
        match value? given option with
        | none => .ok none
        | some s =>
          match (amount? s.toList).filter (0 < ·) with
          | some n => .ok (some n)
          | none => .error ("invalid number of " ++ what ++ ": " ++ Quotation.quoted s)
      match number "l" "lines", number "b" "bytes", number "C" "bytes" with
      | .error e, _, _ | _, .error e, _ | _, _, .error e => giveUp name e 1
      | .ok lines, .ok bytes, .ok packedBytes =>
        match ← read file with
        | .error (.opening e) =>
          giveUp name ("cannot open " ++ Quotation.inShellQuotes file ++ " for reading: " ++ e.description) 1
        | .error (.reading e) => giveUp name (Quotation.forShell file ++ ": " ++ e.description) 1
        | .ok b =>
          let cs := charactersOf b
          let chunk := ((value? given "n").getD "").splitOn "/"
          let pieces :=
            match bytes, packedBytes, chunk with
            | some n, _, _ => chunks n cs
            | none, some n, _ => packed n (2 * cs.length + 2) [] (linesOf ending cs)
            | none, none, ["l", n] => equalLines (max (n.toNat?.getD 1) 1) cs
            | none, none, ["r", n] =>
              let count := max (n.toNat?.getD 1) 1
              let all := (linesOf ending cs).zipIdx
              (List.range count).map fun i => (all.filter fun (l : Line × Nat) => l.2 % count = i).flatMap fun (l : Line × Nat) => l.1
            | none, none, [n] =>
              if n.isEmpty then (chunks (lines.getD 1000) (linesOf ending cs)).map List.flatten
              else equalPieces (max (n.toNat?.getD 1) 1) cs
            | _, _, _ => [cs]
          let pieces := if has given "e" then pieces.filter (!List.isEmpty ·) else pieces
          let alphabet :=
            match last? given ["d", "x"] with
            | some ⟨"d", _, _⟩ => "0123456789".toList
            | some _ => "0123456789abcdef".toList
            | none => "abcdefghijklmnopqrstuvwxyz".toList
          let start := (((last? given ["d", "x"]).bind (·.value)).bind String.toNat?).getD 0
          let length := ((value? given "a").bind String.toNat?).getD 2
          let mut status := 0
          for (p, i) in pieces.zipIdx do
            if status = 0 then
              if alphabet.length ^ length ≤ i + start then
                complain name "output file suffixes exhausted"
                status := 1
              else
                let path := front ++ String.ofList (pieceSuffix alphabet length (i + start)) ++
                  (value? given "additional").getD ""
                if has given "verbose" then
                  let _ ← put (toBytes ("creating file " ++ Quotation.inShellQuotes path ++ "\n").toList)
                if let some e := ← writeText path p then
                  complain name (Quotation.forShell path ++ ": " ++ e.description)
                  status := 1
          return status

/-! ## Pieces by contexts -/

/-- Where a piece ends. -/
inductive Cut
  /-- In front of the line of a number. -/
  | line (n : Nat)
  /-- At an offset from a line that matches. What is skipped is not written. -/
  | matching (e : Expression) (offset : Int) (isSkipped : Bool)

/-- A cut, the argument it was read from, and how often it is repeated; nothing if without end. -/
structure RepeatedCut where
  cut : Cut
  shown : String
  times : Option Nat

/-- A cut and how often it is repeated, read from an argument and the one behind it if that is a count. -/
def cutOf (a : String) (after : Option String) : Except String (RepeatedCut × Bool) := do
  let (times, takesCount) : Option Nat × Bool ←
    match after.map String.toList with
    | some ('\x7b' :: inner) =>
      match inner.reverse with
      | '\x7d' :: inner =>
        let inner := inner.reverse
        if inner = ['*'] then pure (none, true)
        else
          match natural? inner with
          | some n => pure (some n, true)
          | none => throw (Quotation.quoted (after.getD "") ++ "\x7d: integer required between '\x7b' and '\x7d'")
      | _ => throw (after.getD "" ++ ": '\x7d' is required in repeat count")
    | _ => pure (some 0, false)
  let missing : Except String (RepeatedCut × Bool) := throw (Quotation.quoted a ++ ": invalid pattern")
  match a.toList with
  | d :: body =>
    if d = '/' ∨ d = '%' then
      let tail := (body.reverse.takeWhile (· != d)).reverse
      if tail.length = body.length then throw (a ++ ": closing delimiter '" ++ String.ofList [d] ++ "' missing")
      let pattern := body.take (body.length - tail.length - 1)
      let offset? : Option Int :=
        match tail with
        | [] => some 0
        | '+' :: ds => (natural? ds).map fun n => (n : Int)
        | '-' :: ds => (natural? ds).map fun n => -(n : Int)
        | ds => (natural? ds).map fun n => (n : Int)
      match offset?, Expression.parse (Expression.searching false) pattern with
      | none, _ => throw (a ++ ": integer expected after delimiter")
      | _, .error f => throw (a ++ ": invalid regular expression: " ++ f.message)
      | some offset, .ok e => return (⟨.matching e offset (d = '%'), a, times⟩, takesCount)
    else
      match natural? a.toList with
      | some 0 => throw (a ++ ": line number must be greater than zero")
      | some n => return (⟨.line n, a, times⟩, takesCount)
      | none => missing
  | [] => missing

/-- The cuts that arguments ask for. -/
def cutsOf : (fuel : Nat) → List String → Except String (List RepeatedCut)
  | 0, _ | _, [] => .ok []
  | fuel + 1, a :: rest => do
    let (cut, takesCount) ← cutOf a rest.head?
    return cut :: (← cutsOf fuel (if takesCount then rest.drop 1 else rest))

/-- What is still to be cut. -/
structure Cutting where
  rest : List Line
  /-- The number of the first line that is left. -/
  first : Nat
  /-- The number of the last line that was looked at. -/
  current : Nat
  /-- The pieces so far, the last one first. -/
  pieces : List (List Char)

/-- How a cut ends. -/
inductive CutEnd
  | onwards (c : Cutting)
  /-- There are no more lines, and that is well. -/
  | over (c : Cutting)
  | fault (c : Cutting) (message : String)

namespace Cutting

/-- Takes lines away. -/
def drop (c : Cutting) (n : Nat) : Cutting :=
  let n := min n c.rest.length
  if n = 0 then c
  else { c with rest := c.rest.drop n, first := c.first + n, current := max c.current (c.first + n - 1) }

/-- Makes a piece of lines. -/
def take (c : Cutting) (n : Nat) : Cutting :=
  { c.drop n with pieces := (c.rest.take n).flatten :: c.pieces }

/-- The words for a cut that fails when it is done for the so manieth time. -/
def failing (shown reason : String) (turn : Nat) : String :=
  Quotation.quoted shown ++ ": " ++ reason ++ (if turn = 0 then "" else " on repetition " ++ toString turn)

/-- Cuts once. -/
def cut (suppressesMatched : Bool) (c : Cutting) (k : RepeatedCut) (turn : Nat) : CutEnd :=
  match k.cut with
  | .line n =>
    let fault (c : Cutting) : CutEnd := .fault c (failing (toString n) "line number out of range" turn)
    let target := n * (turn + 1)
    if suppressesMatched && c.rest.isEmpty then fault { c with pieces := [] :: c.pieces }
    else
      let asked := target - c.first
      let done := c.take asked
      if c.rest.length < asked then fault done
      else
        let done := if suppressesMatched then done.drop 1 else done
        if !suppressesMatched && done.rest.isEmpty then fault done else .onwards done
  | .matching e offset isSkipped =>
    let from_ := max c.first (c.current + 1)
    let found := (c.rest.drop (from_ - c.first)).findIdx? fun l => e.isIn (Expression.subject (bare '\n' l))
    match found with
    | none =>
      let done := if isSkipped then c.drop c.rest.length else c.take c.rest.length
      if k.times.isNone then .over done
      else .fault done (failing k.shown "match not found" turn)
    | some i =>
      let line := from_ + i
      let breakLine : Int := (line : Int) + offset
      let c := { c with current := line }
      let outOfRange (c : Cutting) : CutEnd := .fault c (failing k.shown "line number out of range" 0)
      let asked := breakLine - c.first
      if asked < 0 then outOfRange (if isSkipped then c else { c with pieces := [] :: c.pieces })
      else
        let done := if isSkipped then c.drop asked.toNat else c.take asked.toNat
        if c.rest.length < asked then outOfRange done
        else
          let done := { done with current := if 0 < offset then breakLine.toNat else line }
          .onwards (if suppressesMatched then done.drop 1 else done)

/-- Cuts over and over. -/
def cutAgain (suppressesMatched : Bool) (k : RepeatedCut) : (fuel : Nat) → (turn : Nat) → Cutting → CutEnd
  | 0, _, c => .onwards c
  | fuel + 1, turn, c =>
    if k.times.any (· < turn) then .onwards c
    else
      match c.cut suppressesMatched k turn with
      | .onwards c => cutAgain suppressesMatched k fuel (turn + 1) c
      | ended => ended

/-- All cuts, and what is behind them as a last piece. -/
def cutAll (suppressesMatched : Bool) : List RepeatedCut → Cutting → CutEnd
  | [], c => .over (c.take c.rest.length)
  | k :: ks, c =>
    let fuel := (k.times.getD 0) + c.rest.length + 3
    match cutAgain suppressesMatched k fuel 0 c with
    | .onwards c => cutAll suppressesMatched ks c
    | ended => ended

end Cutting

def contextOptions : Options.Table :=
  .of "f:b:kn:sqz" [("digits=", "n"), ("quiet", "s"), ("silent", "s"), ("keep-files", "k"), ("elide-empty-files", "z"),
    ("prefix=", "f"), ("suffix-format=", "b"), ("suppress-matched", "suppress"), ("help", "help"),
    ("version", "version")]

/-- The name of a piece by its number. -/
def pieceName (given : List Options.Given) (i : Nat) : String :=
  let front := (value? given "f").getD "xx"
  match value? given "b" with
  | some format => front ++ String.ofList (Format.printf format [toString i]).output
  | none =>
    let digits := toString i
    let width := ((value? given "n").bind String.toNat?).getD 2
    front ++ String.ofList (List.replicate (width - digits.length) '0') ++ digits

def contextSplit (name : String) (arguments : List String) : Action Nat :=
  withOptions name contextOptions true 1 arguments fun given operands => do
    match operands with
    | [] => misuse name "missing operand" 1
    | [file] => misuse name ("missing operand after " ++ Quotation.quoted file) 1
    | file :: patterns =>
      match cutsOf (patterns.length + 1) patterns with
      | .error e => giveUp name e 1
      | .ok cuts =>
        match ← read file with
        | .error (.opening e) =>
          giveUp name ("cannot open " ++ Quotation.inShellQuotes file ++ " for reading: " ++ e.description) 1
        | .error (.reading e) => giveUp name ("read error: " ++ e.description) 1
        | .ok b =>
          let lines := linesOf '\n' (charactersOf b)
          let (c, fault?) :=
            match Cutting.cutAll (has given "suppress") cuts ⟨lines, 1, 0, []⟩ with
            | .onwards c | .over c => (c, none)
            | .fault c e => (c, some e)
          let pieces := c.pieces.reverse
          let pieces := if has given "z" then pieces.filter (!List.isEmpty ·) else pieces
          let mut status := 0
          for (p, i) in pieces.zipIdx do
            if fault?.isNone || has given "k" then
              if let some e := ← writeText (pieceName given i) p then
                complain name (Quotation.forShell (pieceName given i) ++ ": " ++ e.description)
                status := 1
            if !(has given "s" || has given "q") then
              let _ ← put (toBytes (toString p.length ++ "\n").toList)
          match fault? with
          | some e => giveUp name e 1
          | none => return status

/-! ## Blocks -/

/-- The value of an argument such as `bs=16`. -/
def blockArgument? (arguments : List String) (key : String) : Option String :=
  (arguments.reverse.find? fun a => a.startsWith (key ++ "=")).map fun a => (a.drop (key.length + 1)).toString

/-- A number of blocks or bytes, which may be a product. -/
def blockNumber? (s : String) : Option Nat :=
  ((s.toList.splitOn 'x').mapM fun (cs : List Char) =>
    match cs.reverse with
    | 'c' :: ds => natural? ds.reverse
    | 'w' :: ds => (natural? ds.reverse).map (2 * ·)
    | 'B' :: ds => if ds.all isDigit then natural? ds.reverse else amount? cs
    | _ => amount? cs).map List.prod

/-- The names of the arguments. -/
def blockKeys : List String :=
  ["if", "of", "bs", "ibs", "obs", "cbs", "count", "skip", "iseek", "seek", "oseek", "conv", "status", "iflag", "oflag"]

def copyBlocks (name : String) (arguments : List String) : Action Nat := do
  let arguments := if arguments.head? = some "--" then arguments.drop 1 else arguments
  match arguments.find? fun a => !(blockKeys.any fun k => a.startsWith (k ++ "=")) with
  | some a =>
    if a.startsWith "-" && a ≠ "-" then
      if a.startsWith "--" then misuse name ("unrecognized option '" ++ a ++ "'") 1
      else misuse name ("invalid option -- '" ++ String.ofList (a.toList.drop 1 |>.take 1) ++ "'") 1
    else misuse name ("unrecognized operand " ++ Quotation.quoted a) 1
  | none =>
    let numbers := ["bs", "ibs", "obs", "count", "skip", "iseek", "seek", "oseek"]
    match numbers.find? fun k => (blockArgument? arguments k).any fun s => (blockNumber? s).isNone with
    | some k => giveUp name ("invalid number: " ++ Quotation.quoted ((blockArgument? arguments k).getD "")) 1
    | none =>
      let number (k : String) : Option Nat := (blockArgument? arguments k).bind blockNumber?
      let conversions := ((blockArgument? arguments "conv").getD "").splitOn ","
      let flags := ((blockArgument? arguments "iflag").getD "").splitOn ","
      let blockSize := (number "bs").getD ((number "ibs").getD 512)
      let outSize := (number "bs").getD ((number "obs").getD 512)
      match ["bs", "ibs", "obs"].find? fun k => number k = some 0 with
      | some k => giveUp name ("invalid number: " ++ Quotation.quoted ((blockArgument? arguments k).getD "")) 1
      | none =>
        let source := blockArgument? arguments "if"
        let found ←
          match source with
          | some file =>
            if file = "/dev/zero" then
              pure (.ok (Bytes.ofList (List.replicate (blockSize * min ((number "count").getD 1) 100000) 0)))
            else readFile file
          | none => readInput
        match found with
        | .error (.opening e) =>
          giveUp name ("failed to open " ++ Quotation.inShellQuotes (source.getD "") ++ ": " ++ e.description) 1
        | .error (.reading e) =>
          giveUp name ("error reading " ++ Quotation.inShellQuotes (source.getD "standard input") ++ ": " ++ e.description) 1
        | .ok b =>
          let skipped := (number "skip").getD ((number "iseek").getD 0)
          let b := b.drop (if flags.contains "skip_bytes" then skipped else skipped * blockSize)
          let taken :=
            match number "count" with
            | some n => b.take (if flags.contains "count_bytes" then n else n * blockSize)
            | none => b
          if source.isNone then
            let m ← get
            if m.isInputSeekable then set (m.returnInput (b.drop taken.size))
          let convert (c : Char) : Char :=
            if conversions.contains "ucase" then c.toUpper
            else if conversions.contains "lcase" then c.toLower
            else c
          let cs := (charactersOf taken).map convert
          let cs :=
            if conversions.contains "swab" then (chunks 2 cs).flatMap List.reverse
            else cs
          let cs :=
            if conversions.contains "sync" then
              cs ++ List.replicate ((blockSize - cs.length % blockSize) % blockSize) '\x00'
            else cs
          let target := blockArgument? arguments "of"
          let offset := ((number "seek").getD ((number "oseek").getD 0)) * outSize
          let fault? ←
            match target with
            | none => if cs.isEmpty then pure none else put? (toBytes cs)
            | some file =>
              let old := (contentOf (← get) file).toOption.getD Bytes.empty
              let kept := if conversions.contains "notrunc" then old else old.take offset
              writeFile file false (overwrite kept offset (toBytes cs))
          match fault?, target with
          | some e, some file =>
            giveUp name ("failed to open " ++ Quotation.inShellQuotes file ++ ": " ++ e.description) 1
          | some e, none => giveUp name ("error writing 'standard output': " ++ e.description) 1
          | none, _ =>
            let records (size : Nat) : String :=
              toString (cs.length / size) ++ "+" ++ (if cs.length % size = 0 then "0" else "1")
            let status := (blockArgument? arguments "status").getD ""
            if status ≠ "none" then
              say (records blockSize ++ " records in\n" ++ records outSize ++ " records out\n")
              if status ≠ "noxfer" then
                say (toString cs.length ++ " bytes copied, 0.0001 s, 0.0 kB/s\n")
            return 0

end Utility

end AddonAtlas.Shell
