import AddonAtlas.Shell.Moment.Reading
import AddonAtlas.Shell.Utility.Files

/-!
# Writing moments

The present, or a moment that is described in words, by a format. Flags and a width between a percent sign and
its letter say how what the letter stands for is filled up and cased.
-/

namespace AddonAtlas.Shell

namespace Utility

open Shell.Action

namespace Dates

/-- How what a letter stands for is written. -/
structure Manner where
  filling : Option Char := none
  isUpper : Bool := false
  isOpposite : Bool := false
  width : Option Nat := none
  colons : Nat := 0

/-- The letters that stand for numbers. -/
def numeric : List Char :=
  "CdegGHIjklmMNqsSuUVwWyY".toList

/-- A text by a manner. -/
def Manner.apply (m : Manner) (letter : Char) (s : List Char) : List Char :=
  let isNumeric := numeric.contains letter
  let isName := ['a', 'A', 'b', 'B', 'h'].contains letter
  let s :=
    if m.isUpper || (m.isOpposite && isName) then s.map Char.toUpper
    else if m.isOpposite && (letter = 'p' || letter = 'Z') then s.map Char.toLower
    else s
  let bare := s.dropWhile fun c => c == '0' || c == ' '
  let bare := if bare.isEmpty then s.drop (s.length - 1) else bare
  let usual := if letter = 'e' || letter = 'k' || letter = 'l' then ' ' else '0'
  if isNumeric then
    let width := m.width.getD s.length
    match m.filling with
    | some '-' => bare
    | some '_' => List.replicate (width - bare.length) ' ' ++ bare
    | some _ => List.replicate (width - bare.length) '0' ++ bare
    | none => if m.width.isSome then List.replicate (width - bare.length) usual ++ bare else s
  else
    let filler := if m.filling = some '0' then '0' else ' '
    if m.filling = some '-' then s else List.replicate (m.width.getD 0 - s.length) filler ++ s

/-- The text that a format makes of a moment with parts of a second. -/
def formatted (at_ : Moment) (parts : Nat) : (fuel : Nat) → List Char → List Char
  | 0, _ => []
  | _ + 1, [] => []
  | fuel + 1, c :: rest =>
    if c ≠ '%' then c :: formatted at_ parts fuel rest
    else
      let flags := rest.takeWhile fun c => "_-0^#+".toList.contains c
      let behind := rest.drop flags.length
      let ds := behind.takeWhile isDigit
      let behind := behind.drop ds.length
      let colons := behind.takeWhile (· == ':')
      let behind := behind.drop colons.length
      let behind := if behind.head? = some 'E' ∨ behind.head? = some 'O' then behind.drop 1 else behind
      let m : Manner :=
        { filling := (flags.filter fun c => c == '_' || c == '-' || c == '0').getLast?
          isUpper := flags.contains '^'
          isOpposite := flags.contains '#'
          width := if ds.isEmpty then none else some (Arithmetic.digitsOf 10 ds).1
          colons := colons.length }
      match behind with
      | letter :: after =>
        let text? : Option (List Char) :=
          if letter = 'N' then
            let digits := (Calendar.padded 9 parts).toList
            some (match m.width with
              | some n => digits.take n ++ List.replicate (n - 9) '0'
              | none => digits)
          else if letter = 'z' && m.colons = 1 then some "+00:00".toList
          else if letter = 'z' && m.colons = 2 then some "+00:00:00".toList
          else if letter = 'z' && m.colons = 3 then some "+00".toList
          else if 0 < m.colons then none
          else (at_.field? letter).map fun s => m.apply letter s.toList
        match text? with
        | some text => text ++ formatted at_ parts fuel after
        | none => '%' :: rest.take (rest.length - after.length) ++ formatted at_ parts fuel after
      | [] => '%' :: rest

/-- The precisions of the standard form, with its formats. -/
def standard : List (String × String) :=
  [("hours", "%Y-%m-%dT%H%:z"), ("minutes", "%Y-%m-%dT%H:%M%:z"), ("date", "%Y-%m-%d"),
    ("seconds", "%Y-%m-%dT%H:%M:%S%:z"), ("ns", "%Y-%m-%dT%H:%M:%S,%N%:z")]

/-- The precisions of the form for letters, with its formats. -/
def forLetters : List (String × String) :=
  [("date", "%Y-%m-%d"), ("seconds", "%Y-%m-%d %H:%M:%S%:z"), ("ns", "%Y-%m-%d %H:%M:%S.%N%:z")]

/-- The present, in seconds. -/
def present : Int := 1767225600

/-- A format that an option asks for, the last one of several. -/
def format? (name : String) (given : List Options.Given) : Except (Action Nat) (Option String) :=
  let choose (option : String) (choices : List (String × String)) (s : String) : Except (Action Nat) (Option String) :=
    match choices.filter fun c => c.1.startsWith s with
    | [(_, f)] => .ok (some f)
    | _ => .error do
      complain name ("invalid argument " ++ Quotation.quoted s ++ " for '" ++ option ++ "'")
      say "Valid arguments are:\n"
      for c in choices do say ("  - '" ++ c.1 ++ "'\n")
      hint name 1
  match last? given ["I", "rfc-3339", "R"] with
  | some ⟨"I", none, _⟩ => .ok (some "%Y-%m-%d")
  | some ⟨"I", some s, _⟩ => choose "--iso-8601" standard s
  | some ⟨"rfc-3339", s, _⟩ => choose "--rfc-3339" forLetters (s.getD "")
  | some _ => .ok (some "%a, %d %b %Y %H:%M:%S %z")
  | none => .ok none

end Dates

open Dates in
/-- Writes the present or another moment. -/
def writeMoment (name : String) (arguments : List String) : Action Nat :=
  withOptions name (.of "d:f:I::r:Rs:u" [("date=", "d"), ("debug", "debug"), ("file=", "f"), ("iso-8601?", "I"),
    ("reference=", "r"), ("resolution", "resolution"), ("rfc-email", "R"), ("rfc-822", "R"), ("rfc-2822", "R"),
    ("rfc-3339=", "rfc-3339"), ("set=", "s"), ("uct", "u"), ("utc", "u"), ("universal", "u"), ("help", "help"),
    ("version", "version")]) true 1 arguments fun given operands => do
      match format? name given with
      | .error refuse => refuse
      | .ok asked =>
        let sources := ["d", "f", "r"].filter (has given)
        if 1 < sources.length then
          misuse name "the options to specify dates for printing are mutually exclusive" 1
        else
          match operands with
          | _ :: extra :: _ => misuse name ("extra operand " ++ Quotation.quoted extra) 1
          | _ =>
            let written := operands.head?.filter fun s => s.startsWith "+"
            match operands.head?.filter fun s => !s.startsWith "+" with
            | some s => giveUp name ("invalid date " ++ Quotation.quoted s) 1
            | none =>
              if asked.isSome && written.isSome then giveUp name "multiple output formats specified" 1
              else
                let format := (written.map fun s => (s.drop 1).toString).or asked |>.getD "%a %b %e %H:%M:%S %Z %Y"
                let show_ (seconds : Int) (parts : Nat) : List Char :=
                  formatted (Moment.ofSeconds seconds) parts (format.length + 1) format.toList ++ ['\n']
                match sources, value? given "d", value? given "f" with
                | ["r"], _, _ =>
                  let file := (value? given "r").getD ""
                  match (← get).find? file with
                  | some _ => finish name 1 (show_ present 0) 0
                  | none => giveUp name (file ++ ": " ++ ((← get).absence file).description) 1
                | _, some s, _ =>
                  match Moment.read? present s with
                  | some (seconds, parts) => finish name 1 (show_ seconds parts) 0
                  | none => giveUp name ("invalid date " ++ Quotation.quoted s) 1
                | _, none, some file =>
                  match ← Utility.read file with
                  | .error u => giveUp name (file ++ ": " ++ u.description) 1
                  | .ok b =>
                    let mut text : List Char := []
                    let mut status := 0
                    for l in bareLines '\n' (charactersOf b) do
                      let s := String.ofList l
                      match Moment.read? present s with
                      | some (seconds, parts) => text := text ++ show_ seconds parts
                      | none =>
                        complain name ("invalid date " ++ Quotation.quoted s)
                        status := 1
                    finish name 1 text status
                | _, none, none => finish name 1 (show_ present 0) 0

end Utility

end AddonAtlas.Shell
