import AddonAtlas.Shell.Arithmetic
import AddonAtlas.Shell.Options

/-!
# Settings of a search

What a search program is asked for: the patterns, what counts as a match, which files are searched, and how
lines are reported. The settings are made up from the program's options, one after the other.
-/

namespace AddonAtlas.Shell.Search

/-- How patterns are written. -/
inductive Matcher
  | basic
  | extended
  | fixed
  | rich
deriving DecidableEq, Repr

/-- Where patterns come from. -/
inductive Source
  | text (patterns : String)
  | file (name : String)
deriving DecidableEq, Repr

/-- Which names of files are listed instead of lines. -/
inductive Listing
  | nothing
  | selected
  | others
deriving DecidableEq, Repr

/-- What is done with files that hold a NUL. -/
inductive Binary
  /-- It is told that they match. -/
  | told
  /-- They are searched like others. -/
  | searched
  | passedOver
deriving DecidableEq, Repr

/-- What is done with directories. -/
inductive Directories
  | read
  | passedOver
  | entered
deriving DecidableEq, Repr

/-- Patterns for names of files to search, or of those not to. -/
inductive NameRule
  | included (pattern : String)
  | excluded (pattern : String)
  /-- The lines of a file are patterns for names of files not to search. -/
  | listed (file : String)
deriving DecidableEq, Repr

/-- What the program tells of itself. -/
inductive Telling
  | nothing
  | help
  | version
deriving DecidableEq, Repr

structure Settings where
  matcher : Option Matcher := none
  sources : List Source := []
  ignoresCase : Bool := false
  wholeWords : Bool := false
  wholeLines : Bool := false
  isInverted : Bool := false
  /-- The most lines to select in a file. -/
  limit : Option Nat := none
  /-- Nothing is reported, and the search ends at the first line. -/
  isQuiet : Bool := false
  hidesFaults : Bool := false
  listing : Listing := .nothing
  counts : Bool := false
  onlyParts : Bool := false
  numbers : Bool := false
  offsets : Bool := false
  isAligned : Bool := false
  /-- Whether reports name the file, if that was asked for or forbidden. -/
  names : Option Bool := none
  /-- Names end with a NUL. -/
  endsNames : Bool := false
  binary : Binary := .told
  /-- Lines end with a NUL. -/
  nulLines : Bool := false
  isColoured : Bool := false
  /-- How many lines are shown behind and in front of a selected one. -/
  after : Option Nat := none
  before : Option Nat := none
  around : Option Nat := none
  separator : Option String := some "--"
  /-- How standard input is named. -/
  label : String := "(standard input)"
  directories : Directories := .read
  followsLinks : Bool := false
  skipsDevices : Bool := false
  /-- The rules for names of files, the last first. -/
  fileRules : List NameRule := []
  /-- The rules for names of directories, the last first. -/
  directoryRules : List NameRule := []
  /-- What is to be told of the program, and nothing else done. -/
  telling : Telling := .nothing
  /-- What is to be said about the options. -/
  warnings : List String := []

/-- Why settings are not accepted. -/
inductive Refusal
  /-- The options cannot be read; the message is without the program's name. -/
  | option (message : String)
  /-- There is no pattern. -/
  | usage
  | fault (message : String)
  /-- A value is none of those that an option may have, or may be several of them. -/
  | choice (isAmbiguous : Bool) (option value : String) (choices : List String)
deriving DecidableEq, Repr

namespace Settings

/-- The options by their names. -/
def named : List Options.Named :=
  [⟨"basic-regexp", .nothing, "G"⟩, ⟨"extended-regexp", .nothing, "E"⟩, ⟨"fixed-regexp", .nothing, "F"⟩,
    ⟨"fixed-strings", .nothing, "F"⟩, ⟨"perl-regexp", .nothing, "P"⟩, ⟨"after-context", .something, "A"⟩,
    ⟨"before-context", .something, "B"⟩, ⟨"binary-files", .something, "binary-files"⟩,
    ⟨"binary", .nothing, "U"⟩, ⟨"byte-offset", .nothing, "b"⟩, ⟨"context", .something, "C"⟩,
    ⟨"color", .perhaps, "color"⟩, ⟨"colour", .perhaps, "color"⟩, ⟨"count", .nothing, "c"⟩,
    ⟨"devices", .something, "D"⟩, ⟨"directories", .something, "d"⟩, ⟨"exclude", .something, "exclude"⟩,
    ⟨"exclude-from", .something, "exclude-from"⟩, ⟨"exclude-dir", .something, "exclude-dir"⟩,
    ⟨"file", .something, "f"⟩, ⟨"files-with-matches", .nothing, "l"⟩,
    ⟨"files-without-match", .nothing, "L"⟩, ⟨"group-separator", .something, "group-separator"⟩,
    ⟨"help", .nothing, "help"⟩, ⟨"include", .something, "include"⟩, ⟨"ignore-case", .nothing, "i"⟩,
    ⟨"no-ignore-case", .nothing, "no-ignore-case"⟩, ⟨"initial-tab", .nothing, "T"⟩,
    ⟨"label", .something, "label"⟩, ⟨"line-buffered", .nothing, "line-buffered"⟩,
    ⟨"line-number", .nothing, "n"⟩, ⟨"line-regexp", .nothing, "x"⟩, ⟨"max-count", .something, "m"⟩,
    ⟨"no-filename", .nothing, "h"⟩, ⟨"no-group-separator", .nothing, "group-separator"⟩,
    ⟨"no-messages", .nothing, "s"⟩, ⟨"null", .nothing, "Z"⟩, ⟨"null-data", .nothing, "z"⟩,
    ⟨"only-matching", .nothing, "o"⟩, ⟨"quiet", .nothing, "q"⟩, ⟨"recursive", .nothing, "r"⟩,
    ⟨"dereference-recursive", .nothing, "R"⟩, ⟨"regexp", .something, "e"⟩,
    ⟨"invert-match", .nothing, "v"⟩, ⟨"silent", .nothing, "q"⟩, ⟨"text", .nothing, "a"⟩,
    ⟨"unix-byte-offsets", .nothing, "u"⟩, ⟨"version", .nothing, "V"⟩, ⟨"with-filename", .nothing, "H"⟩,
    ⟨"word-regexp", .nothing, "w"⟩]

def table : Options.Table :=
  ⟨"0123456789A:B:C:D:EFGHILPTUVX:abcd:e:f:hiLlm:noqRrsuvwxyZz".toList, named⟩

/-- The greatest number of lines. -/
def greatest : Nat := 2 ^ 63 - 1

/-- The number of lines that a text stands for; one that is too large is the greatest. -/
def amount? (s : String) : Option Int :=
  let cs := s.toList
  let (n, rest) := Arithmetic.leadingNumber (some 10) cs
  if rest.isEmpty && !cs.isEmpty then some (max (-greatest) (min greatest n)) else none

/-- The number of lines around selected ones. -/
def context (s : String) : Except Refusal Nat :=
  match amount? s with
  | some n => if n < 0 then .error (.fault (s ++ ": invalid context length argument")) else .ok n.toNat
  | none => .error (.fault (s ++ ": invalid context length argument"))

/-- Asks for a way of writing patterns. -/
def withMatcher (s : Settings) (m : Matcher) : Except Refusal Settings :=
  if s.matcher.any (· ≠ m) then .error (.fault "conflicting matchers specified")
  else .ok { s with matcher := some m }

/-- The ways of writing patterns by their names. -/
def matchers : List (String × Matcher) :=
  [("grep", .basic), ("egrep", .extended), ("fgrep", .fixed), ("awk", .extended), ("gawk", .extended),
    ("posixawk", .extended), ("perl", .rich)]

def choices : List (String × Directories) :=
  [("read", .read), ("recurse", .entered), ("skip", .passedOver)]

/-- A text without the slashes at its end, if it is more than these. -/
def trimmed (s : String) : String :=
  let kept := (s.toList.reverse.dropWhile (· == '/')).reverse
  if kept.isEmpty then (if s.isEmpty then "" else "/") else String.ofList kept

/-- Takes one option into account. -/
def apply (s : Settings) (option value : String) (hasValue : Bool) : Except Refusal Settings :=
  match option with
  | "A" => (context value).map fun n => { s with after := some n }
  | "B" => (context value).map fun n => { s with before := some n }
  | "C" => (context value).map fun n => { s with around := some n }
  | "D" =>
    if value = "read" then .ok { s with skipsDevices := false }
    else if value = "skip" then .ok { s with skipsDevices := true }
    else .error (.fault "unknown devices method")
  | "E" => s.withMatcher .extended
  | "F" => s.withMatcher .fixed
  | "G" => s.withMatcher .basic
  | "P" => s.withMatcher .rich
  | "X" =>
    match matchers.find? fun m => m.1 = value with
    | some (_, m) => s.withMatcher m
    | none => .error (.fault ("invalid matcher " ++ value))
  | "H" => .ok { s with names := some true }
  | "h" => .ok { s with names := some false }
  | "I" => .ok { s with binary := .passedOver }
  | "a" => .ok { s with binary := .searched }
  | "binary-files" =>
    match value with
    | "binary" => .ok { s with binary := .told }
    | "text" => .ok { s with binary := .searched }
    | "without-match" => .ok { s with binary := .passedOver }
    | _ => .error (.fault "unknown binary-files type")
  | "T" => .ok { s with isAligned := true }
  | "b" => .ok { s with offsets := true }
  | "c" => .ok { s with counts := true }
  | "d" =>
    match choices.filter fun c => c.1.startsWith value with
    | [(_, d)] => .ok { s with directories := d }
    | found => .error (.choice (!found.isEmpty) "--directories" value (choices.map (·.1)))
  | "e" => .ok { s with sources := s.sources ++ [.text value] }
  | "f" => .ok { s with sources := s.sources ++ [.file value] }
  | "i" | "y" => .ok { s with ignoresCase := true }
  | "no-ignore-case" => .ok { s with ignoresCase := false }
  | "L" => .ok { s with listing := .others }
  | "l" => .ok { s with listing := .selected }
  | "m" =>
    match amount? value with
    | some n => .ok { s with limit := if n < 0 then none else some n.toNat }
    | none => .error (.fault "invalid max count")
  | "n" => .ok { s with numbers := true }
  | "o" => .ok { s with onlyParts := true }
  | "q" => .ok { s with isQuiet := true }
  | "R" => .ok { s with directories := .entered, followsLinks := true }
  | "r" => .ok { s with directories := .entered }
  | "s" => .ok { s with hidesFaults := true }
  | "v" => .ok { s with isInverted := true }
  | "w" => .ok { s with wholeWords := true }
  | "x" => .ok { s with wholeLines := true }
  | "Z" => .ok { s with endsNames := true }
  | "z" => .ok { s with nulLines := true }
  | "color" =>
    let word := value.map Char.toLower
    if ["always", "yes", "force"].contains word then .ok { s with isColoured := true }
    else if !hasValue || ["never", "no", "none", "auto", "tty", "if-tty"].contains word then
      .ok { s with isColoured := false }
    else .ok { s with telling := if s.telling = .version then .version else .help }
  | "include" => .ok { s with fileRules := .included value :: s.fileRules }
  | "exclude" => .ok { s with fileRules := .excluded value :: s.fileRules }
  | "exclude-from" => .ok { s with fileRules := .listed value :: s.fileRules }
  | "exclude-dir" => .ok { s with directoryRules := .excluded (trimmed value) :: s.directoryRules }
  | "group-separator" => .ok { s with separator := if hasValue then some value else none }
  | "label" => .ok { s with label := value }
  | "help" => .ok { s with telling := if s.telling = .version then .version else .help }
  | "V" => .ok { s with telling := .version }
  | "u" => .ok { s with warnings := s.warnings ++ ["--unix-byte-offsets (-u) is obsolete"] }
  | _ => .ok s

/-- The digits that stand together at the start of some options, and the options behind them. -/
def digits : List Options.Given → List Char × List Options.Given
  | [] => ([], [])
  | o :: rest =>
    match o.option.toList with
    | [c] =>
      if isDigit c then
        if rest.head?.any fun n => n.place = o.place then
          let (ds, rest) := digits rest
          (c :: ds, rest)
        else ([c], rest)
      else ([], o :: rest)
    | _ => ([], o :: rest)

/-- Takes options into account, one after the other, up to one that is refused. Digits in one argument are a
number of lines. -/
def applyAll : (fuel : Nat) → Settings → List Options.Given → Settings × Option Refusal
  | 0, s, _ => (s, none)
  | _ + 1, s, [] => (s, none)
  | fuel + 1, s, o :: rest =>
    match digits (o :: rest) with
    | ([], _) =>
      match s.apply o.option (o.value.getD "") o.value.isSome with
      | .ok s => applyAll fuel s rest
      | .error r => (s, some r)
    | (ds, rest) =>
      match context (String.ofList ds) with
      | .ok n => applyAll fuel { s with around := some n } rest
      | .error r => (s, some r)

/-- The settings of arguments, as far as these are accepted; why they are not, if so; and the arguments that
are no options. -/
def ofArguments (isMixed : Bool) (arguments : List String) : Settings × Option Refusal × List String :=
  let r := Options.read table isMixed arguments
  let (s, refusal?) := applyAll (r.options.length + 1) {} r.options
  (s, refusal?.or (r.fault?.map .option), r.operands)

end Settings

end AddonAtlas.Shell.Search
