import AddonAtlas.Settings.Environment
import AddonAtlas.Shell.Machine
import AddonAtlas.Shell.Pattern
import AddonAtlas.Shell.Wide.Braces
import AddonAtlas.Shell.Wide.Making

/-!
# Expansion of words

A word becomes texts: what its pieces stand for is put together, divided into fields where values were
not quoted, and fields that are patterns are replaced by the files they match. Between the steps a word
is a list of marks, which tell of each character how it got there. In the wide dialect parameters may also stand
for the values of lists, and more can be made of them.
-/

namespace AddonAtlas.Shell

/-- A part of a word that is being expanded. -/
inductive Mark
  /-- A character; whether it stands for itself in patterns, and whether it may divide fields. -/
  | char (c : Char) (isLiteral divides : Bool)
  /-- Something quoted, be it empty, which makes a field. -/
  | quote
  /-- A place between two arguments, at which a field ends even if it is empty. -/
  | boundary
  /-- A place between two arguments, at which a field ends. -/
  | gap
  /-- The end of a value. -/
  | seam

/-- A character of a field, and whether it stands for itself in patterns. -/
abbrev Field := List (Char × Bool)

namespace Field

def text (f : Field) : String :=
  String.ofList (f.map (·.1))

/-- A field as a pattern, in which what stands for itself is escaped. -/
def pattern (f : Field) : List Char :=
  f.flatMap fun (c, isLiteral) => if isLiteral then ['\\', c] else [c]

end Field

namespace Mark

/-- The characters of marks, without dividing them. -/
def field (marks : List Mark) : Field :=
  marks.filterMap fun k => match k with
    | .char c isLiteral _ => some (c, isLiteral)
    | _ => none

def text (marks : List Mark) : String :=
  (field marks).text

/-- What to pass over behind a character that divided fields. -/
inductive Passing
  | nothing
  | blanks
  /-- Blanks, and one character that is none. -/
  | blanksAndOne
deriving DecidableEq

def isBlank (c : Char) : Bool :=
  c == ' ' || c == '\t' || c == '\n'

/-- Whether a mark ends a field that has begun, and nothing otherwise. -/
def isBlankBetween (separators : List Char) : Mark → Bool
  | gap => true
  | char c _ divides => divides && separators.contains c && isBlank c
  | _ => false

/-- The fields into which separators divide marks; `current` is the field before them, the last
character first. -/
def divide (separators : List Char) : (current : Option Field) → Passing → List Mark → List Field
  | current, _, [] => (current.map List.reverse).toList
  | current, passing, k :: rest =>
    if isBlankBetween separators k then
      match passing, current with
      | .nothing, none => divide separators none .nothing rest
      | .nothing, some f => f.reverse :: divide separators none .blanksAndOne rest
      | passing, current => divide separators current passing rest
    else
      match k with
      | .quote => divide separators (some (current.getD [])) .nothing rest
      | .boundary => (current.getD []).reverse :: divide separators none .nothing rest
      | .gap | .seam => divide separators current .nothing rest
      | .char c isLiteral divides =>
        if divides && separators.contains c then
          if passing = .blanksAndOne then divide separators current .blanks rest
          else (current.getD []).reverse :: divide separators none .blanks rest
        else divide separators (some ((c, isLiteral) :: current.getD [])) .nothing rest

end Mark

/-! ## Files that patterns match -/

namespace Machine

/-- Whether a pattern matches a text in the script's dialect. -/
def matchesPattern (m : Machine) (hasGroups ignoresCase : Bool) (pattern text : List Char) : Bool :=
  Pattern.isMatchIn m.dialect (hasGroups || m.hasChoice "extglob") ignoresCase pattern text

/-- Whether a text is a pattern that may match several files. -/
def isPattern (m : Machine) (pattern : List Char) : Bool :=
  if m.isWide then
    Pattern.isProper (if pattern.contains ']' then pattern else pattern.map fun c => if c = '[' then '.' else c) ||
      (m.hasChoice "extglob" && Pattern.hasGroup pattern)
  else Pattern.isProper pattern

end Machine

namespace Glob

/-- What stands between slashes, and the slashes behind it. -/
def parts : (fuel : Nat) → Field → List (Field × Field)
  | 0, _ => []
  | _ + 1, [] => []
  | fuel + 1, f =>
    let name := f.takeWhile (·.1 != '/')
    let rest := f.drop name.length
    let slashes := rest.takeWhile (·.1 == '/')
    (name, slashes) :: parts fuel (rest.drop slashes.length)

/-- The names in a directory that a pattern matches. Those with a point in front have to be asked for by
one. -/
def namesIn (m : Machine) (here : Location) (pattern : List Char) : List String :=
  let wantsPoint := pattern.head? = some '.' || pattern.take 2 == ['\\', '.']
  let names := (m.tree.children here).map encode ++ (if m.isWide then [] else [".", ".."])
  names.filter fun name =>
    (wantsPoint || m.hasChoice "dotglob" || name.toList.head? ≠ some '.') &&
      m.matchesPattern false (m.hasChoice "nocaseglob") pattern name.toList

/-- The directories below a directory, by their paths, and the directory itself. -/
def below (m : Machine) : (fuel : Nat) → (here : Location) → (path : String) → List String
  | 0, _, path => [path]
  | fuel + 1, here, path =>
    path :: (m.tree.children here).flatMap fun name =>
      match m.tree.find? (here ++ [name]) with
      | some .directory =>
        if name.startsWith "." && !m.hasChoice "dotglob" then []
        else below m fuel (here ++ [name]) (path ++ encode name ++ "/")
      | _ => []

/-- The paths that match the parts of a pattern, from a directory on. `path` is what stands in front of
them. -/
def paths (m : Machine) (start : Location) : (path : String) → List (Field × Field) → List String
  | path, [] => [path]
  | path, (name, slashes) :: rest =>
    let isLast := rest.isEmpty && slashes.isEmpty
    let reached? (path : String) : Option (Location × Entry) :=
      (m.tree.walk FileTree.maxLinks start (FileTree.names (decode path))).toOption
    let extend (text : String) : List String :=
      let path := path ++ text
      let isThere :=
        match reached? path with
        | some (_, .directory) => true
        | some _ => isLast
        | none => false
      if isThere then paths m start (path ++ slashes.text) rest else []
    if m.hasChoice "globstar" && name.pattern == ['*', '*'] then
      match reached? path with
      | some (here, .directory) =>
        let found := below m 1000 here path
        if isLast then
          (found.flatMap fun directory =>
            match reached? directory with
            | some (place, .directory) =>
              let files := (namesIn m place ['*']).filter fun name =>
                !((reached? (directory ++ name)).any fun e => e.2 matches .directory)
              (if directory = path then path
                else (String.ofList directory.toList.dropLast)) :: files.map (directory ++ ·)
            | _ => []).filter (· ≠ "")
        else if rest.isEmpty then found.filter (· ≠ path)
        else found.flatMap fun directory => paths m start directory rest
      | _ => []
    else if m.isPattern name.pattern then
      match reached? path with
      | some (here, .directory) => (namesIn m here name.pattern).flatMap extend
      | _ => []
    else extend name.text

/-- The paths that a field matches, sorted; the field itself if there are none, or if it is no pattern. -/
def expand (m : Machine) (f : Field) : List String :=
  if m.hasOption 'f' || !m.isPattern f.pattern then [f.text]
  else
    let start := FileTree.origin f.text m.here
    match paths m start "" (parts (f.length + 1) f) with
    | [] => if m.hasChoice "nullglob" then [] else [f.text]
    | found => found.mergeSort fun a b => decide (a ≤ b)

/-- Whether a field is a pattern that matches no file. -/
def isUnmatched (m : Machine) (f : Field) : Bool :=
  !m.hasOption 'f' && m.isPattern f.pattern &&
    (paths m (FileTree.origin f.text m.here) "" (parts (f.length + 1) f)).isEmpty

end Glob

/-! ## Words -/

/-- How commands inside of words are run. -/
structure Capture where
  /-- What a command writes. -/
  output : Option Command → Action String
  /-- The path of a file that a command writes, or reads. -/
  channel : (isInput : Bool) → Option Command → Action String

/-- How a word is expanded. -/
structure Mode where
  isQuoted : Bool
  /-- Whether there may be several fields. -/
  isFull : Bool
  /-- Whether text as it stands may divide fields too. -/
  dividesText : Bool
  /-- Whether home directories may stand behind colons. -/
  hasColons : Bool

namespace Expansion

/-- The home directory of the user named behind a tilde. -/
def home? (m : Machine) (user : String) : Option String :=
  if user.isEmpty then m.value? "HOME"
  else (Environment.systemHomes.find? fun h => h.1 = user).map (·.2)

/-- The pieces of a word with the home directory for the tilde that a text begins with; `isLast` says that
nothing follows the text. -/
def atHome (m : Machine) (hasColons isLast : Bool) (s : List Char) : List Piece :=
  match s with
  | '~' :: rest =>
    let user := rest.takeWhile fun c => c != '/' && !(hasColons && c == ':')
    let after := rest.drop user.length
    if after.isEmpty && !isLast then [.plain (String.ofList s)]
    else
      match home? m (String.ofList user) with
      | none => [.plain (String.ofList s)]
      | some home =>
        (if home.isEmpty then [] else [.literal home]) ++
          (if after.isEmpty then [] else [.plain (String.ofList after)])
  | _ => [.plain (String.ofList s)]

/-- Replaces tildes behind the colons of a text. -/
def behindColons (m : Machine) (isLast : Bool) : (fuel : Nat) → List Char → List Piece
  | 0, _ => []
  | fuel + 1, s =>
    let first := s.takeWhile (· != ':')
    match s.drop first.length with
    | [] => atHome m true isLast s
    | _ :: after =>
      atHome m true true first ++ .plain ":" :: behindColons m isLast fuel after

/-- A word with home directories for its tildes. -/
def tildes (m : Machine) (hasColons : Bool) : Word → Word
  | .plain s :: rest =>
    if hasColons then
      behindColons m rest.isEmpty (s.length + 1) s.toList ++ later m rest
    else atHome m false rest.isEmpty s.toList ++ rest
  | w => if hasColons then later m w else w
where
  /-- Tildes further on have to stand behind colons. -/
  later (m : Machine) : Word → Word
    | [] => []
    | .plain s :: rest =>
      let first := s.toList.takeWhile (· != ':')
      match s.toList.drop first.length with
      | [] => .plain s :: later m rest
      | _ :: after =>
        .plain (String.ofList (first ++ [':'])) ::
          (behindColons m rest.isEmpty (after.length + 1) after ++ later m rest)
    | p :: rest => p :: later m rest

def chars (isLiteral divides : Bool) (s : String) : List Mark :=
  s.toList.map fun c => .char c isLiteral divides

/-- The marks of a value. -/
def value (mode : Mode) (s : String) : List Mark :=
  let divides := mode.isFull && !mode.isQuoted
  chars mode.isQuoted divides s ++ (if divides then [.seam] else [])

/-- The text between values that are joined. -/
def joint (m : Machine) : String :=
  match m.binding? "IFS" with
  | some v => String.ofList (((v.value.map String.toList).getD [' ']).take 1)
  | none => " "

/-- The marks of several values. Those that are quoted are joined, unless they are to stay apart. -/
def severalValues (m : Machine) (mode : Mode) (isApart : Bool) (values : List String) : List Mark :=
  if mode.isFull && mode.isQuoted && isApart then
    List.flatten ((values.map fun a => .quote :: chars true false a).intersperse [.boundary])
  else if mode.isFull && !mode.isQuoted then
    List.flatten ((values.map fun a => chars false true a).intersperse [.gap]) ++ [.seam]
  else chars mode.isQuoted false ((if m.isWide && isApart then " " else joint m).intercalate values)

/-- The marks of all arguments. -/
def allArguments (m : Machine) (mode : Mode) (name : String) : List Mark :=
  severalValues m mode (name = "@") m.arguments

/-- The first number from a list for which a part of a text matches a pattern, as far as the part goes before
the place between two arguments. -/
def firstMatch? (isMatch : List Char → Bool) (part : Nat → List Char) (counts : List Nat) : Option Nat :=
  counts.find? fun n => isMatch ((part n).takeWhile (· != '\x00'))

/-- The marks of a value without what a pattern matches at an end. -/
def trim (use : Use) (isMatch : List Char → Bool) (marks : List Mark) : List Mark :=
  let cs := marks.filterMap fun k => match k with
    | .char c _ _ => some (k, c)
    | .gap | .boundary => some (k, '\x00')
    | _ => none
  let text := cs.map (·.2)
  let upward := List.range (text.length + 1)
  let rest :=
    match use with
    | .withoutStart longest =>
      let found := firstMatch? isMatch (fun n => text.take n) (if longest then upward.reverse else upward)
      cs.drop (found.getD 0)
    | .withoutEnd longest =>
      let found := firstMatch? isMatch (fun n => text.drop n) (if longest then upward else upward.reverse)
      cs.take (found.getD text.length)
    | _ => cs
  rest.map (·.1) ++ [.seam]

/-- The values that a parameter stands for. -/
inductive Source
  | one (value : Option String)
  /-- Several values, with their places; whether they stay apart when they are quoted. -/
  | several (items : List (String × String)) (isApart : Bool)

namespace Source

def isSet : Source → Bool
  | one value => value.isSome
  | several items _ => !items.isEmpty

/-- Whether there is nothing but a value that is not there. -/
def isMissing : Source → Bool
  | one none => true
  | _ => false

/-- The values in one text. -/
def joined (m : Machine) : Source → String
  | one value => value.getD ""
  | several items _ => (joint m).intercalate (items.map (·.2))

/-- What a function makes of the values. -/
def map (f : String → String) : Source → Source
  | one value => one (value.map f)
  | several items isApart => several (items.map fun x => (x.1, f x.2)) isApart

def marks (m : Machine) (mode : Mode) : Source → List Mark
  | one v => (v.map (Expansion.value mode)).getD []
  | several items isApart => severalValues m mode isApart (items.map (·.2))

end Source

/-- Whether a piece in double quotes stands for values that stay apart. -/
def staysApart : Piece → Bool
  | .parameter "@" use _ _ =>
    match use with
    | .length => false
    | _ => true
  | .made _ _ _ (.use .length _ _) => false
  | .made "@" _ _ _ => true
  | .made _ (some [.plain "@"]) _ _ => true
  | .made _ none _ (.namesWith isDivided) => isDivided
  | _ => false

/-- Whether a word in double quotes is nothing but values that stay apart. -/
def isAllArguments : List Piece → Bool
  | [.parameter "@" .value _ _] => true
  | _ => false

/-- How a parameter is named in messages. -/
def shownName (name : String) (index : Option Word) : String :=
  match index with
  | some w => name ++ "[" ++ ScriptReader.bareText w ++ "]"
  | none => name

/-- The values for the text of a reference. -/
def sourceOf (text : String) : Action Source := do
  let m ← get
  if text = "@" || text = "*" then
    return .several (m.arguments.zipIdx.map fun (a, i) => (toString i, a)) (text = "@")
  else
    match ← Action.reference text with
    | (name, some place) =>
      if place = "@" || place = "*" then
        return .several ((m.elements? name).elim [] Elements.listed) (place = "@")
      else return .one (m.element? name place)
    | (name, none) => return .one (m.parameter? name)

/-- The values of the parameter that a value names. -/
def followed (name : String) : Source → Action Source
  | .one (some s) => do
    let base := (Arithmetic.nameParts s).1
    let isParameter := s = "@" || s = "*" || s = "#" || (!s.isEmpty && s.toList.all isDigit)
    if isName base || isParameter then sourceOf s
    else Action.abandon (s ++ ": invalid variable name")
  | .one none => Action.abandon (name ++ ": invalid indirect expansion")
  | values => return values

/-- A part of several values, from an offset on. With the arguments the script's name counts as the one in front
of the first; other values are at the places they have. -/
def itemsFrom (m : Machine) (name : String) (items : List (String × String)) (offset : Int)
    (length? : Option Int) : List (String × String) :=
  let found :=
    if name = "@" || name = "*" then Wide.part? (("", m.name) :: items) offset length?
    else
      let next : Int := ((items.map fun x => x.1.toNat?.getD 0 + 1).foldl max 0 : Nat)
      let start := if offset < 0 then offset + next else offset
      if start < 0 then some []
      else Wide.part? (items.filter fun x => start ≤ ((x.1.toNat?.getD 0 : Nat) : Int)) 0 length?
  found.getD []

mutual

/-- The marks of a word's pieces. -/
def pieces (capture : Capture) : (fuel : Nat) → Mode → List Piece → Action (List Mark)
  | 0, _, _ => return []
  | _ + 1, _, [] => return []
  | fuel + 1, mode, p :: rest => do
    let marks ← piece capture fuel mode p
    return marks ++ (← pieces capture fuel mode rest)

/-- The marks of one piece. -/
def piece (capture : Capture) : (fuel : Nat) → Mode → Piece → Action (List Mark)
  | 0, _, _ => return []
  | fuel + 1, mode, p => do
    match p with
    | .plain s => return chars mode.isQuoted (mode.dividesText && mode.isFull && !mode.isQuoted) s
    | .literal s => return (if mode.isQuoted then [] else [.quote]) ++ chars true false s
    | .double inner =>
      let marks ← pieces capture fuel { mode with isQuoted := true } inner
      let isEmpty := isAllArguments inner || ((← get).isWide && marks.isEmpty && inner.any staysApart)
      return if isEmpty then marks else .quote :: marks
    | .output body => return value mode (← capture.output body)
    | .sum expression =>
      let marks ← pieces capture fuel ⟨false, false, false, false⟩ expression
      return value mode (toString (← Action.reckon (Mark.text marks)))
    | .parameter name use orEmpty word =>
      if (← get).isWide then made capture fuel mode name none false (.use use orEmpty word)
      else parameter capture fuel mode name use orEmpty word
    | .made name index isIndirect making => made capture fuel mode name index isIndirect making
    | .process isInput body => return value mode (← capture.channel isInput body)
    | .list _ => return []

/-- The marks of a parameter. -/
def parameter (capture : Capture) : (fuel : Nat) → Mode → (name : String) → Use → (orEmpty : Bool) →
    (word : List Piece) → Action (List Mark)
  | 0, _, _, _, _, _ => return []
  | fuel + 1, mode, name, use, orEmpty, word => do
    let m ← get
    let isAll := name = "@" || name = "*"
    let marks? :=
      if isAll then some (allArguments m mode name) else (m.parameter? name).map (value mode)
    let isGiven := marks?.any fun marks => !(orEmpty && (Mark.text marks).isEmpty)
    let marks := marks?.getD []
    let checked : Action Unit := do
      if marks?.isNone && m.hasOption 'u' then Action.fail (name ++ ": parameter not set")
    let inner : Action (List Mark) :=
      pieces capture fuel { mode with dividesText := true } (tildes m mode.hasColons word)
    let single : Action (List Mark) :=
      pieces capture fuel ⟨false, false, false, false⟩ (tildes m false word)
    match use with
    | .faulty => Action.fail "Bad substitution"
    | .value =>
      checked
      return marks
    | .length =>
      checked
      let counted := marks.filter fun k => match k with
        | .char _ _ _ | .gap | .boundary => true
        | _ => false
      return value mode (toString counted.length)
    | .orWord => if isGiven then return marks else inner
    | .ifSet => if isGiven then inner else return []
    | .orAssign =>
      if isGiven then return marks
      else
        let text := Mark.text (← single)
        Action.checkName name
        Action.assign name text
        return value mode text
    | .orFail =>
      if isGiven then return marks
      else if word.isEmpty then
        Action.fail (name ++ ": parameter not set" ++ (if orEmpty then " or null" else ""))
      else Action.fail (name ++ ": " ++ Mark.text (← single))
    | .withoutStart _ | .withoutEnd _ =>
      checked
      if marks?.isNone then return []
      else
        let pattern := (Mark.field (← single)).pattern
        return trim use (m.matchesPattern false false pattern) marks

/-- The values that a reference of the wide dialect stands for. -/
def source (capture : Capture) : (fuel : Nat) → (name : String) → (index : Option (List Piece)) → Action Source
  | 0, _, _ => return .one none
  | fuel + 1, name, index => do
    let m ← get
    match index with
    | none => sourceOf name
    | some [.plain "@"] => return .several ((m.elements? (m.aim name)).elim [] Elements.listed) true
    | some [.plain "*"] => return .several ((m.elements? (m.aim name)).elim [] Elements.listed) false
    | some w =>
      let place ← placeOf capture fuel (m.aim name) w
      let m ← get
      let e := (m.elements? (m.aim name)).getD (Elements.empty false)
      match Machine.settledPlace? e place with
      | some place => return .one (e.get? place)
      | none =>
        Action.complainPlainly (name ++ ": bad array subscript")
        return .one none

/-- The place in a list that an index tells. -/
def placeOf (capture : Capture) : (fuel : Nat) → (name : String) → (index : List Piece) → Action String
  | 0, _, _ => return ""
  | fuel + 1, name, index => do
    let text := Mark.text (← pieces capture fuel ⟨false, false, false, false⟩ index)
    if ((← get).elements? name).any (·.isNamed) then return text
    else return toString (← Action.reckon text)

/-- The values that another parameter names. -/
def pointedAt (capture : Capture) : (fuel : Nat) → (name : String) → (index : Option (List Piece)) → Action Source
  | 0, _, _ => return .one none
  | fuel + 1, name, index => do
    let m ← get
    match m.binding? name with
    | some v =>
      if v.traits.contains 'n' then return .one v.value
      else followed name (← source capture fuel name index)
    | none => followed name (← source capture fuel name index)

/-- The marks of what is made of a parameter in the wide dialect. -/
def made (capture : Capture) : (fuel : Nat) → Mode → (name : String) → (index : Option (List Piece)) →
    (isIndirect : Bool) → Making → Action (List Mark)
  | 0, _, _, _, _, _ => return []
  | fuel + 1, mode, name, index, isIndirect, making => do
    let m ← get
    match making with
    | .keys =>
      match ← source capture fuel name index with
      | .several items isApart => return severalValues m mode isApart (items.map (·.1))
      | .one _ => return []
    | .namesWith isDivided =>
      let chosen := m.bindings.filter fun v =>
        v.1.startsWith name && (v.2.value.isSome || v.2.elements.any (·.isAssigned))
      return severalValues m mode isDivided ((chosen.map (·.1)).mergeSort fun a b => decide (a ≤ b))
    | .use .faulty _ _ => Action.abandon (name ++ ": bad substitution")
    | making =>
      let found ← if isIndirect then pointedAt capture fuel name index else source capture fuel name index
      ofSource capture fuel mode name index found making

/-- The marks of what is made of the values that a parameter stands for. -/
def ofSource (capture : Capture) : (fuel : Nat) → Mode → (name : String) → (index : Option (List Piece)) →
    Source → Making → Action (List Mark)
  | 0, _, _, _, _, _ => return []
  | fuel + 1, mode, name, index, found, making => do
    let m ← get
    let single (w : List Piece) : Action Field := do
      return Mark.field (← pieces capture fuel ⟨false, false, false, false⟩ (tildes m false w))
    let number (w : List Piece) : Action Int := do
      Action.reckon (Mark.text (← pieces capture fuel ⟨false, false, false, false⟩ w))
    let eachMade (f : List Char → List Char) : List Mark :=
      (found.map fun s => String.ofList (f s.toList)).marks m mode
    let checked : Action Unit := do
      if found.isMissing && m.hasOption 'u' then Action.quit (shownName name index ++ ": unbound variable")
    match making with
    | .use use orEmpty word =>
      let isGiven := found.isSet && !(orEmpty && (found.joined m).isEmpty)
      let inner : Action (List Mark) :=
        pieces capture fuel { mode with dividesText := true } (tildes m mode.hasColons word)
      match use with
      | .length =>
        checked
        match found with
        | .one v => return value mode (toString (v.getD "").length)
        | .several items _ => return value mode (toString items.length)
      | .orWord => if isGiven then return found.marks m mode else inner
      | .ifSet => if isGiven then inner else return []
      | .orAssign =>
        if isGiven then return found.marks m mode
        else
          let text := (← single word).text
          if !isName name then Action.abandon ("$" ++ name ++ ": cannot assign in this way")
          match index with
          | some w => Action.store (m.aim name) (some (← placeOf capture fuel (m.aim name) w)) text
          | none => Action.assign name text
          return value mode text
      | .orFail =>
        if isGiven then return found.marks m mode
        else if word.isEmpty then
          Action.quit (shownName name index ++ ": parameter " ++
            (if orEmpty then "null or not set" else "not set"))
        else Action.quit (shownName name index ++ ": " ++ (← single word).text)
      | .withoutStart _ | .withoutEnd _ =>
        checked
        let pattern := (← single word).pattern
        return eachMade fun s =>
          (Mark.text (trim use (m.matchesPattern false false pattern) (s.map fun c => .char c false false))).toList
      | _ =>
        checked
        return found.marks m mode
    | .slice offset length? =>
      checked
      let start ← number offset
      let count? ← match length? with
        | some w => some <$> number w
        | none => pure none
      let refuse : Action (List Mark) :=
        Action.abandon (toString (count?.getD 0) ++ ": substring expression < 0")
      match found with
      | .one v =>
        match Wide.part? (v.getD "").toList start count? with
        | some cs => return (Source.one (v.map fun _ => String.ofList cs)).marks m mode
        | none => refuse
      | .several items isApart =>
        if count?.any (· < 0) then refuse
        else return severalValues m mode isApart ((itemsFrom m name items start count?).map (·.2))
    | .replace how pattern replacement =>
      checked
      let pattern := (← single pattern).pattern
      let filling ← single replacement
      if pattern.isEmpty && (how = .first || how = .all) then return found.marks m mode
      else
        let isMatch := m.matchesPattern false (m.hasChoice "nocasematch") pattern
        return eachMade (Wide.replaced how isMatch (Wide.filledIn filling))
    | .casing how all pattern =>
      checked
      let pattern := (← single pattern).pattern
      let isMatch := fun s => pattern.isEmpty || m.matchesPattern false false pattern s
      return eachMade (Wide.recased how all isMatch)
    | .transform letter =>
      checked
      let v? := m.binding? (m.aim name)
      match letter with
      | 'a' =>
        let letters := (v?.map Wide.attributes).getD ""
        match found with
        | .one _ => return if v?.isSome then value mode letters else []
        | found => return (found.map fun _ => letters).marks m mode
      | 'A' => return (v?.map fun v => value mode (Wide.assignmentText name v)).getD []
      | 'K' =>
        match found with
        | .several items _ =>
          let isNamed := (v?.bind (·.elements)).any (·.isNamed)
          return value mode (" ".intercalate (items.map fun x => Wide.placeText x.1 ++ " " ++ Wide.doubled x.2) ++
            (if isNamed then " " else ""))
        | found => return (found.map Wide.reusable).marks m mode
      | 'k' =>
        match found with
        | .several items isApart => return severalValues m mode isApart (items.flatMap fun x => [x.1, x.2])
        | found => return (found.map Wide.reusable).marks m mode
      | letter => return (found.map (Wide.transformed letter)).marks m mode
    | _ => return []

end

/-- Enough for the nesting of any word. -/
def depth : Nat := 100000

/-- The texts of a word whose braces stand for themselves. -/
def plainTexts (capture : Capture) (w : Word) : Action (List String) := do
  let m ← get
  let marks ← pieces capture depth ⟨false, true, false, false⟩ (tildes m false w)
  let m ← get
  let fields := Mark.divide m.separators none .nothing marks
  if m.hasChoice "failglob" then
    for f in fields do
      if Glob.isUnmatched m f then Action.abandon ("no match: " ++ f.text)
  return fields.flatMap (Glob.expand m)

/-- The texts of a word. -/
def texts (capture : Capture) (w : Word) : Action (List String) := do
  let m ← get
  if m.isWide && m.hasOption 'B' then
    let found ← (Braces.words w).mapM (plainTexts capture)
    return found.flatten
  else plainTexts capture w

/-- A word as one field, which is not divided. -/
def field (capture : Capture) (w : Word) : Action Field := do
  let m ← get
  return Mark.field (← pieces capture depth ⟨false, false, false, false⟩ (tildes m false w))

/-- A word as one text. -/
def text (capture : Capture) (w : Word) : Action String := do
  return (← field capture w).text

/-- The value of an assignment. -/
def assigned (capture : Capture) (w : Word) : Action String := do
  let m ← get
  return Mark.text (← pieces capture depth ⟨false, false, false, true⟩ (tildes m true w))

/-- The text of a here-document. -/
def document (capture : Capture) (w : Word) : Action String := do
  return Mark.text (← pieces capture depth ⟨true, false, false, false⟩ w)

end Expansion

end AddonAtlas.Shell
