import AddonAtlas.Shell.RichExpression.Escape

/-!
# Reading expressions of the rich notation

A written expression is read from its start to its end, and the first thing that is wrong with it is what is
said about it. Only afterwards it is seen whether all groups that are referred to are there, and whether what
has to stand in front of a place has a length that is known.
-/

namespace AddonAtlas.Shell.RichExpression

open Expression (isWithin)

/-! ## Repetition -/

/-- The bounds of a repetition that follows, if one does. -/
def repetition? (cs : List Char) : Except Fault (Option (Nat × Option Nat × List Char)) :=
  match cs with
  | '*' :: rest => .ok (some (0, none, rest))
  | '+' :: rest => .ok (some (1, none, rest))
  | '?' :: rest => .ok (some (0, some 1, rest))
  | '\x7b' :: rest => bounds? rest
  | _ => .ok none

/-- How much a repetition takes by the sign behind it. -/
def greed (mode : Mode) : List Char → Greed × List Char
  | '+' :: rest => (.possessive, rest)
  | '?' :: rest => (if mode.isLazy then .greedy else .lazy, rest)
  | cs => (if mode.isLazy then .lazy else .greedy, cs)

/-- A part that is repeated. -/
def repeat_ (least : Nat) (most : Option Nat) (g : Greed) (p : Part) : Part :=
  match g with
  | .possessive => .atomic (.repeated least most .greedy p)
  | _ => .repeated least most g p

/-! ## Options -/

/-- Reads the letters of options up to their end. -/
def options : (fuel : Nat) → (isOn mayUnset : Bool) → Mode → List Char → Except Fault (Mode × Char × List Char)
  | 0, _, _, _, _ => .error .openGroup
  | _ + 1, _, _, _, [] => .error .openGroup
  | fuel + 1, isOn, mayUnset, mode, c :: rest =>
    match c with
    | ')' | ':' => .ok (mode, c, rest)
    | '-' => if isOn && mayUnset then options fuel false mayUnset mode rest else .error .badHyphen
    | 'i' => options fuel isOn mayUnset { mode with ignoresCase := isOn } rest
    | 'm' => options fuel isOn mayUnset { mode with isByLines := isOn } rest
    | 's' => options fuel isOn mayUnset { mode with dotsAll := isOn } rest
    | 'n' => options fuel isOn mayUnset { mode with namesOnly := isOn } rest
    | 'J' => options fuel isOn mayUnset { mode with sharesNames := isOn } rest
    | 'U' => options fuel isOn mayUnset { mode with isLazy := isOn } rest
    | 'x' =>
      match rest with
      | 'x' :: rest =>
        options fuel isOn mayUnset { mode with ignoresBlanks := isOn, ignoresAllBlanks := isOn } rest
      | _ => options fuel isOn mayUnset { mode with ignoresBlanks := isOn, ignoresAllBlanks := false } rest
    | _ => .error .unknownMark

/-! ## Groups -/

/-- The alternatives of some parts. -/
def alternatives : List Part → Part
  | [] => .empty
  | [p] => p
  | p :: rest => .alt p (alternatives rest)

/-- What a group's opening makes of what is in it. -/
inductive Opening
  | plain
  | taking (number : Nat)
  | once
  | look (isNegative : Bool)
  | behind (isNegative : Bool)
  /-- All alternatives have the same numbers. -/
  | reset
  | condition (c : Condition) (isDefinition : Bool)
  | conditionBy (p : Part)

/-- Adds a group with a name. -/
def named (r : Reader) (s : String) (rest : List Char) : Except Fault (Nat × Reader) := do
  let n := r.count + 1
  let isKnown := r.names.any fun x => x.1 = s && x.2 ≠ n
  if isKnown && !r.mode.sharesNames then .error .sameName
  else
    let names := if r.names.contains (s, n) then r.names else r.names ++ [(s, n)]
    return (n, { r with rest := rest, count := n, names := names })

/-- The names of conditions in words, with what they open. -/
def assertions : List (String × Opening) :=
  [("pla", .look false), ("positive_lookahead", .look false), ("nla", .look true),
    ("negative_lookahead", .look true), ("plb", .behind false), ("positive_lookbehind", .behind false),
    ("nlb", .behind true), ("negative_lookbehind", .behind true), ("napla", .look false),
    ("non_atomic_positive_lookahead", .look false), ("naplb", .behind false),
    ("non_atomic_positive_lookbehind", .behind false), ("atomic", .once), ("sr", .plain),
    ("script_run", .plain), ("asr", .once), ("atomic_script_run", .once)]

/-- A verb: a command to the search itself. -/
def verb (r : Reader) (cs : List Char) : Except Fault (Item × Reader) := do
  let text := cs.takeWhile isNamePart
  let verbName := String.ofList text
  let (argument, rest) ←
    match cs.drop text.length with
    | ')' :: rest => pure (none, rest)
    | ':' :: rest =>
      let argument := rest.takeWhile (· ≠ ')')
      match rest.drop argument.length with
      | _ :: rest => pure (some argument, rest)
      | [] => .error .unknownVerb
    | _ => .error .unknownVerb
  let r := { r with rest := rest }
  let item (p : Part) : Except Fault (Item × Reader) := .ok (⟨some p, p matches .accept⟩, r)
  match verbName with
  | "" | "MARK" => if (argument.getD []).isEmpty then .error .namelessMark else item .empty
  | "ACCEPT" => item .accept
  | "F" | "FAIL" => item .fail
  | "COMMIT" => item .commit
  | "PRUNE" => item .prune
  | "SKIP" => if argument.isSome then item .empty else item .skip
  | "THEN" => item .next
  | _ => .error .unknownVerb

/-- The opening of a group whose content is a condition by a reference. -/
def conditionOpening (r : Reader) (cs : List Char) : Except Fault (Opening × Reader) := do
  let close (rest : List Char) (k : List Char → Except Fault (Opening × Reader)) : Except Fault (Opening × Reader) :=
    match rest with
    | ')' :: rest => k rest
    | _ => .error .openCondition
  let with_ (c : Condition) (isDefinition : Bool) (rest : List Char) : Except Fault (Opening × Reader) :=
    close rest fun rest => .ok (.condition c isDefinition, { r with rest := rest })
  match ← groupNumber? r.count cs with
  | some (n, rest) =>
    if n = 0 then .error .missingGroup else with_ (.group (.number n)) false rest
  | none =>
    match cs with
    | 'V' :: 'E' :: 'R' :: 'S' :: 'I' :: 'O' :: 'N' :: rest =>
      let (isAtLeast, rest) :=
        match rest with
        | '>' :: '=' :: rest => (true, rest)
        | '=' :: rest => (false, rest)
        | _ => (false, 'x' :: rest)
      let major := rest.takeWhile isDigit
      let minor :=
        match rest.drop major.length with
        | '.' :: rest => rest.takeWhile isDigit
        | _ => []
      let after := rest.drop (major.length + if minor.isEmpty then 0 else minor.length + 1)
      if major.isEmpty then .error .badVersion
      else
        let value (ds : List Char) : Nat := (Arithmetic.digitsOf 10 ds).1
        let minorValue := if minor.length = 1 then 10 * value minor else value minor
        let (a, b) := (value major * 100 + minorValue, 1042)
        with_ (.always (if isAtLeast then a ≤ b else a = b)) false after
    | 'R' :: rest =>
      match rest with
      | '&' :: rest =>
        let text := rest.takeWhile isNamePart
        with_ (.called (some (.name (String.ofList text)))) false (rest.drop text.length)
      | _ =>
        let text := rest.takeWhile isNamePart
        if text.all isDigit then
          with_ (.called (if text.isEmpty then none else some (.number (Arithmetic.digitsOf 10 text).1))) false
            (rest.drop text.length)
        else with_ (.group (.name (String.ofList ('R' :: text)))) false (rest.drop text.length)
    | c :: rest =>
      match if c = '<' ∨ c = '\'' then closing? c else none with
      | some finish =>
        let (s, rest) ← name finish rest
        with_ (.group (.name s)) false rest
      | none =>
        let (s, rest) ← name ')' cs
        if s = "DEFINE" then with_ (.always false) true (')' :: rest)
        else with_ (.group (.name s)) false (')' :: rest)
    | [] => .error .openCondition

mutual

/-- Reads alternatives up to the end of a group, or of the whole text. -/
def branches (isReset : Bool) (start : Nat) : (fuel : Nat) → (highest : Nat) → Reader → Except Fault (List Part × Reader)
  | 0, _, _ => .error .openGroup
  | fuel + 1, highest, r => do
    let (p, r) ← branch fuel r []
    let highest := max highest r.count
    match r.rest with
    | '|' :: rest =>
      let r := { r with rest := rest, count := if isReset then start else r.count }
      let (others, r) ← branches isReset start fuel highest r
      return (p :: others, r)
    | _ => return ([p], { r with count := highest })

/-- Reads parts that follow each other. -/
def branch : (fuel : Nat) → Reader → (items : List Item) → Except Fault (Part × Reader)
  | 0, _, _ => .error .openGroup
  | fuel + 1, r, items => do
    let finish (r : Reader) : Except Fault (Part × Reader) :=
      .ok ((items.filterMap (·.part)).foldl (fun after p =>
        match after with
        | .empty => p
        | _ => .seq p after) .empty, r)
    let add (p : Part) (isRepeatable : Bool) (r : Reader) : Except Fault (Part × Reader) :=
      branch fuel r (⟨some p, isRepeatable⟩ :: items)
    match r.rest with
    | [] => finish { r with isLiteral := false }
    | c :: rest =>
      if r.isLiteral then
        match r.rest with
        | '\\' :: 'E' :: rest => branch fuel { r with rest := rest, isLiteral := false } items
        | _ => add (literal r.mode c) true { r with rest := rest }
      else if r.mode.ignoresBlanks && isWithin blanks c then branch fuel { r with rest := rest } items
      else if r.mode.ignoresBlanks && c = '#' then
        branch fuel { r with rest := (rest.dropWhile (· ≠ '\n')).drop 1 } items
      else
        match ← repetition? r.rest with
        | some (least, most, rest) =>
          match items with
          | ⟨some p, true⟩ :: others =>
            let (g, rest) := greed r.mode rest
            branch fuel { r with rest := rest } (⟨some (repeat_ least most g p), false⟩ :: others)
          | _ => .error .nothingToRepeat
        | none =>
          match c with
          | '|' | ')' => finish r
          | '^' => add (.place (if r.mode.isByLines then .lineStart else .start)) false { r with rest := rest }
          | '$' =>
            -- A line end that is the last character may stand behind the place.
            let atEnd : Part := .alt (.place .finish) (.look false (.seq (.member false [('\n', '\n')]) (.place .finish)))
            add (if r.mode.isByLines then .place .lineFinish else atEnd) false { r with rest := rest }
          | '.' =>
            add (if r.mode.dotsAll then .member true [] else .member true [('\n', '\n')]) true { r with rest := rest }
          | '[' =>
            let (p, after) ← bracket { r with rest := rest }
            add p (!(p matches .place _)) after
          | '\\' =>
            match rest with
            | 'Q' :: rest => branch fuel { r with rest := rest, isLiteral := true } items
            | _ =>
              match ← escape { r with rest := rest } false with
              | (.char c, rest) => add (literal r.mode c) true { r with rest := rest }
              | (.set isInverted ranges, rest) => add (.member isInverted ranges) true { r with rest := rest }
              | (.part p isRepeatable, rest) => add p isRepeatable { r with rest := rest }
              | (.nothing, rest) => branch fuel { r with rest := rest } items
          | '(' =>
            let (item?, r) ← opening fuel { r with rest := rest }
            match item? with
            | some item => branch fuel r (item :: items)
            | none => branch fuel r items
          | _ => add (literal r.mode c) true { r with rest := rest }

/-- Reads what follows the opening sign of a group; nothing for a comment. -/
def opening : (fuel : Nat) → Reader → Except Fault (Option Item × Reader)
  | 0, _ => .error .openGroup
  | fuel + 1, r => do
    let group (o : Opening) (r : Reader) : Except Fault (Option Item × Reader) := do
      let (p, r) ← content fuel o r
      return (some ⟨some p, true⟩, r)
    let call (reference : Reference) (rest : List Char) : Except Fault (Option Item × Reader) :=
      match rest with
      | ')' :: rest => .ok (some ⟨some (.call reference), true⟩, { r with rest := rest })
      | _ => .error .openRecursion
    match r.rest with
    | '*' :: cs =>
      match cs with
      | c :: _ =>
        if c.isLower then
          let text := cs.takeWhile isNamePart
          match cs.drop text.length, assertions.find? fun x => x.1 = String.ofList text with
          | ':' :: rest, some (_, o) => group o { r with rest := rest }
          | ':' :: _, none => .error .unknownAssertion
          | _, _ => .error .unknownAssertion
        else if c ≠ ')' then
          let (item, r) ← verb r cs
          return (some item, r)
        else group (.taking (r.count + 1)) { r with count := r.count + 1 }
      | [] => group (.taking (r.count + 1)) { r with count := r.count + 1 }
    | '?' :: cs =>
      match cs with
      | [] => .error .openGroup
      | '#' :: rest =>
        match rest.dropWhile (· ≠ ')') with
        | _ :: rest => return (none, { r with rest := rest })
        | [] => .error .openComment
      | ':' :: rest => group .plain { r with rest := rest }
      | '|' :: rest => group .reset { r with rest := rest }
      | '>' :: rest => group .once { r with rest := rest }
      | '=' :: rest | '*' :: rest => group (.look false) { r with rest := rest }
      | '!' :: rest =>
        group (.look true) { r with rest := rest }
      | '<' :: '=' :: rest | '<' :: '*' :: rest => group (.behind false) { r with rest := rest }
      | '<' :: '!' :: rest => group (.behind true) { r with rest := rest }
      | '<' :: rest | 'P' :: '<' :: rest =>
        let (s, rest) ← name '>' rest
        let (n, r) ← named r s rest
        group (.taking n) r
      | '\'' :: rest =>
        let (s, rest) ← name '\'' rest
        let (n, r) ← named r s rest
        group (.taking n) r
      | 'P' :: '=' :: rest =>
        let (s, rest) ← name ')' rest
        return (some ⟨some (.back (.name s) r.mode.ignoresCase), true⟩, { r with rest := rest })
      | 'P' :: '>' :: rest | '&' :: rest =>
        let (s, rest) ← name ')' rest
        return (some ⟨some (.call (.name s)), true⟩, { r with rest := rest })
      | 'P' :: rest => .error (if rest.isEmpty then .openGroup else .unknownNamedMark)
      | 'R' :: rest => call (.number 0) rest
      | 'C' :: rest =>
        let ds := rest.takeWhile isDigit
        if 255 < (Arithmetic.digitsOf 10 ds).1 then .error .bigCallout
        else
          match rest.drop ds.length with
          | ')' :: rest => return (some ⟨some .empty, false⟩, { r with rest := rest })
          | _ => .error .openCallout
      | '(' :: rest =>
        let by_ (o : Opening) (rest : List Char) : Except Fault (Option Item × Reader) := do
          let (p, r) ← content fuel o { r with rest := rest }
          group (.conditionBy p) r
        match rest with
        | '?' :: '=' :: rest | '?' :: '*' :: rest => by_ (.look false) rest
        | '?' :: '!' :: rest => by_ (.look true) rest
        | '?' :: '<' :: '=' :: rest | '?' :: '<' :: '*' :: rest => by_ (.behind false) rest
        | '?' :: '<' :: '!' :: rest => by_ (.behind true) rest
        | '?' :: _ => .error .noAssertion
        | '*' :: cs =>
          let text := cs.takeWhile isNamePart
          match cs.drop text.length, assertions.find? fun x => x.1 = String.ofList text with
          | ':' :: rest, some (_, o) => by_ o rest
          | _, _ => .error .noAssertion
        | _ =>
          let (o, r) ← conditionOpening r rest
          group o r
      | c :: rest =>
        let isRelative := (c = '+' || c = '-') && rest.head?.any isDigit
        if isDigit c || isRelative then
          match ← groupNumber? r.count cs with
          | some (n, rest) => call (.number n) rest
          | none => .error .noDigit
        else if c = '+' then .error .noDigit
        else
          let (isFresh, letters) := if c = '^' then (true, rest) else (false, cs)
          let base : Mode :=
            if isFresh then
              { r.mode with
                ignoresCase := false
                isByLines := false
                dotsAll := false
                ignoresBlanks := false
                ignoresAllBlanks := false
                namesOnly := false }
            else r.mode
          let (mode, finish, rest) ← options (letters.length + 1) true (!isFresh) base letters
          if finish = ')' then return (some ⟨none, false⟩, { r with rest := rest, mode := mode })
          else
            let (p, after) ← content fuel .plain { r with rest := rest, mode := mode }
            return (some ⟨some p, true⟩, { after with mode := r.mode })
    | _ =>
      if r.mode.namesOnly then group .plain r
      else
        let r := { r with count := r.count + 1 }
        group (.taking r.count) r

/-- Reads what is in a group, up to its closing sign, and makes of it what the opening says. -/
def content : (fuel : Nat) → Opening → Reader → Except Fault (Part × Reader)
  | 0, _, _ => .error .openGroup
  | fuel + 1, o, r => do
    let (parts, after) ← branches (o matches .reset) r.count fuel r.count r
    match after.rest with
    | ')' :: rest =>
      let after := { after with rest := rest, mode := r.mode }
      let whole := alternatives parts
      match o with
      | .plain | .reset => return (whole, after)
      | .taking n =>
        let p := Part.group n whole
        let groups := if after.groups.any fun g => g.1 = n then after.groups else (n, p) :: after.groups
        return (p, { after with groups := groups })
      | .once => return (.atomic whole, after)
      | .look isNegative => return (.look isNegative whole, after)
      | .behind isNegative =>
        return (.look isNegative (alternatives (parts.map fun p => .seq (.stepBack 0) p)), after)
      | .condition c isDefinition =>
        match parts with
        | [yes] => return (if isDefinition then .choice (.always false) yes .empty else .choice c yes .empty, after)
        | [yes, no] => if isDefinition then .error .manyDefinitions else return (.choice c yes no, after)
        | _ => .error (if isDefinition then .manyDefinitions else .manyBranches)
      | .conditionBy p =>
        match parts with
        | [yes] => return (.choiceBy p yes .empty, after)
        | [yes, no] => return (.choiceBy p yes no, after)
        | _ => .error .manyBranches
    | _ => .error .openGroup

end

/-! ## Whole expressions -/

/-- Whether a reference has something that it refers to. -/
def checkReference (e : RichExpression) (highest : Nat) (r : Reference) : Except Fault Unit :=
  let isThere : Bool :=
    match r with
    | .number n => decide (n ≤ highest)
    | .name s => e.names.any fun x => x.1 = s
  if isThere then .ok () else .error .missingGroup

/-- The length of all texts that a part takes, if it is only one. -/
def length (e : RichExpression) (highest : Nat) : (fuel : Nat) → Part → Except Fault Nat
  | 0, _ => .error .unknownLength
  | fuel + 1, p => do
    let again := length e highest fuel
    let same (f g : Part) : Except Fault Nat := do
      let n ← again f
      if (← again g) = n then return n else .error .unknownLength
    match p with
    | .member _ _ => return 1
    | .seq f g => return (← again f) + (← again g)
    | .alt f g => same f g
    | .repeated least most _ f =>
      match f with
      | .look _ _ => return 0
      | _ =>
        let n ← again f
        if most = some least then return n * least else .error .unknownLength
    | .group _ f | .atomic f => again f
    | .back r _ | .call r => do
      checkReference e highest r
      match (e.numbers r).head? with
      | some 0 | none => .error .unknownLength
      | some n =>
        match e.groups.find? fun g => g.1 = n with
        | some (_, f) => again f
        | none => .error .unknownLength
    | .choice _ f g | .choiceBy _ f g =>
      match g with
      | .empty => again f
      | _ => same f g
    | .accept => .error .unknownLength
    | _ => return 0

/-- Puts in how far to step back for a part. -/
def measure (e : RichExpression) (highest : Nat) : (fuel : Nat) → Part → Except Fault Part
  | 0, p => .ok p
  | fuel + 1, p => do
    let again := measure e highest fuel
    match p with
    | .seq (.stepBack _) f => return .seq (.stepBack (← length e highest (fuel + 1) f)) (← again f)
    | .seq f g => return .seq (← again f) (← again g)
    | .alt f g => return .alt (← again f) (← again g)
    | .repeated least most greed f => return .repeated least most greed (← again f)
    | .group n f => return .group n (← again f)
    | .atomic f => return .atomic (← again f)
    | .look isNegative f => return .look isNegative (← again f)
    | .choiceBy c f g => return .choiceBy (← again c) (← again f) (← again g)
    | .choice c f g => return .choice c (← again f) (← again g)
    | _ => return p

/-- Checks what can only be known once everything was read. -/
def check (e : RichExpression) (highest : Nat) : (isLook : Bool) → Part → Except Fault Unit
  | isLook, .seq f g | isLook, .alt f g => do
    check e highest isLook f
    check e highest isLook g
  | isLook, .repeated _ _ _ f | isLook, .group _ f | isLook, .atomic f => check e highest isLook f
  | _, .look _ f => check e highest true f
  | isLook, .choiceBy c f g => do
    check e highest true c
    check e highest isLook f
    check e highest isLook g
  | isLook, .choice c f g => do
    match c with
    | .group r | .called (some r) => checkReference e highest r
    | _ => pure ()
    check e highest isLook f
    check e highest isLook g
  | _, .back r _ | _, .call r => checkReference e highest r
  | isLook, .keep => if isLook then .error .keepInLook else .ok ()
  | _, _ => .ok ()

/-- Settings of the search itself that may stand in front of an expression. -/
def settings : List String :=
  ["UTF", "UCP", "NOTEMPTY", "NOTEMPTY_ATSTART", "NO_AUTO_POSSESS", "NO_DOTSTAR_ANCHOR", "NO_JIT",
    "NO_START_OPT", "CR", "LF", "CRLF", "ANY", "NUL", "ANYCRLF", "BSR_ANYCRLF", "BSR_UNICODE"]

/-- Settings with a number behind them. -/
def numberedSettings : List String :=
  ["LIMIT_HEAP", "LIMIT_MATCH", "LIMIT_DEPTH", "LIMIT_RECURSION"]

/-- A text without settings in front. -/
def withoutSettings : (fuel : Nat) → List Char → List Char
  | 0, cs => cs
  | fuel + 1, cs =>
    match cs with
    | '(' :: '*' :: inner =>
      let text := inner.takeWhile isNamePart
      match inner.drop text.length with
      | ')' :: rest => if settings.contains (String.ofList text) then withoutSettings fuel rest else cs
      | '=' :: rest =>
        match rest.dropWhile isDigit with
        | ')' :: rest => if numberedSettings.contains (String.ofList text) then withoutSettings fuel rest else cs
        | _ => cs
      | _ => cs
    | _ => cs

/-- Reads an expression. -/
def parse (mode : Mode) (text : List Char) : Except Fault RichExpression := do
  let cs := withoutSettings text.length text
  let fuel := 4 * cs.length + 8
  let (parts, r) ← branches false 0 fuel 0 ⟨cs, mode, 0, [], [], false⟩
  if !r.rest.isEmpty then .error .closedTwice
  let raw : RichExpression := ⟨alternatives parts, r.groups, r.names⟩
  let body ← measure raw r.count (8 * fuel) raw.body
  check raw r.count false raw.body
  let groups ← r.groups.mapM fun (n, p) => do return (n, ← measure raw r.count (8 * fuel) p)
  return { raw with body := body, groups := groups }

/-- The text of the expression for matches that are whole words. -/
def asWords (text : List Char) : List Char :=
  "(?<!\\w)(?:".toList ++ text ++ ")(?!\\w)".toList

/-- The expression for matches that are whole lines. -/
def asLine (e : RichExpression) : RichExpression :=
  { e with body := .seq (.place .start) (.seq e.body (.place .finish)) }

end RichExpression

end AddonAtlas.Shell
