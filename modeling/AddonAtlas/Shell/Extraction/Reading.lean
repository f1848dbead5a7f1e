import AddonAtlas.Shell.Extraction.Source

/-!
# Reading extraction programs

Terms are read by how closely operators bind. Names in front of lists are functions; some take one term, others
all that follow. Texts and expressions hold names of places, the values of which are put in when they are used.
-/

namespace AddonAtlas.Shell.Extraction

namespace Reader

/-! ## Functions -/

/-- Functions that take one term, or none. -/
def unaryFunctions : List String :=
  ["defined", "ref", "scalar", "lc", "uc", "fc", "lcfirst", "ucfirst", "length", "chr", "ord", "int", "abs", "sqrt",
    "sin", "cos", "exp", "log", "hex", "oct", "rand", "srand", "quotemeta", "chomp", "chop", "chdir", "rmdir",
    "readline", "close", "each", "keys", "values", "shift", "pop", "delete", "exists", "undef", "exit", "umask",
    "sleep", "localtime", "gmtime", "caller", "require", "pos", "readlink", "stat", "eof", "fileno", "lock", "study",
    "closedir", "readdir", "rewinddir", "glob", "alarm", "floor", "ceil"]

/-- Functions that take all that follows. -/
def listFunctions : List String :=
  ["join", "split", "push", "unshift", "splice", "reverse", "sprintf", "index", "rindex", "substr", "die", "warn",
    "open", "unlink", "mkdir", "system", "exec", "binmode", "atan2", "pack", "unpack", "rename", "chmod", "printf",
    "select", "seek", "kill", "utime", "opendir", "sum", "sum0", "max", "min", "uniq", "maxstr", "minstr", "shuffle",
    "bless", "local", "wait", "waitpid", "read", "sysread", "syswrite", "link", "symlink", "truncate", "vec", "fork",
    "pipe", "crypt", "lstat", "tie", "croak", "confess", "carp", "strftime"]

/-- Functions that take nothing. -/
def bareFunctions : List String :=
  ["time", "times", "wantarray", "getppid", "wait", "fork"]

/-- Functions that do something with each value of a list. -/
def sweep? : String → Option Sweep
  | "map" => some .map
  | "grep" => some .select
  | "sort" => some .sort
  | "first" => some .first
  | "any" => some .any
  | "all" => some .all
  | "none" => some .none
  | _ => none

/-- Words that end a list of terms. -/
def isListEnd (w : String) : Bool :=
  ["or", "and", "xor", "if", "unless", "while", "until", "for", "foreach", "x", "eq", "ne", "lt", "gt", "le", "ge",
    "cmp"].contains w

/-- Whether a name is that of a file that a program opens. -/
def isHandleName (w : String) : Bool :=
  !w.isEmpty && w.toList.all fun c => c.isUpper || isDigit c || c = '_'

/-- The value without a name. -/
def topic : Term := .named .scalar "_"

/-- The name of a place, or the reference by which it is found. -/
inductive Root
  | name (s : String)
  | pointed (t : Term)

def Root.term (k : Kind) : Root → Term
  | name s => .named k s
  | pointed t => .pointed k t

/-- The characters that are names behind a dollar sign. -/
def markNames : List Char :=
  "&'+!@/\\,;.0_\"<>()[]:?|^-~=%".toList ++ [Char.ofNat 96]

/-- The character that an escape stands for in a text, and what is behind it. -/
def escaped : List Char → List Char × List Char
  | 'n' :: rest => (['\n'], rest)
  | 't' :: rest => (['\t'], rest)
  | 'r' :: rest => (['\r'], rest)
  | 'a' :: rest => (['\x07'], rest)
  | 'e' :: rest => (['\x1b'], rest)
  | 'f' :: rest => (['\x0c'], rest)
  | 'b' :: rest => (['\x08'], rest)
  | 'x' :: '\x7b' :: rest =>
    let ds := rest.takeWhile (· ≠ '\x7d')
    let n := (Arithmetic.digitsOf 16 ds).1
    (if n < 256 then [Char.ofNat n] else charactersOfCode n, rest.drop (ds.length + 1))
  | 'x' :: rest =>
    let ds := (rest.take 2).takeWhile fun c => isDigit c || ('a' ≤ c && c ≤ 'f') || ('A' ≤ c && c ≤ 'F')
    ([Char.ofNat (Arithmetic.digitsOf 16 ds).1], rest.drop ds.length)
  | 'c' :: c :: rest => ([Char.ofNat (c.toUpper.toNat ^^^ 64)], rest)
  | c :: rest =>
    if '0' ≤ c && c ≤ '7' then
      let ds := ((c :: rest).take 3).takeWhile fun c => '0' ≤ c && c ≤ '7'
      ([Char.ofNat ((Arithmetic.digitsOf 8 ds).1 % 256)], (c :: rest).drop ds.length)
    else ([c], rest)
  | [] => (['\\'], [])
where
  /-- The bytes of a character beyond those of one byte. -/
  charactersOfCode (n : Nat) : List Char :=
    (String.singleton (Char.ofNat n)).toUTF8.toList.map fun b => Char.ofNat b.toNat

/-- The characters of a list for a replacement of characters. -/
def characters : (fuel : Nat) → List Char → List Char
  | 0, _ => []
  | _ + 1, [] => []
  | fuel + 1, cs =>
    let one (cs : List Char) : List Char × List Char :=
      match cs with
      | '\\' :: rest => escaped rest
      | c :: rest => ([c], rest)
      | [] => ([], [])
    let (found, rest) := one cs
    match rest with
    | '-' :: d :: more =>
      let (last, rest) := one (d :: more)
      match found, last with
      | [a], [b] =>
        (List.range (b.toNat + 1 - a.toNat)).map (fun i => Char.ofNat (a.toNat + i)) ++ characters fuel rest
      | _, _ => found ++ last ++ characters fuel rest
    | _ => found ++ characters fuel rest

/-- What a loop's condition means: lines that are read are the value without a name, up to the end. -/
def loopCondition (t : Term) : Term :=
  match t with
  | .readLine _ | .paths _ => .call "defined" [.assign topic t]
  | .assign place (.readLine h) => .call "defined" [.assign place (.readLine h)]
  | .assign place (.paths p) => .call "defined" [.assign place (.paths p)]
  | .assign place (.call "readdir" d) => .call "defined" [.assign place (.call "readdir" d)]
  | .call "readdir" _ => .call "defined" [.assign topic t]
  | t => t

/-- Takes the text of a document that begins on the next line and ends with a line of its own. -/
def document (tag : List Char) (isIndented : Bool) : Reader (List Char) := do
  let s ← get
  let here := s.rest.takeWhile (· ≠ '\n')
  let behind := s.rest.drop (here.length + 1)
  let isBlank (c : Char) : Bool := c = ' ' || c = '\t'
  let lines := behind.splitOn '\n'
  let isEnd (l : List Char) : Bool := (if isIndented then l.dropWhile isBlank else l) = tag
  let inner := lines.takeWhile fun l => !isEnd l
  if inner.length = lines.length then
    fail ("Can't find string terminator \"" ++ String.ofList tag ++ "\" anywhere before EOF")
  let margin :=
    ((inner.filter fun l => !l.all isBlank).map fun l => (l.takeWhile isBlank).length).min?.getD 0
  let inner := if isIndented then inner.map fun l => l.drop margin else inner
  let after := (lines.drop (inner.length + 1))
  set { s with rest := here ++ (if after.isEmpty then [] else '\n' :: ['\n'].intercalate after) }
  return inner.flatMap fun l => l ++ ['\n']

/-- Whether what is between brackets in an expression is the number of a value rather than a class. -/
def isIndex (cs : List Char) : Bool :=
  let inner := cs.takeWhile (· ≠ ']')
  let body := if inner.head? = some '-' ∨ inner.head? = some '$' then inner.drop 1 else inner
  !body.isEmpty && (if inner.head? = some '$' then body.all isWordPart else body.all isDigit)

/-- Whether what is behind a brace is a table rather than statements. -/
def beginsTable (cs : List Char) : Bool :=
  let cs := cs.dropWhile Arithmetic.isSpace
  let isSign (cs : List Char) : Bool :=
    let cs := cs.dropWhile Arithmetic.isSpace
    cs.head? = some ',' || "=>".toList.isPrefixOf cs
  match cs with
  | '\x7d' :: _ => true
  | c :: rest =>
    if c = '\'' || c = '"' then isSign ((rest.dropWhile (· ≠ c)).drop 1)
    else if c = '%' || c = '@' then rest.head?.any fun d => d.isAlpha || d = '$' || d = '\x7b' || d = '_'
    else if c = '$' then isSign (rest.dropWhile isWordPart)
    else if isWordPart c then isSign (cs.dropWhile isWordPart)
    else false
  | [] => false

/-- A text and terms, as one term. -/
def joinedTerm (parts : List Term) : Term :=
  match parts with
  | [] => .constant (.text "")
  | [.constant v] => .constant (.text v.toText)
  | parts => .joined parts

/-- The closing braces and blanks behind a word that is a key. -/
def keyWord? (cs : List Char) : Option (String × Nat) :=
  let blanks := cs.takeWhile Arithmetic.isSpace
  let body := cs.drop blanks.length
  let sign := if body.head? = some '-' then ['-'] else []
  let w := (body.drop sign.length).takeWhile isWordPart
  let behind := body.drop (sign.length + w.length)
  let more := behind.takeWhile Arithmetic.isSpace
  if !w.isEmpty && !(w.headD '0').isDigit && (behind.drop more.length).head? = some '\x7d' then
    some (String.ofList (sign ++ w), blanks.length + sign.length + w.length + more.length + 1)
  else none

/-- Whether a place stands for several values. -/
def isSeveral : Term → Bool
  | .named .list _ | .named .table _ | .pointed .list _ | .pointed .table _ | .several _ | .elements _ _ | .entries _ _ => true
  | .declared _ places isList => isList || (match places with
      | [.named .list _] | [.named .table _] => true
      | _ => false)
  | _ => false

mutual

/-- Reads a term with operators that are words. -/
def expression : (fuel : Nat) → Reader Term
  | 0 => fail "too deep"
  | fuel + 1 => do
    let first ← conjunction fuel
    disjunctions fuel first

def disjunctions : (fuel : Nat) → Term → Reader Term
  | 0, _ => fail "too deep"
  | fuel + 1, first => do
    if ← takesWord "or" then disjunctions fuel (.joint .either first (← conjunction fuel))
    else if ← takesWord "xor" then disjunctions fuel (.operate .exclusive first (← conjunction fuel))
    else return first

def conjunction : (fuel : Nat) → Reader Term
  | 0 => fail "too deep"
  | fuel + 1 => do
    let first ← inversion fuel
    conjunctions fuel first

def conjunctions : (fuel : Nat) → Term → Reader Term
  | 0, _ => fail "too deep"
  | fuel + 1, first => do
    if ← takesWord "and" then conjunctions fuel (.joint .both first (← inversion fuel)) else return first

def inversion : (fuel : Nat) → Reader Term
  | 0 => fail "too deep"
  | fuel + 1 => do
    if ← takesWord "not" then return .not (← inversion fuel)
    else
      let terms ← list fuel
      match terms with
      | [t] => return t
      | terms => return .several terms

/-- Reads terms between commas, up to what cannot go on a list. -/
def list : (fuel : Nat) → Reader (List Term)
  | 0 => fail "too deep"
  | fuel + 1 => do
    let first ← assignment fuel
    let rec_ ← moreTerms fuel
    return first :: rec_

def moreTerms : (fuel : Nat) → Reader (List Term)
  | 0 => fail "too deep"
  | fuel + 1 => do
    let cs ← ahead
    let hasComma := cs.head? = some ',' || "=>".toList.isPrefixOf cs
    if !hasComma then return []
    else
      drop (if cs.head? = some ',' then 1 else 2)
      let cs ← ahead
      let ends :=
        match cs with
        | [] => true
        | c :: _ => [')', ']', '\x7d', ';', ':'].contains c
      if ends then return []
      else if cs.head? = some ',' || "=>".toList.isPrefixOf cs then moreTerms fuel
      else
        match ← word? with
        | some w => if isListEnd w && !(← isKey w) then return [] else pure ()
        | none => pure ()
        let t ← assignment fuel
        return t :: (← moreTerms fuel)

/-- Whether a word that comes next is a text because of what follows it. -/
def isKey (w : String) : Reader Bool := do
  let cs := (← ahead).drop w.length
  return "=>".toList.isPrefixOf (cs.dropWhile Arithmetic.isSpace)

/-- Reads a term with assignments. -/
def assignment : (fuel : Nat) → Reader Term
  | 0 => fail "too deep"
  | fuel + 1 => do
    let place ← choice fuel
    match ← operator? with
    | some "=" =>
      drop 1
      return .assign place (← assignment fuel)
    | some "&&=" =>
      drop 3
      return .updateIf .both place (← assignment fuel)
    | some "||=" =>
      drop 3
      return .updateIf .either place (← assignment fuel)
    | some "//=" =>
      drop 3
      return .updateIf .given place (← assignment fuel)
    | some o =>
      match update? o with
      | some u =>
        drop o.length
        return .update u place (← assignment fuel)
      | none => return place
    | none => return place

def choice : (fuel : Nat) → Reader Term
  | 0 => fail "too deep"
  | fuel + 1 => do
    let condition ← range fuel
    if (← operator?) = some "?" then
      drop 1
      let yes ← assignment fuel
      expect ":"
      return .choice condition yes (← assignment fuel)
    else return condition

def range : (fuel : Nat) → Reader Term
  | 0 => fail "too deep"
  | fuel + 1 => do
    let first ← either fuel
    match ← operator? with
    | some ".." | some "..." =>
      drop (if (← operator?) = some ".." then 2 else 3)
      let last ← either fuel
      let n := (← get).ranges
      modify fun s => { s with ranges := n + 1 }
      return .range n first last
    | _ => return first

def either : (fuel : Nat) → Reader Term
  | 0 => fail "too deep"
  | fuel + 1 => do
    let first ← both fuel
    moreEither fuel first

def moreEither : (fuel : Nat) → Term → Reader Term
  | 0, _ => fail "too deep"
  | fuel + 1, first => do
    match ← operator? with
    | some "||" =>
      drop 2
      moreEither fuel (.joint .either first (← both fuel))
    | some "//" =>
      drop 2
      moreEither fuel (.joint .given first (← both fuel))
    | _ => return first

def both : (fuel : Nat) → Reader Term
  | 0 => fail "too deep"
  | fuel + 1 => do
    let first ← binary fuel 11
    moreBoth fuel first

def moreBoth : (fuel : Nat) → Term → Reader Term
  | 0, _ => fail "too deep"
  | fuel + 1, first => do
    if (← operator?) = some "&&" then
      drop 2
      moreBoth fuel (.joint .both first (← binary fuel 11))
    else return first

/-- Reads a term with operators that bind so closely at least. -/
def binary : (fuel : Nat) → (least : Fin 32) → Reader Term
  | 0, _ => fail "too deep"
  | fuel + 1, least => do
    let first ← bound fuel
    moreBinary fuel least first

def moreBinary : (fuel : Nat) → (least : Fin 32) → Term → Reader Term
  | 0, _, _ => fail "too deep"
  | fuel + 1, least, first => do
    match (← operator?).bind fun o => (binary? o).map fun b => (o, b) with
    | some (o, level, operator) =>
      if level < least then return first
      else
        drop o.length
        let second ← binary fuel (level + 1)
        moreBinary fuel least (.operate operator first second)
    | none => return first

/-- Reads a term that is bound to an expression, or not. -/
def bound : (fuel : Nat) → Reader Term
  | 0 => fail "too deep"
  | fuel + 1 => do
    let subject ← unary fuel
    moreBound fuel subject

def moreBound : (fuel : Nat) → Term → Reader Term
  | 0, _ => fail "too deep"
  | fuel + 1, subject => do
    let o ← operator?
    if o = some "=~" ∨ o = some "!~" then
      drop 2
      let isInverted := o = some "!~"
      let right ← unary fuel
      let t : Term :=
        match right with
        | .find none _ p flags => .find (some subject) isInverted p flags
        | .replace none p r flags =>
          let t := Term.replace (some subject) p r flags
          if isInverted then .not t else t
        | .transliterate none a b flags => .transliterate (some subject) a b flags
        | right => .find (some subject) isInverted right []
      moreBound fuel t
    else return subject

def unary : (fuel : Nat) → Reader Term
  | 0 => fail "too deep"
  | fuel + 1 => do
    let cs ← ahead
    match cs with
    | '!' :: _ =>
      drop 1
      return .not (← unary fuel)
    | '~' :: _ =>
      drop 1
      return .complement (← unary fuel)
    | '\\' :: _ =>
      drop 1
      return .reference (← unary fuel)
    | '+' :: '+' :: _ =>
      drop 2
      return .step (← unary fuel) true true
    | '-' :: '-' :: _ =>
      drop 2
      return .step (← unary fuel) false true
    | '+' :: _ =>
      drop 1
      unary fuel
    | '-' :: c :: d :: rest =>
      let isTest := "edfrwxszlpSbctugkTBAMCRWXOo".toList.contains c && !isWordPart d &&
        !("=>".toList.isPrefixOf ((d :: rest).dropWhile Arithmetic.isSpace))
      if isTest then
        drop 2
        let next ← ahead
        let hasFile :=
          match next with
          | c :: _ => c = '$' || c = '"' || c = '\'' || c = '(' || c.isAlpha || c = '_'
          | [] => false
        if hasFile && !((← word?).any isListEnd) then return .fileTest c (some (← unary fuel))
        else return .fileTest c none
      else minus fuel
    | '-' :: _ => minus fuel
    | _ => powers fuel
where
  /-- Reads a term behind a minus sign. -/
  minus : (fuel : Nat) → Reader Term
    | 0 => fail "too deep"
    | fuel + 1 => do
      drop 1
      match ← word? with
      | some w =>
        let known := unaryFunctions.contains w || listFunctions.contains w || bareFunctions.contains w ||
          ((← get).procedures.any fun p => p.1 = w)
        if known then return .negate (← unary fuel)
        else
          drop w.length
          return .constant (.text ("-" ++ w))
      | none => return .negate (← unary fuel)

def powers : (fuel : Nat) → Reader Term
  | 0 => fail "too deep"
  | fuel + 1 => do
    let base ← stepped fuel
    if (← operator?) = some "**" then
      drop 2
      return .operate .power base (← unary fuel)
    else return base

def stepped : (fuel : Nat) → Reader Term
  | 0 => fail "too deep"
  | fuel + 1 => do
    let t ← primary fuel
    match (← get).rest with
    | '+' :: '+' :: _ =>
      drop 2
      return .step t true false
    | '-' :: '-' :: _ =>
      drop 2
      return .step t false false
    | _ => return t

/-- Reads the name or the reference behind the mark of a place. -/
def root : (fuel : Nat) → Reader Root
  | 0 => fail "too deep"
  | fuel + 1 => do
    let cs := (← get).rest
    match cs with
    | '\x7b' :: rest =>
      let inner := rest.dropWhile Arithmetic.isSpace
      let w := if inner.head? = some '^' then inner.takeWhile fun c => c = '^' || isWordPart c else wordOf (inner.length + 1) inner
      let behind := (inner.drop w.length).dropWhile Arithmetic.isSpace
      if !w.isEmpty && behind.head? = some '\x7d' then
        drop (cs.length - behind.length + 1)
        return .name (String.ofList w)
      else
        drop 1
        let body ←
          match inner with
          | '\x7b' :: more =>
            if beginsTable more then
              let line ← line
              pure [Statement.evaluate line (← expression fuel)]
            else statements fuel
          | _ => statements fuel
        expect "\x7d"
        return .pointed (match body with
          | [.evaluate _ t] => t
          | body => .block false body)
    | '$' :: c :: _ =>
      if isWordPart c || c = '\x7b' || c = '$' || c = ':' then
        drop 1
        match ← root fuel with
        | .name s => return .pointed (.named .scalar s)
        | .pointed t => return .pointed (.pointed .scalar t)
      else
        drop 1
        return .name "$"
    | '$' :: [] =>
      drop 1
      return .name "$"
    | '^' :: c :: _ =>
      if c.isUpper then
        drop 2
        return .name (String.ofList ['^', c])
      else
        drop 1
        return .name "^"
    | ':' :: ':' :: _ =>
      drop 2
      root fuel
    | c :: _ =>
      if isDigit c then
        let ds := cs.takeWhile isDigit
        drop ds.length
        return .name (String.ofList ds)
      else if isWordPart c then
        let w := wordOf (cs.length + 1) cs
        drop w.length
        let s := String.ofList w
        return .name (if s.startsWith "main::" then (s.drop 6).toString else s)
      else if markNames.contains c then
        drop 1
        return .name (String.singleton c)
      else refuse
    | [] => refuse

/-- Reads a key behind the brace that opens it. -/
def key : (fuel : Nat) → Reader Term
  | 0 => fail "too deep"
  | fuel + 1 => do
    match keyWord? (← get).rest with
    | some (w, size) =>
      drop size
      return .constant (.text w)
    | none =>
      let t ← expression fuel
      expect "\x7d"
      return t

def index : (fuel : Nat) → Reader Term
  | 0 => fail "too deep"
  | fuel + 1 => do
    let t ← expression fuel
    expect "]"
    return t

/-- Reads the terms in parentheses, the first of which comes next. -/
def arguments : (fuel : Nat) → Reader (List Term)
  | 0 => fail "too deep"
  | fuel + 1 => do
    expect "("
    if ← takes ")" then return []
    let t ← expression fuel
    expect ")"
    match t with
    | .several ts => return ts
    | t => return [t]

/-- Reads what is behind a term that may stand for a list or a table. `follows` says that no arrow is needed. -/
def subscripts : (fuel : Nat) → (inText inPattern : Bool) → (follows : Bool) → Term → Reader Term
  | 0, _, _, _, _ => fail "too deep"
  | fuel + 1, inText, inPattern, follows, t => do
    let cs := (← get).rest
    let isArrow := "->".toList.isPrefixOf cs
    let behind := if isArrow then cs.drop 2 else cs
    let behind := if isArrow && !inText then behind.dropWhile Arithmetic.isSpace else behind
    let size := cs.length - behind.length
    if !isArrow && !follows then
      -- An arrow may stand on a line of its own.
      let (next, _) := pass .blanks false 0 cs
      if !inText && "->".toList.isPrefixOf next && next.length < cs.length then
        space
        subscripts fuel inText inPattern follows t
      else return t
    else
      match behind with
      | '[' :: rest =>
        if inPattern && !isIndex rest then return t
        else
          drop (size + 1)
          subscripts fuel inText inPattern true (.element (.pointed .list t) (← index fuel))
      | '\x7b' :: rest =>
        if inPattern && rest.head?.any (fun c => isDigit c || c = ',') then return t
        else
          drop (size + 1)
          subscripts fuel inText inPattern true (.entry (.pointed .table t) (← key fuel))
      | '(' :: _ =>
        if inText then return t
        else
          drop size
          subscripts fuel inText inPattern true (.invoke t (some (← arguments fuel)))
      | '@' :: '*' :: _ =>
        if isArrow then
          drop (size + 2)
          return .pointed .list t
        else return t
      | '%' :: '*' :: _ =>
        if isArrow then
          drop (size + 2)
          return .pointed .table t
        else return t
      | '$' :: '*' :: _ =>
        if isArrow then
          drop (size + 2)
          return .pointed .scalar t
        else return t
      | '$' :: '#' :: '*' :: _ =>
        if isArrow then
          drop (size + 3)
          return .lastIndex (.pointed .list t)
        else return t
      | '@' :: '[' :: _ =>
        if isArrow then
          drop (size + 2)
          return .elements (.pointed .list t) (← index fuel)
        else return t
      | '@' :: '\x7b' :: _ =>
        if isArrow then
          drop (size + 2)
          return .entries (.pointed .table t) (← key fuel)
        else return t
      | c :: _ =>
        if isArrow && !inText && (c.isAlpha || c = '_') then
          drop size
          let w := (← word?).getD ""
          drop w.length
          let given ← if (← get).rest.head? = some '(' then arguments fuel else pure []
          subscripts fuel inText inPattern false (.call ("->" ++ w) (t :: given))
        else return t
      | [] => return t

/-- Reads a place for a value behind its mark. -/
def scalarPlace : (fuel : Nat) → (inText inPattern : Bool) → Reader Term
  | 0, _, _ => fail "too deep"
  | fuel + 1, inText, inPattern => do
    let r ← root fuel
    let cs := (← get).rest
    match cs with
    | '[' :: rest =>
      if (inPattern && !isIndex rest) || (inText && rest.head? = some ']') then return r.term .scalar
      else
        drop 1
        subscripts fuel inText inPattern true (.element (r.term .list) (← index fuel))
    | '\x7b' :: rest =>
      if inPattern && rest.head?.any (fun c => isDigit c || c = ',') then return r.term .scalar
      else
        drop 1
        subscripts fuel inText inPattern true (.entry (r.term .table) (← key fuel))
    | _ => subscripts fuel inText inPattern false (r.term .scalar)

/-- Reads a list or some of its values behind its mark. -/
def listPlace : (fuel : Nat) → Reader Term
  | 0 => fail "too deep"
  | fuel + 1 => do
    let r ← root fuel
    match (← get).rest with
    | '[' :: _ =>
      drop 1
      return .elements (r.term .list) (← index fuel)
    | '\x7b' :: _ =>
      drop 1
      return .entries (r.term .table) (← key fuel)
    | _ => return r.term .list

/-- Reads a text or an expression with places in it, up to the end or to the end of a change of letters; the
parts and what is left. -/
def parts : (fuel : Nat) → (inPattern : Bool) → (text : List Char) → (done : List Term) → List Char →
    Reader (List Term × List Char)
  | 0, _, _, _, _ => fail "too deep"
  | fuel + 1, inPattern, text, done, cs => do
    let flushed (_ : Unit) : List Term :=
      if text.isEmpty then done else .constant (.text (String.ofList text.reverse)) :: done
    let changed (name : String) (rest : List Char) : Reader (List Term × List Char) := do
      let (inner, rest) ← parts fuel inPattern [] [] rest
      parts fuel inPattern [] (.call name [joinedTerm inner] :: flushed ()) rest
    let changedNext (name : String) (rest : List Char) : Reader (List Term × List Char) := do
      let (inner, rest) ← parts fuel inPattern [] [] rest
      return ((.call name [joinedTerm inner] :: flushed ()).reverse, rest)
    match cs with
    | [] => return ((flushed ()).reverse, [])
    | '\\' :: 'U' :: rest => changed "uc" rest
    | '\\' :: 'L' :: rest => changed "lc" rest
    | '\\' :: 'Q' :: rest => changed "quotemeta" rest
    | '\\' :: 'E' :: rest => return ((flushed ()).reverse, rest)
    | '\\' :: 'u' :: rest => changedNext "ucfirst" rest
    | '\\' :: 'l' :: rest => changedNext "lcfirst" rest
    | '\\' :: rest =>
      if inPattern then
        match rest with
        | c :: rest => parts fuel inPattern (c :: '\\' :: text) done rest
        | [] => parts fuel inPattern ('\\' :: text) done []
      else
        let (found, rest) := escaped rest
        parts fuel inPattern (found.reverse ++ text) done rest
    | '$' :: rest =>
      let isPlace :=
        match rest with
        | c :: d :: _ =>
          if c.isAlpha || c = '_' || c = '\x7b' || isDigit c || c = '&' then true
          else if c = '$' then isWordPart d || d = '\x7b' || !inPattern
          else if c = '#' then d = '\x7b' || d = '$' || (d.isAlpha && !inPattern)
          else if inPattern then c = '+' && d = '\x7b'
          else markNames.contains c
        | [c] => c.isAlpha || c = '_' || isDigit c || c = '&' || (!inPattern && (c = '$' || markNames.contains c))
        | [] => false
      if !isPlace then parts fuel inPattern ('$' :: text) done rest
      else
        let (t, rest) ← within rest (do
          match (← get).rest with
          | '#' :: _ =>
            drop 1
            return .lastIndex ((← root fuel).term .list)
          | _ => scalarPlace fuel true inPattern)
        parts fuel inPattern [] (t :: flushed ()) rest
    | '@' :: rest =>
      let isPlace :=
        match rest with
        | c :: _ => c.isAlpha || c = '_' || c = '\x7b' || c = '$'
        | [] => false
      if !isPlace then parts fuel inPattern ('@' :: text) done rest
      else
        let (t, rest) ← within rest (listPlace fuel)
        parts fuel inPattern [] (.call "join" [.named .scalar "\"", t] :: flushed ()) rest
    | c :: rest => parts fuel inPattern (c :: text) done rest
where
  /-- Reads something in another text; what is left of that. -/
  within (cs : List Char) (r : Reader Term) : Reader (Term × List Char) := do
    let outer ← get
    set { outer with rest := cs, isInText := true }
    let t ← r
    let inner ← get
    set { inner with
      rest := outer.rest, line := outer.line, current := outer.current, previous := outer.previous,
      isInText := outer.isInText }
    return (t, inner.rest)

/-- Reads all of a text with places in it. -/
def allParts : (fuel : Nat) → (inPattern : Bool) → List Char → Reader Term
  | 0, _, _ => fail "too deep"
  | fuel + 1, inPattern, cs => do
    let (found, rest) ← parts fuel inPattern [] [] cs
    if rest.isEmpty then return joinedTerm found
    else
      let more ← allParts fuel inPattern rest
      return .joined [joinedTerm found, more]

/-- Reads terms of their own in another text. -/
def codeIn : (fuel : Nat) → List Char → Reader (List Statement)
  | 0, _ => fail "too deep"
  | fuel + 1, cs => do
    let outer ← get
    set { outer with rest := cs }
    let body ← statements fuel
    let inner ← get
    if !inner.rest.isEmpty then refuse
    set { inner with rest := outer.rest, line := outer.line, current := outer.current, previous := outer.previous }
    return body

/-- Reads a text behind the word that tells what it is. -/
def quotedTerm : (fuel : Nat) → (word : String) → Reader Term
  | 0, _ => fail "too deep"
  | fuel + 1, word => do
    match (← get).rest with
    | '#' :: _ => pure ()
    | _ => space
    let (opening, inner) ← body
    let pattern : Reader Term :=
      if opening = '\'' then pure (.constant (.text (String.ofList inner))) else allParts fuel true inner
    match word with
    | "q" => return .constant (.text (String.ofList (literal (closing opening) inner)))
    | "qq" => allParts fuel false inner
    | "qx" => return .output (← allParts fuel false inner)
    | "qw" =>
      let words := (inner.splitOnP Arithmetic.isSpace).filter (!·.isEmpty)
      let t := Term.several (words.map fun w => .constant (.text (String.ofList w)))
      match (← get).rest with
      | '[' :: _ =>
        drop 1
        return .pick t (← index fuel)
      | _ => return t
    | "m" =>
      let p ← pattern
      return .find none false p (← flags)
    | "qr" =>
      let p ← pattern
      return .expression p (← flags)
    | _ =>
      let second ←
        if closing opening = opening then
          match bodyOf opening opening 0 [] (← get).rest with
          | some (second, behind) =>
            drop ((← get).rest.length - behind.length)
            pure second
          | none =>
            fail (if word = "s" then "Substitution replacement not terminated"
              else "Transliteration replacement not terminated")
        else
          space
          pure (← body).2
      if word = "s" then
        let p ← pattern
        let fs ← flags
        let replacement ←
          if fs.contains 'e' then
            pure (Term.block false (← codeIn fuel second))
          else if opening = '\'' then pure (.constant (.text (String.ofList second)))
          else allParts fuel false second
        return .replace none p replacement fs
      else
        let fs ← flags
        return .transliterate none (characters (inner.length + 1) inner) (characters (second.length + 1) second) fs

/-- Reads a term without operators. -/
def primary : (fuel : Nat) → Reader Term
  | 0 => fail "too deep"
  | fuel + 1 => do
    let cs ← ahead
    match cs with
    | [] => refuse
    | c :: rest =>
      if c = '$' then
        match rest with
        | '#' :: d :: _ =>
          if d = '\x7b' || d = '$' || isWordPart d then
            drop 2
            return .lastIndex ((← root fuel).term .list)
          else
            drop 1
            scalarPlace fuel false false
        | _ =>
          drop 1
          scalarPlace fuel false false
      else if c = '@' then
        drop 1
        listPlace fuel
      else if c = '%' then
        drop 1
        return (← root fuel).term .table
      else if c = '*' && rest.head?.any (fun c => c.isAlpha || c = '_' || c = '\x7b') then
        drop 1
        match ← root fuel with
        | .name s => return .constant (.handle s)
        | .pointed t => return t
      else if c = '&' then
        drop 1
        let procedure := (← root fuel).term .procedure
        if (← get).rest.head? = some '(' then
          subscripts fuel false false true (.invoke procedure (some (← arguments fuel)))
        else return .invoke procedure none
      else if c = '"' then
        let (_, inner) ← body
        allParts fuel false inner
      else if c = '\'' then
        let (_, inner) ← body
        return .constant (.text (String.ofList (literal '\'' inner)))
      else if c.toNat = 96 then
        let (_, inner) ← body
        return .output (← allParts fuel false inner)
      else if isDigit c || (c = '.' && rest.head?.any isDigit) then return .constant (← number)
      else if c = '(' then
        drop 1
        let t ←
          if ← takes ")" then pure (.several [])
          else
            let t ← expression fuel
            expect ")"
            pure (match t with
              | .several ts => Term.several ts
              | t => .several [t])
        if (← get).rest.head? = some '[' then
          drop 1
          return .pick t (← index fuel)
        else subscripts fuel false false false t
      else if c = '[' then
        drop 1
        let t ← if ← takes "]" then pure (.several []) else index fuel
        subscripts fuel false false false (.newList t)
      else if c = '\x7b' then
        drop 1
        if ← takes "\x7d" then return .newTable (.several [])
        let t ← expression fuel
        expect "\x7d"
        subscripts fuel false false false (.newTable t)
      else if c = '/' then
        let (_, inner) ← body
        let p ← allParts fuel true inner
        return .find none false p (← flags)
      else if c = '<' then opened fuel rest
      else if c.isAlpha || c = '_' then
        let w := String.ofList (wordOf (cs.length + 1) cs)
        wordTerm fuel w
      else
        begin_
        refuse
where
  /-- Reads what an angle opens: a document, lines of a file, or paths. -/
  opened : (fuel : Nat) → (rest : List Char) → Reader Term
    | 0, _ => fail "too deep"
    | fuel + 1, rest => do
      match rest with
      | '<' :: more =>
        let isIndented := more.head? = some '~'
        let more := if isIndented then more.drop 1 else more
        match more with
        | '>' :: '>' :: _ =>
          drop 4
          return .readLine none
        | q :: inner =>
          if q = '"' || q = '\'' then
            let tag := inner.takeWhile (· ≠ q)
            drop (4 + tag.length + if isIndented then 1 else 0)
            let text ← document tag isIndented
            if q = '"' then allParts fuel false text else return .constant (.text (String.ofList text))
          else
            let tag := more.takeWhile isWordPart
            if tag.isEmpty then refuse
            else
              drop (2 + tag.length + if isIndented then 1 else 0)
              let text ← document tag isIndented
              allParts fuel false text
        | [] => refuse
      | _ =>
        let inner := rest.takeWhile fun c => c ≠ '>' && c ≠ '\n'
        if (rest.drop inner.length).head? ≠ some '>' then refuse
        else
          drop (inner.length + 2)
          match inner with
          | [] => return .readLine none
          | '$' :: name =>
            if name.all isWordPart then return .readLine (some (.named .scalar (String.ofList name)))
            else return .paths (← allParts fuel false inner)
          | _ =>
            if inner.all isWordPart then return .readLine (some (.constant (.handle (String.ofList inner))))
            else return .paths (← allParts fuel false inner)

/-- Reads a term that begins with a word. -/
def wordTerm : (fuel : Nat) → (word : String) → Reader Term
  | 0, _ => fail "too deep"
  | fuel + 1, w => do
    let after := (← ahead).drop w.length
    let blanks := after.takeWhile Arithmetic.isSpace
    let behind := after.drop blanks.length
    let next := behind.head?
    if "=>".toList.isPrefixOf behind then
      drop w.length
      return .constant (.text w)
    else if ["q", "qq", "qw", "qr", "qx", "m", "s", "tr", "y"].contains w &&
        next.any (fun c => !isWordPart c && c ≠ ';' && c ≠ ')' && c ≠ ',' && (c ≠ '#' || blanks.isEmpty) &&
          !(c = '=' && !blanks.isEmpty)) then
      drop w.length
      quotedTerm fuel (if w = "y" then "tr" else w)
    else
      match w with
      | "my" | "our" | "local" | "state" =>
        drop w.length
        let scope := if w = "our" then Scope.shared else if w = "local" then .saved else .own
        if (← peek) = some '(' then
          let places ← arguments fuel
          return .declared scope places true
        else return .declared scope [← primary fuel] false
      | "sub" =>
        drop w.length
        return .newProcedure (← block fuel)
      | "do" =>
        drop w.length
        if (← peek) = some '\x7b' then return .block false (← block fuel)
        else return .call "do" [← unary fuel]
      | "eval" =>
        drop w.length
        if (← peek) = some '\x7b' then return .block true (← block fuel)
        else if next.any fun c => c = ';' || c = '\x7d' || c = ')' then return .call "eval" []
        else return .call "eval" [← unary fuel]
      | "__FILE__" =>
        drop w.length
        return .constant (.text (← get).file)
      | "__LINE__" =>
        drop w.length
        return .constant (ofNat (← get).line)
      | "__PACKAGE__" =>
        drop w.length
        return .constant (.text "main")
      | "return" =>
        drop w.length
        if ← endsTerm then return .return_ none
        else
          let terms ← list fuel
          return .return_ (some (match terms with
            | [t] => t
            | ts => .several ts))
      | "next" | "last" | "redo" =>
        drop w.length
        let j := if w = "next" then Jump.next else if w = "last" then .last else .redo
        match ← word? with
        | some label =>
          if isListEnd label then return .jump j ""
          else
            drop label.length
            return .jump j label
        | none => return .jump j ""
      | "print" | "say" | "printf" =>
        drop w.length
        let way := if w = "print" then Writing.plain else if w = "say" then .line else .formatted
        if (← get).rest.head? = some '(' ∨ (← peek) = some '(' then
          drop 1
          let (handle, values) ← written fuel
          expect ")"
          subscripts fuel false false false (.write way handle values)
        else
          let (handle, values) ← written fuel
          return .write way handle values
      | _ =>
        match sweep? w with
        | some s =>
          let isOwn := (← get).procedures.any fun p => p.1 = w
          let needsBlock := !(["map", "grep", "sort"].contains w)
          if isOwn || (needsBlock && next ≠ some '\x7b') then call fuel w
          else
            drop w.length
            if (← peek) = some '(' then
              drop 1
              let t ← sweepTerm fuel s
              expect ")"
              return t
            else sweepTerm fuel s
        | none => call fuel w
where
  /-- Whether there is no term here. -/
  endsTerm : Reader Bool := do
    match ← ahead with
    | [] => return true
    | c :: cs =>
      if [')', ']', '\x7d', ';', ':', ',', '='].contains c then return !(c = '=' && false) && c ≠ ':' || !(cs.head? = some ':')
      else return (← word?).any isListEnd
  /-- Reads a handle and what is written to it. -/
  written : (fuel : Nat) → Reader (Option Term × List Term)
    | 0 => fail "too deep"
    | fuel + 1 => do
      let cs ← ahead
      let handle? : Option Term ←
        match cs with
        | '\x7b' :: _ => do
          let body ← block fuel
          pure (some (match body with
            | [.evaluate _ t] => t
            | body => .block false body))
        | '$' :: rest =>
          let w := rest.takeWhile isWordPart
          let behind := rest.drop w.length
          let after := behind.dropWhile fun c => c = ' '
          let begins :=
            match after with
            | c :: _ => c = '"' || c = '$' || c = '\'' || c = '@' || (c.isAlpha && (operatorOf after).isNone)
            | [] => false
          if !w.isEmpty && after.length < behind.length && begins then do
            drop (1 + w.length)
            pure (some (.named .scalar (String.ofList w)))
          else pure none
        | _ =>
          match ← word? with
          | some w =>
            let after := (cs.drop w.length).dropWhile Arithmetic.isSpace
            let goesOn :=
              match after with
              | '-' :: c :: _ => c = '>'
              | c :: _ => "(,.=>?|".toList.contains c
              | [] => false
            if isHandleName w && !goesOn && !((← get).procedures.any fun p => p.1 = w) then do
              drop w.length
              pure (some (.constant (.handle w)))
            else pure none
          | none => pure none
      if ← endsTerm then return (handle?, [])
      else return (handle?, ← list fuel)
  /-- Reads what is done with the values of a list, and the list. -/
  sweepTerm : (fuel : Nat) → (s : Sweep) → Reader Term
    | 0, _ => fail "too deep"
    | fuel + 1, s => do
      let several (ts : List Term) : Term :=
        match ts with
        | [t] => t
        | ts => .several ts
      let state ← get
      let cs ← ahead
      match cs with
      | '\x7b' :: _ =>
        let tried := (do
          let body ← block fuel
          let next ← peek
          return (body, next) : Reader (List Statement × Option Char)).run state
        match tried with
        | .ok ((body, next), after) =>
          if next = some ',' && s ≠ .sort then byTerm fuel s
          else
            set after
            if ← endsTerm then return .sweep s body (.several [])
            else return .sweep s body (several (← list fuel))
        | .error message => if s = .map then byTerm fuel s else throw message
      | '$' :: rest =>
        if s = .sort then
          let w := rest.takeWhile isWordPart
          let behind := rest.drop w.length
          let after := behind.dropWhile fun c => c = ' '
          if !w.isEmpty && after.length < behind.length && after.head?.any (fun c => c = '@' || c = '(' || c.isAlpha) &&
              (operatorOf after).isNone then
            drop (1 + w.length)
            let values ← list fuel
            return .sweep s [.evaluate ⟨0⟩ (.invoke (.named .scalar (String.ofList w)) (some []))] (several values)
          else return .sweep s [] (several (← list fuel))
        else byTerm fuel s
      | _ =>
        if s = .sort then
          match ← word? with
          | some w =>
            let behind := (cs.drop w.length)
            let after := behind.dropWhile Arithmetic.isSpace
            let isName := !(unaryFunctions.contains w || listFunctions.contains w || (sweep? w).isSome || w = "qw") &&
              after.head?.any (fun c => c = '@' || c.isAlpha || (c = '(' && after.length < behind.length))
            if isName then
              drop w.length
              let values ← list fuel
              return .sweep s [.evaluate ⟨0⟩ (.invoke (.named .procedure w) (some []))] (several values)
            else return .sweep s [] (several (← list fuel))
          | none => if ← endsTerm then return .sweep s [] (.several []) else return .sweep s [] (several (← list fuel))
        else byTerm fuel s
  /-- Reads what is done with values as a term in front of them. -/
  byTerm : (fuel : Nat) → (s : Sweep) → Reader Term
    | 0, _ => fail "too deep"
    | fuel + 1, s => do
      let line ← Reader.line
      match ← list fuel with
      | t :: values => return .sweep s [.evaluate line t] (.several values)
      | [] => refuse
  /-- Reads a call of a function. -/
  call : (fuel : Nat) → (w : String) → Reader Term
    | 0, _ => fail "too deep"
    | fuel + 1, w => do
      let isOwn := (← get).procedures.any fun p => p.1 = w
      drop w.length
      let hasParentheses := (← peek) = some '('
      if isOwn || w.toList.contains ':' then
        let short := String.ofList ((w.toList.reverse.takeWhile (· ≠ ':')).reverse)
        let isKnown := !isOwn && (unaryFunctions.contains short || listFunctions.contains short)
        let invoked (ts : List Term) : Term :=
          if isKnown then .call short ts else .invoke (.named .procedure w) (some ts)
        if hasParentheses then subscripts fuel false false false (invoked (← arguments fuel))
        else if isOwn && (← peek) = some '\x7b' && !beginsTable ((← ahead).drop 1) then
          let body ← block fuel
          let _ ← takes ","
          let given ← if ← endsTerm then pure [] else list fuel
          return invoked (.newProcedure body :: given)
        else if ← endsTerm then return invoked []
        else if (← operator?).isSome && !(["-", "<", "%", "&"].contains ((← operator?).getD "")) then return invoked []
        else return invoked (← list fuel)
      else if bareFunctions.contains w then
        if hasParentheses then
          let _ ← arguments fuel
        return .call w []
      else if unaryFunctions.contains w then
        if hasParentheses then
          let given ← arguments fuel
          let t := Term.call w given
          match (← get).rest with
          | '[' :: _ => return t
          | _ => subscripts fuel false false false t
        else if ← endsTerm then return .call w []
        else
          match ← operator? with
          | some o =>
            if o = "<" then return .call w [← binary fuel 16]
            else if o = "-" || o = "+" || o = "%" || o = "&" then
              if ["shift", "pop"].contains w && o ≠ "%" then return .call w [] else return .call w [← binary fuel 16]
            else return .call w []
          | none => return .call w [← binary fuel 16]
      else if listFunctions.contains w then
        if hasParentheses then
          let given ← arguments fuel
          match (← get).rest with
          | '[' :: _ => return .call w given
          | _ => subscripts fuel false false false (.call w given)
        else if ← endsTerm then return .call w []
        else return .call w (← list fuel)
      else if hasParentheses then
        subscripts fuel false false false (.invoke (.named .procedure w) (some (← arguments fuel)))
      else if isHandleName w then subscripts fuel false false false (.constant (.handle w))
      else if "->".toList.isPrefixOf (← ahead) then
        subscripts fuel false false false (.constant (.text w))
      else
        match ← ahead with
        | c :: _ =>
          if c = '"' || c = '$' || c = '\'' || c = '@' || (c.isAlpha && (operatorOf (← ahead)).isNone) then
            return .invoke (.named .procedure w) (some (← list fuel))
          else return .constant (.text w)
        | [] => return .constant (.text w)

/-- Reads statements in braces. -/
def block : (fuel : Nat) → Reader (List Statement)
  | 0 => fail "too deep"
  | fuel + 1 => do
    expect "\x7b"
    let body ← statements fuel
    expect "\x7d"
    return body

/-- Reads statements up to a brace or the end. -/
def statements : (fuel : Nat) → Reader (List Statement)
  | 0 => fail "too deep"
  | fuel + 1 => do
    statementSpace
    match (← get).rest with
    | [] => return []
    | '\x7d' :: _ => return []
    | ';' :: _ =>
      drop 1
      statements fuel
    | _ =>
      let found ← statement fuel
      let rest ← statements fuel
      return found ++ rest

/-- Reads a statement. -/
def statement : (fuel : Nat) → Reader (List Statement)
  | 0 => fail "too deep"
  | fuel + 1 => do
    let cs ← ahead
    let line ← line
    match cs with
    | '\x7b' :: _ => return [.block "" (← block fuel)]
    | _ =>
      match ← word? with
      | none => simple fuel line
      | some w =>
        let behind := (cs.drop w.length).dropWhile Arithmetic.isSpace
        if "=>".toList.isPrefixOf behind then simple fuel line
        else if behind.head? = some ':' && (behind.drop 1).head? ≠ some ':' && isHandleName w then
          drop w.length
          expect ":"
          statementSpace
          match ← word? with
          | some kind => labelled fuel line w kind
          | none => return [.block w (← block fuel)]
        else labelled fuel line "" w
where
  /-- Reads a statement behind its label, if it has one. -/
  labelled : (fuel : Nat) → (line : Line) → (label : String) → (w : String) → Reader (List Statement)
    | 0, _, _, _ => fail "too deep"
    | fuel + 1, line, label, w => do
      match w with
      | "if" | "unless" =>
        drop w.length
        return [← condition fuel line (w = "unless")]
      | "while" | "until" =>
        drop w.length
        expect "("
        let condition ← if (← peek) = some ')' then pure (.constant (.integer 1)) else expression fuel
        expect ")"
        let body ← block fuel
        let continuation ← if ← takesWord "continue" then block fuel else pure []
        return [.while_ line label (loopCondition condition) (w = "until") body continuation]
      | "for" | "foreach" =>
        drop w.length
        loop fuel line label
      | "sub" =>
        let after := ((← ahead).drop 3).dropWhile Arithmetic.isSpace
        if after.head?.any fun c => c.isAlpha || c = '_' then
          drop 3
          let name := (← word?).getD ""
          drop name.length
          modify fun s => { s with procedures := s.procedures ++ [(name, [])] }
          if (← peek) = some '(' then
            let inner := (← get).rest.takeWhile (· ≠ ')')
            drop (inner.length + 1)
          if ← takes ";" then return []
          let body ← block fuel
          modify fun s =>
            { s with procedures := (s.procedures.filter fun p => p.1 ≠ name) ++ [(name, body)] }
          return []
        else simple fuel line
      | "BEGIN" | "END" | "INIT" | "CHECK" | "UNITCHECK" =>
        let after := ((← ahead).drop w.length).dropWhile Arithmetic.isSpace
        if after.head? = some '\x7b' then
          drop w.length
          let body ← block fuel
          if w = "END" then modify fun s => { s with final := body :: s.final }
          else modify fun s => { s with first := s.first ++ [body] }
          return []
        else simple fuel line
      | "use" | "no" =>
        drop w.length
        used fuel line
      | "package" =>
        drop w.length
        let name := (← word?).getD ""
        drop name.length
        let _ ← takes ";"
        return []
      | "__END__" | "__DATA__" =>
        let after := (← ahead).drop w.length
        modify fun s => { s with rest := [], data := some ((after.dropWhile (· ≠ '\n')).drop 1) }
        return []
      | _ => if label.isEmpty then simple fuel line else return [.block label (← block fuel)]
  /-- Reads a condition and what depends on it. -/
  condition : (fuel : Nat) → (line : Line) → (isInverted : Bool) → Reader Statement
    | 0, _, _ => fail "too deep"
    | fuel + 1, line, isInverted => do
      expect "("
      let t ← expression fuel
      expect ")"
      let yes ← block fuel
      let no ← otherwise fuel
      return .choice line (if isInverted then .not t else t) yes no
  /-- Reads a term with a condition or a loop behind it. -/
  simple : (fuel : Nat) → (line : Line) → Reader (List Statement)
    | 0, _ => fail "too deep"
    | fuel + 1, line => do
      let t ← expression fuel
      let found ←
        match ← word? with
        | some "if" => do
          drop 2
          let c ← expression fuel
          pure [Statement.evaluate line (.joint .both c t)]
        | some "unless" => do
          drop 6
          let c ← expression fuel
          pure [Statement.evaluate line (.joint .either c t)]
        | some "while" | some "until" => do
          let isUntil := (← word?) = some "until"
          drop 5
          let c ← expression fuel
          match t with
          | .block false body => pure [Statement.doWhile line body c isUntil]
          | t => pure [Statement.while_ line "" (loopCondition c) isUntil [.evaluate line t] []]
        | some "for" | some "foreach" => do
          drop ((← word?).getD "").length
          let values ← expression fuel
          pure [Statement.each line "" false "_" values [.evaluate line t]]
        | _ => pure [Statement.evaluate line t]
      match ← ahead with
      | [] | '\x7d' :: _ => return found
      | ';' :: _ =>
        drop 1
        return found
      | _ =>
        begin_
        refuse
  /-- Reads a loop over values or with a step. -/
  loop : (fuel : Nat) → (line : Line) → (label : String) → Reader (List Statement)
    | 0, _, _ => fail "too deep"
    | fuel + 1, line, label => do
      let isOwn ← (do return (← takesWord "my") || (← takesWord "our") : Reader Bool)
      if (← peek) = some '$' then
        drop 1
        let name ←
          match ← root fuel with
          | .name s => pure s
          | .pointed _ => refuse
        expect "("
        let values ← if (← peek) = some ')' then pure (.several []) else expression fuel
        expect ")"
        return [.each line label isOwn name values (← block fuel)]
      else
        expect "("
        let first ← if (← peek) = some ';' then pure none else if (← peek) = some ')' then pure (some (.several [])) else pure (some (← expression fuel))
        if ← takes ";" then
          let condition ← if (← peek) = some ';' then pure none else pure (some (← expression fuel))
          expect ";"
          let next ← if (← peek) = some ')' then pure none else pure (some (← expression fuel))
          expect ")"
          return [.loop line label first (condition.map loopCondition) next (← block fuel)]
        else
          expect ")"
          return [.each line label false "_" (first.getD (.several [])) (← block fuel)]
  /-- Reads what a program says that it uses. -/
  used : (fuel : Nat) → (_line : Line) → Reader (List Statement)
    | 0, _ => fail "too deep"
    | fuel + 1, _line => do
      let name := (← word?).getD ""
      if name = "constant" then
        drop name.length
        let isSet := (← peek) = some '\x7b'
        let terms ← list fuel
        let define (n : Term) (v : Term) : Reader Unit :=
          match n with
          | .constant (.text s) => modify fun x => { x with procedures := x.procedures ++ [(s, [.evaluate ⟨0⟩ v])] }
          | _ => pure ()
        if isSet then
          for t in terms do
            if let .newTable (.several ts) := t then pairs define ts
        else
          let values := terms.drop 1
          define (terms.headD (.several [])) (if values.length = 1 then values.headD (.several []) else .several values)
      else
        let inner := (← get).rest.takeWhile (· ≠ ';')
        drop inner.length
      let _ ← takes ";"
      return []
  /-- Does something for each two terms. -/
  pairs (f : Term → Term → Reader Unit) : List Term → Reader Unit
    | n :: v :: rest => do
      f n v
      pairs f rest
    | _ => pure ()

/-- Reads what is done if a condition is not met. -/
def otherwise : (fuel : Nat) → Reader (List Statement)
  | 0 => fail "too deep"
  | fuel + 1 => do
    if ← takesWord "elsif" then
      let line ← line
      expect "("
      let t ← expression fuel
      expect ")"
      let yes ← block fuel
      return [.choice line t yes (← otherwise fuel)]
    else if ← takesWord "else" then block fuel
    else return []

end

end Reader

/-- Reads a program of a file's name, from the number of its first line on; the text behind it if there is
one. -/
def readProgram (file : String) (line : Nat) (cs : List Char) (known : List (String × List Statement)) :
    Except String (Program × Option (List Char)) := do
  let start : Source := ⟨cs, line, file, cs, cs, 0, [], [], known, none, false⟩
  let fuel := 60 * cs.length + 600
  let (body, s) ← (do
    let body ← Reader.statements fuel
    if !(← get).rest.isEmpty then
      let s ← get
      let near := String.ofList (s.current.take (s.current.length - s.rest.length + 1))
      throw ("Unmatched right curly bracket" ++ Reader.place s.file s.line ++ ", at end of line\nsyntax error" ++
        Reader.place s.file s.line ++ ", near \"" ++ near ++ "\"\nExecution of " ++ s.file ++
          " aborted due to compilation errors.\n")
    return body : Reader (List Statement)).run start
  return (⟨body, s.first, s.final, s.procedures⟩, s.data)

end AddonAtlas.Shell.Extraction
