import AddonAtlas.Shell.Utility.Dates
import AddonAtlas.Shell.Utility.Extraction.Searching

/-!
# Functions of extraction programs

The functions that need no more than the values of their arguments: single ones, or those of a list.
-/

namespace AddonAtlas.Shell

namespace Utility

open Shell.Action

namespace Extraction

open AddonAtlas.Shell.Extraction

/-- A text as a value. -/
def ofChars (cs : List Char) : Value :=
  .text (String.ofList cs)

/-- The first character changed. -/
def firstChanged (f : Char → Char) (s : String) : Value :=
  match s.toList with
  | c :: rest => ofChars (f c :: rest)
  | [] => .text ""

/-- The number that a text writes in base 16, 8 or 2. -/
def ofDigits (base : Nat) (cs : List Char) : Value :=
  let isFit (c : Char) : Bool :=
    (Arithmetic.digitsOf 16 [c]).2.isEmpty && (Arithmetic.digitsOf 16 [c]).1 < base
  ofNat (Arithmetic.digitsOf base ((cs.filter (· ≠ '_')).takeWhile isFit)).1

/-- The number of a text, in base 8 unless it says something else. -/
def octalNumber (s : String) : Value :=
  let cs := (s.toList.dropWhile Arithmetic.isSpace).map Char.toLower
  match cs with
  | '0' :: 'x' :: rest | 'x' :: rest => ofDigits 16 rest
  | '0' :: 'b' :: rest | 'b' :: rest => ofDigits 2 rest
  | '0' :: 'o' :: rest | 'o' :: rest => ofDigits 8 rest
  | cs => ofDigits 8 cs

/-- A number towards zero. -/
def truncated (v : Value) : Value :=
  match v.number with
  | .real x =>
    match AddonAtlas.Shell.Records.binary x with
    | .finite _ _ _ => ofReal (if x < 0.0 then x.ceil else x.floor)
    | _ => .real x
  | v => v

/-- The first place of a text in another one, from a place on. -/
def indexOf (text part : List Char) (start : Nat) : Option Nat :=
  (List.range (text.length + 1 - start)).findSome? fun d =>
    if part.isPrefixOf (text.drop (start + d)) then some (start + d) else none

/-- The last place of a text in another one, up to a place. -/
def lastIndexOf (text part : List Char) (last : Nat) : Option Nat :=
  (List.range (min last text.length + 1)).reverse.find? fun i => part.isPrefixOf (text.drop i)

/-- Where a part of a text begins and how long it is; nothing if it lies beyond the text. -/
def partOf (size : Nat) (offset : Int) (length : Option Int) : Option (Nat × Nat) :=
  let start : Int := if offset < 0 then size + offset else offset
  if start > size || (start < 0 && length.isNone && offset < -(size : Int) && size = 0) then none
  else
    let finish : Int :=
      match length with
      | none => size
      | some n => if n < 0 then size + n else start + n
    let start := max 0 start
    let finish := max start (min size finish)
    some (start.toNat, (finish - start).toNat)

/-- The parts of a moment: seconds, minutes, hours, the day, the month from zero, the year from 1900, the days of
the week and of the year. -/
def momentParts (m : Moment) : List Value :=
  [ofNat m.second, ofNat m.minute, ofNat m.hour, ofNat m.day, ofInt ((m.month : Int) - 1), ofInt (m.year - 1900),
    ofNat m.weekday, ofNat m.yearDay, .integer 0]

/-- The functions of single values. Those of one value take the value without a name if they are given none. -/
def scalarFunctions : List String :=
  ["lc", "uc", "fc", "lcfirst", "ucfirst", "length", "chr", "ord", "int", "abs", "sqrt", "sin", "cos", "exp", "log",
    "hex", "oct", "quotemeta", "ref", "floor", "ceil", "rmdir", "chdir", "readlink", "umask", "rand", "srand",
    "index", "rindex", "atan2", "mkdir", "rename", "link", "symlink", "exit", "require", "fileno"]

/-- The functions of single values that take the value without a name. -/
def topicFunctions : List String :=
  ["lc", "uc", "fc", "lcfirst", "ucfirst", "length", "chr", "ord", "int", "abs", "sqrt", "sin", "cos", "exp", "log", "hex",
    "oct", "quotemeta", "ref", "rmdir", "readlink", "require"]

/-- What a function of single values answers. -/
def scalarFunction (t : Task) (name : String) (vs : List Value) : Running Value := do
  let v := vs.headD .nothing
  let s := v.toText
  let real (f : Float → Float) : Value := ofReal (f v.toReal)
  let files (r : Option Errno) : Running Value := do
    match r with
    | none => return .integer 1
    | some e =>
      setFault e
      return .integer 0
  match name with
  | "lc" | "fc" => return ofChars (s.toList.map Char.toLower)
  | "uc" => return ofChars (s.toList.map Char.toUpper)
  | "lcfirst" => return firstChanged Char.toLower s
  | "ucfirst" => return firstChanged Char.toUpper s
  | "length" => return if v.isGiven then ofNat s.length else .nothing
  | "chr" => return ofChars [Char.ofNat (v.toInt.toNat)]
  | "ord" => return ofNat ((s.toList.head?.map Char.toNat).getD 0)
  | "int" => return truncated v
  | "abs" =>
    match v.number with
    | .integer n => return ofNat n.natAbs
    | x => return ofReal x.toReal.abs
  | "sqrt" => if v.toReal < 0.0 then fail t ("Can't take sqrt of " ++ v.number.toText) else return real Float.sqrt
  | "sin" => return real Float.sin
  | "cos" => return real Float.cos
  | "exp" => return real Float.exp
  | "log" => if v.toReal <= 0.0 then fail t ("Can't take log of " ++ v.number.toText) else return real Float.log
  | "floor" => return real Float.floor
  | "ceil" => return real Float.ceil
  | "atan2" => return ofReal (Float.atan2 v.toReal (vs.getD 1 .nothing).toReal)
  | "hex" =>
    let cs := s.toList.map Char.toLower
    return ofDigits 16 (match cs with
      | '0' :: 'x' :: rest | 'x' :: rest => rest
      | cs => cs)
  | "oct" => return octalNumber s
  | "quotemeta" =>
    return ofChars (s.toList.flatMap fun c =>
      if (c.isAlphanum || c = '_') && c.toNat < 128 then [c] else ['\\', c])
  | "ref" =>
    if let some c := (← get).classes.lookup s then return .text c
    return .text (match v with
      | .place _ => "SCALAR"
      | .list _ => "ARRAY"
      | .table _ => "HASH"
      | .procedure _ => "CODE"
      | .handle _ => "GLOB"
      | _ => "")
  | "rand" => return .real (0.5 * if v.toReal == 0.0 then 1.0 else v.toReal)
  | "srand" => return .integer 42
  | "umask" => return ofNat (← doing MonadState.get).mask
  | "require" | "fileno" => return .integer 1
  | "index" =>
    let part := (vs.getD 1 .nothing).toText.toList
    let start := ((vs[2]?).map fun v => v.toInt.toNat).getD 0
    return ((indexOf s.toList part (min start s.length)).map ofNat).getD (.integer (-1))
  | "rindex" =>
    let part := (vs.getD 1 .nothing).toText.toList
    let last := ((vs[2]?).map fun v => v.toInt.toNat).getD s.length
    return ((lastIndexOf s.toList part last).map ofNat).getD (.integer (-1))
  | "exit" => throw (.exit ((v.toInt % 256 + 256) % 256).toNat)
  | "mkdir" =>
    let m ← doing MonadState.get
    match placeOf m s with
    | .error e => files (some e)
    | .ok place =>
      if (m.tree.find? place).isSome then files (some .exists_)
      else
        doing (MonadState.set { m with tree := m.tree.put place .directory })
        files none
  | "rmdir" =>
    let m ← doing MonadState.get
    match entryOf m s with
    | .error e => files (some e)
    | .ok (place, .directory) =>
      if (below m.tree place).isEmpty then
        doing (MonadState.set { m with tree := m.tree.remove place })
        files none
      else files (some .notEmpty)
    | .ok _ => files (some .notDirectory)
  | "chdir" =>
    let m ← doing MonadState.get
    match resolve m s with
    | .ok (place, .directory) =>
      doing (MonadState.set { m with here := place })
      files none
    | .ok _ => files (some .notDirectory)
    | .error e => files (some e)
  | "rename" =>
    let m ← doing MonadState.get
    match entryOf m s, placeOf m (vs.getD 1 .nothing).toText with
    | .error e, _ | _, .error e => files (some e)
    | .ok (place, e), .ok target =>
      doing (MonadState.set { m with tree := (m.tree.remove place).put target e })
      files none
  | "symlink" | "link" =>
    let m ← doing MonadState.get
    match if name = "link" then (entryOf m s).map (·.2) else .ok (Entry.link (decode s)),
        placeOf m (vs.getD 1 .nothing).toText with
    | .error e, _ | _, .error e => files (some e)
    | .ok e, .ok target =>
      if (m.tree.find? target).isSome then files (some .exists_)
      else
        doing (MonadState.set { m with tree := m.tree.put target e })
        files none
  | "readlink" =>
    let m ← doing MonadState.get
    match entryOf m s with
    | .ok (_, .link target) => return .text (encode target)
    | .ok _ =>
      setFault .invalid
      return .nothing
    | .error e =>
      setFault e
      return .nothing
  | _ => return .nothing

/-- The functions of lists of values. -/
def listedFunctions : List String :=
  ["join", "sprintf", "unlink", "system", "exec", "sum", "sum0", "max", "min", "maxstr", "minstr", "chmod", "utime",
    "strftime"]

/-- The text of a message, which ends with where it was said unless it ends its line itself. -/
def messageOf (t : Task) (usual : String) (vs : List Value) : Running String := do
  let s := String.join (vs.map Value.toText)
  let s := if s.isEmpty then usual else s
  if s.endsWith "\n" then return s else return s ++ (← here t)

/-- What a function of a list answers. -/
def listedFunction (t : Task) (name : String) (vs : List Value) : Running Value := do
  let number (f : Value → Value → Value) (start : Value) (vs : List Value) : Value := vs.foldl f start
  let choose (isBetter : Value → Value → Bool) : Value :=
    match vs with
    | [] => .nothing
    | v :: rest => rest.foldl (fun best v => if isBetter v best then v else best) v
  match name with
  | "join" =>
    match vs with
    | s :: rest => return .text (s.toText.intercalate (rest.map Value.toText))
    | [] => return .text ""
  | "sprintf" =>
    match vs with
    | f :: rest => return ofChars (formatted (f.toText.length + 1) f.toText.toList rest)
    | [] => return .text ""
  | "unlink" =>
    let mut count := 0
    for v in vs do
      let m ← doing MonadState.get
      match entryOf m v.toText with
      | .ok (_, .directory) => setFault .isDirectory
      | .ok (place, _) =>
        doing (MonadState.set { m with tree := m.tree.remove place })
        count := count + 1
      | .error e => setFault e
    return ofNat count
  | "system" =>
    let words :=
      match vs with
      | [v] => wordsOf v.toText
      | vs => vs.map Value.toText
    let status ← start t words
    let status := if status = -1 then status else status
    setGlobal "?" (ofInt status)
    return ofInt status
  | "exec" =>
    let words :=
      match vs with
      | [v] => wordsOf v.toText
      | vs => vs.map Value.toText
    flush
    let start := (← doing MonadState.get).time
    let limited :=
      match (← get).alarm with
      | some time => ["timeout", "-s", "ALRM", toString ((time - start + 999) / 1000)] ++ words
      | none => words
    match ← doing (t.command limited) with
    | .ok status =>
      if limited.length ≠ words.length && status = 124 then doing (throw (.killed 14)) else throw (.exit (1000 + status))
    | .error e =>
      setFault e
      return .integer 0
  | "sum" => return if vs.isEmpty then .nothing else number (combine (· + ·) (· + ·)) (.integer 0) vs
  | "sum0" => return number (combine (· + ·) (· + ·)) (.integer 0) vs
  | "max" => return choose fun v best => compareNumbers v best = some .gt
  | "min" => return choose fun v best => compareNumbers v best = some .lt
  | "maxstr" => return choose fun v best => compareTexts v best = .gt
  | "minstr" => return choose fun v best => compareTexts v best = .lt
  | "chmod" | "utime" => return ofNat (vs.length - 1)
  | "strftime" =>
    let n (i : Nat) : Int := (vs.getD i .nothing).toInt
    let days := Moment.dayNumber (n 6 + 1900) ((n 5).toNat + 1) 1 + n 4 - 1
    let at_ := Moment.ofSeconds (days * 86400 + n 3 * 3600 + n 2 * 60 + n 1)
    return ofChars (at_.formatted (vs.headD .nothing).toText.toList)
  | _ => return .nothing

/-- What is asked about a file by a letter. -/
def fileAnswer (m : Machine) (letter : Char) (name : String) : Value :=
  match (if letter = 'l' then entryOf m name else resolve m name), m.find? name with
  | .error _, some .device => if letter = 'e' || letter = 'r' || letter = 'w' then .integer 1 else .text ""
  | .error _, _ => .nothing
  | .ok (place, e), _ =>
    match letter with
    | 'e' | 'r' | 'w' | 'o' | 'O' | 'R' | 'W' => .integer 1
    | 'f' => ofBool (e matches .file _ _)
    | 'd' => ofBool (e matches .directory)
    | 'l' => ofBool (e matches .link _)
    | 'x' | 'X' =>
      match e with
      | .file _ isExecutable => ofBool isExecutable
      | _ => .integer 1
    | 's' =>
      match e with
      | .file b _ => if b.isEmpty then .text "" else ofNat b.size
      | _ => .integer 4096
    | 'z' =>
      match e with
      | .file b _ => ofBool b.isEmpty
      | _ => .text ""
    | 'M' | 'A' | 'C' => .real 0.0001
    | 'T' => ofBool (e matches .file _ _)
    | _ => if m.tree.find? place matches none then .nothing else .text ""

/-- What two values make by an operator. -/
def operated (t : Task) (o : Operator) (a b : Value) : Running Value := do
  let bits (f : Nat → Nat → Nat) : Value :=
    let natural (v : Value) : Nat := (if v.toInt < 0 then v.toInt + 2 ^ 64 else v.toInt).toNat
    ofNat (f (natural a) (natural b))
  let relation (f : Ordering → Bool) : Value := ofBool ((compareNumbers a b).any f)
  let textRelation (f : Ordering → Bool) : Value := ofBool (f (compareTexts a b))
  let orderValue (o : Ordering) : Value := .integer (match o with
    | .lt => -1
    | .eq => 0
    | .gt => 1)
  match o with
  | .add => return combine (· + ·) (· + ·) a b
  | .subtract => return combine (· - ·) (· - ·) a b
  | .multiply => return combine (· * ·) (· * ·) a b
  | .divide => if b.toReal == 0.0 then fail t "Illegal division by zero" else return divide a b
  | .remainder =>
    let n := b.toInt
    if n = 0 then fail t "Illegal modulus zero" else return ofInt (Int.fmod a.toInt n)
  | .power => return power a b
  | .join => return .text (a.toText ++ b.toText)
  | .repeated => return .text (String.join (List.replicate b.toInt.toNat a.toText))
  | .shiftUp => return bits fun x n => (x <<< n) % 2 ^ 64
  | .shiftDown => return bits fun x n => x >>> n
  | .bitAnd =>
    match a, b with
    | .text s, .text u => return ofChars ((s.toList.zip u.toList).map fun (c, d) => Char.ofNat (c.toNat &&& d.toNat))
    | _, _ => return bits (· &&& ·)
  | .bitOr => return bits (· ||| ·)
  | .bitXor => return bits (· ^^^ ·)
  | .less => return relation (· = .lt)
  | .greater => return relation (· = .gt)
  | .lessOrEqual => return relation (· ≠ .gt)
  | .greaterOrEqual => return relation (· ≠ .lt)
  | .equal => return relation (· = .eq)
  | .unequal => return ofBool (compareNumbers a b ≠ some .eq)
  | .order => return ((compareNumbers a b).map orderValue).getD .nothing
  | .textLess => return textRelation (· = .lt)
  | .textGreater => return textRelation (· = .gt)
  | .textLessOrEqual => return textRelation (· ≠ .gt)
  | .textGreaterOrEqual => return textRelation (· ≠ .lt)
  | .textEqual => return textRelation (· = .eq)
  | .textUnequal => return textRelation (· ≠ .eq)
  | .textOrder => return orderValue (compareTexts a b)
  | .exclusive => return ofBool (a.isTrue != b.isTrue)

/-- The values from one to another one: whole numbers, or texts that come after each other. -/
def between (a b : Value) : List Value :=
  let isText (v : Value) : Bool :=
    match v with
    | .text s => !v.isNumeric && !s.isEmpty
    | _ => false
  if isText a || (isText b && !(a.isNumeric)) then
    let last := b.toText
    let rec go : (fuel : Nat) → String → List Value
      | 0, _ => []
      | fuel + 1, s =>
        if last.length < s.length then []
        else .text s :: (if s = last then [] else ((successor s).map (go fuel)).getD [])
    go 1000000 a.toText
  else
    let x := a.toInt
    (List.range (b.toInt + 1 - x).toNat).map fun (i : Nat) => ofInt (x + (i : Int))

/-- Puts values in order by a way to compare two of them. -/
def sorted (isBehind : Value → Value → Running Bool) : (fuel : Nat) → List Value → Running (List Value)
  | 0, vs => return vs
  | fuel + 1, vs =>
    match vs with
    | [] | [_] => return vs
    | _ => do
      let half := vs.length / 2
      let first ← sorted isBehind fuel (vs.take half)
      let second ← sorted isBehind fuel (vs.drop half)
      merge (vs.length + 1) [] first second
where
  /-- Merges two lists in order, what was merged being last first. -/
  merge : (fuel : Nat) → List Value → List Value → List Value → Running (List Value)
    | 0, done, a, b => return done.reverse ++ a ++ b
    | fuel + 1, done, a, b => do
      match a, b with
      | [], rest | rest, [] => return done.reverse ++ rest
      | x :: xs, y :: ys =>
        if ← isBehind x y then merge fuel (y :: done) (x :: xs) ys else merge fuel (x :: done) xs (y :: ys)

end Extraction

end Utility

end AddonAtlas.Shell
