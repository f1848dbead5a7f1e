/-!
# Names in messages

How programs show names and arguments in messages: between single quotes, with everything that cannot be
printed escaped; or so that a shell would read the name back, with quotes only if it needs them.
-/

namespace AddonAtlas.Shell.Quotation

/-- The letter that stands for a control character behind a backslash. -/
def escapeLetter? (c : Char) : Option Char :=
  ([('\x07', 'a'), ('\x08', 'b'), ('\x0c', 'f'), ('\n', 'n'), ('\r', 'r'), ('\t', 't'), ('\x0b', 'v')].find?
    fun e => e.1 = c).map (·.2)

def isPrintable (c : Char) : Bool :=
  ' ' ≤ c && c ≤ '~'

/-- The three octal digits of a byte. -/
def octal (c : Char) : List Char :=
  let n := c.toNat
  [n / 64 % 8, n / 8 % 8, n % 8].map fun d => Char.ofNat (48 + d)

/-- What stands behind a backslash for a character that cannot be printed. -/
def escape? (c : Char) : Option (List Char) :=
  match escapeLetter? c with
  | some l => some [l]
  | none => if isPrintable c then none else some (octal c)

/-- A text between single quotes, with backslashes in front of what could not stand there. -/
def quoted (s : String) : String :=
  String.ofList ('\'' :: s.toList.flatMap shown ++ ['\''])
where
  /-- A character between the quotes. -/
  shown (c : Char) : List Char :=
    match escape? c with
    | some e => '\\' :: e
    | none => if c = '\'' || c = '\\' then ['\\', c] else [c]

/-- Characters that mean something to a shell wherever they stand. -/
def meaningful : List Char :=
  Char.ofNat 96 :: " !\"$&'()*;<=>?[^|".toList

/-- Whether a shell would read a text as something else than it is. -/
def needsQuotes (cs : List Char) : Bool :=
  cs.isEmpty || cs.any (fun c => meaningful.contains c || !isPrintable c) ||
    (match cs with
    | ['\x7b'] | ['\x7d'] => true
    | '#' :: _ | '~' :: _ => true
    | _ => false)

/-- Whether a text means the same between double quotes. -/
def isPlain (cs : List Char) : Bool :=
  cs.zipIdx.all fun (c, i) =>
    if c = '#' || c = '~' then i = 0
    else if c = '\x7b' || c = '\x7d' then cs.length = 1
    else isPrintable c && (c = ' ' || c = '\'' || !(meaningful.contains c || c = '\\'))

/-- The text behind an opening quote, with the closing one; `isEscaped` tells whether escapes are read there. -/
def shellBody : (isEscaped : Bool) → List Char → List Char
  | _, [] => ['\'']
  | isEscaped, c :: rest =>
    match escape? c with
    | some e => (if isEscaped then [] else ['\'', '$', '\'']) ++ '\\' :: e ++ shellBody true rest
    | none =>
      if c = '\'' then ['\'', '\\', '\'', '\''] ++ shellBody false rest
      else (if isEscaped then ['\'', '\''] else []) ++ c :: shellBody false rest

/-- A text in quotes, as a shell would read it. -/
def inShellQuotes (s : String) : String :=
  let cs := s.toList
  if cs.contains '\'' && isPlain cs then "\"" ++ s ++ "\"" else String.ofList ('\'' :: shellBody false cs)

/-- A text as a shell would read it, in quotes only if it needs them. -/
def forShell (s : String) : String :=
  if needsQuotes s.toList then inShellQuotes s else s

end AddonAtlas.Shell.Quotation
