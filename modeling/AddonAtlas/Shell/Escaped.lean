import AddonAtlas.Shell.Arithmetic

/-!
# Escapes of the wide dialect

What a backslash and the signs behind it stand for in texts of the wide dialect. Texts in quotes, texts that are
written with escapes, and formats differ in a few of them.
-/

namespace AddonAtlas.Shell.Escaped

/-- Where an escape stands. -/
structure Style where
  /-- Octal digits need no zero in front. -/
  hasDigits : Bool
  /-- Three octal digits may follow a zero. -/
  hasZero : Bool
  /-- Quotes and question marks may be escaped. -/
  hasQuotes : Bool
  /-- Control characters are written by letters. -/
  hasControl : Bool

/-- The style of texts in quotes. -/
def inQuotes : Style := ⟨true, false, true, true⟩

/-- The style of texts that are written. -/
def written : Style := ⟨false, true, false, false⟩

/-- The style of formats. -/
def inFormats : Style := ⟨true, false, true, false⟩

/-- The style of texts that formats take. -/
def taken : Style := ⟨true, true, false, false⟩

/-- The letters that stand for control characters. -/
def letters : List (Char × Nat) :=
  [('a', 7), ('b', 8), ('e', 27), ('E', 27), ('f', 12), ('n', 10), ('r', 13), ('t', 9), ('v', 11), ('\\', 92)]

/-- The text for the code of a character. Codes of other characters than letters, digits and signs are shown. -/
def ofCode (letter : Char) (n : Nat) : List Char :=
  if n < 128 then [Char.ofNat n]
  else
    let ds := (Nat.toDigits 16 n).map Char.toUpper
    let width := if n < 65536 then 4 else 8
    '\\' :: (if width = 4 then 'u' else letter.toUpper) :: List.replicate (width - ds.length) '0' ++ ds

/-- The text for what is behind a backslash, and what follows it. -/
def one (st : Style) (cs : List Char) : List Char × List Char :=
  let digits (base most : Nat) (cs : List Char) : List Char :=
    (cs.take most).takeWhile fun c => Arithmetic.digitValue c < base
  match cs with
  | [] => (['\\'], [])
  | c :: rest =>
    match letters.find? fun l => l.1 = c with
    | some (_, n) => ([Char.ofNat n], rest)
    | none =>
      if c = 'x' then
        let ds := digits 16 2 rest
        if ds.isEmpty then (['\\', 'x'], rest)
        else ([Char.ofNat (Arithmetic.digitsOf 16 ds).1], rest.drop ds.length)
      else if c = 'u' || c = 'U' then
        let ds := digits 16 (if c = 'u' then 4 else 8) rest
        if ds.isEmpty then (['\\', c], rest) else (ofCode c (Arithmetic.digitsOf 16 ds).1, rest.drop ds.length)
      else if c = '0' && st.hasZero then
        let ds := digits 8 3 rest
        ([Char.ofNat ((Arithmetic.digitsOf 8 ds).1 % 256)], rest.drop ds.length)
      else if isDigit c && Arithmetic.digitValue c < 8 && st.hasDigits then
        let ds := digits 8 3 cs
        ([Char.ofNat ((Arithmetic.digitsOf 8 ds).1 % 256)], cs.drop ds.length)
      else if st.hasQuotes && (c = '"' || c = '\'' || c = '?') then ([c], rest)
      else if st.hasControl && c = 'c' then
        match rest with
        | d :: rest => ([Char.ofNat (d.toUpper.toNat ^^^ 64 &&& 127)], rest)
        | [] => (['\\', 'c'], [])
      else (['\\', c], rest)

/-- A text with its escapes replaced, and whether one of them asks for nothing more to be written. -/
def decode (st : Style) : (fuel : Nat) → List Char → List Char × Bool
  | 0, _ => ([], false)
  | _ + 1, [] => ([], false)
  | fuel + 1, '\\' :: cs =>
    if cs.head? = some 'c' && !st.hasControl then ([], true)
    else
      let (text, rest) := one st cs
      let (more, stops) := decode st fuel rest
      (text ++ more, stops)
  | fuel + 1, c :: cs =>
    let (more, stops) := decode st fuel cs
    (c :: more, stops)

/-- The text between quotes that keep escapes; it ends in front of a NUL. -/
def quoted (cs : List Char) : List Char :=
  (decode inQuotes (cs.length + 1) cs).1.takeWhile (· != '\x00')

/-- The text that is written, and whether nothing may follow it. -/
def echoed (s : String) : List Char × Bool :=
  decode written (s.length + 1) s.toList

/-- The text that a format takes, and whether nothing may follow it. -/
def taking (s : String) : List Char × Bool :=
  decode taken (s.length + 1) s.toList

end AddonAtlas.Shell.Escaped
