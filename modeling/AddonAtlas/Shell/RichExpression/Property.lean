import AddonAtlas.Shell.Expression

/-!
# Properties of characters

Each of the first 256 characters has a category of two letters, the first of which is a category of its own.
Expressions name characters by categories, scripts and a few other properties. In names it does not matter
whether letters are capital ones, and blanks, hyphens and low lines do not count.
-/

namespace AddonAtlas.Shell.RichExpression

/-- The categories, each with the first and the last character of runs that have it. -/
def categories : List (String × List (Nat × Nat)) :=
  [("Cc", [(0, 31), (127, 159)]), ("Cf", [(173, 173)]), ("Cn", []), ("Co", []), ("Cs", []),
    ("Ll", [(97, 122), (181, 181), (223, 246), (248, 255)]), ("Lm", []), ("Lo", [(170, 170), (186, 186)]),
    ("Lt", []), ("Lu", [(65, 90), (192, 214), (216, 222)]), ("Mc", []), ("Me", []), ("Mn", []),
    ("Nd", [(48, 57)]), ("Nl", []), ("No", [(178, 179), (185, 185), (188, 190)]), ("Pc", [(95, 95)]),
    ("Pd", [(45, 45)]), ("Pe", [(41, 41), (93, 93), (125, 125)]), ("Pf", [(187, 187)]), ("Pi", [(171, 171)]),
    ("Po", [(33, 35), (37, 39), (42, 42), (44, 44), (46, 47), (58, 59), (63, 64), (92, 92), (161, 161),
      (167, 167), (182, 183), (191, 191)]),
    ("Ps", [(40, 40), (91, 91), (123, 123)]), ("Sc", [(36, 36), (162, 165)]),
    ("Sk", [(94, 94), (96, 96), (168, 168), (175, 175), (180, 180), (184, 184)]),
    ("Sm", [(43, 43), (60, 62), (124, 124), (126, 126), (172, 172), (177, 177), (215, 215), (247, 247)]),
    ("So", [(166, 166), (169, 169), (174, 174), (176, 176)]), ("Zl", []), ("Zp", []), ("Zs", [(32, 32), (160, 160)])]

/-- The characters of the Latin script. -/
def latin : List (Nat × Nat) :=
  [(65, 90), (97, 122), (170, 170), (186, 186), (192, 214), (216, 246), (248, 255)]

/-- The runs of characters that are in none of some runs, which are in ascending order. -/
def gaps : (start : Nat) → List (Nat × Nat) → List (Nat × Nat)
  | start, [] => if start ≤ 255 then [(start, 255)] else []
  | start, (a, b) :: rest => (if start < a then [(start, a - 1)] else []) ++ gaps (b + 1) rest

/-- Scripts that have none of the first 256 characters. -/
def otherScripts : List String :=
  ["adlam", "arabic", "armenian", "bengali", "bopomofo", "braille", "cherokee", "coptic", "cyrillic",
    "devanagari", "ethiopic", "georgian", "gothic", "greek", "gujarati", "gurmukhi", "han", "hangul", "hebrew",
    "hiragana", "inherited", "kannada", "katakana", "khmer", "lao", "malayalam", "mongolian", "myanmar", "ogham",
    "oriya", "runic", "sinhala", "syriac", "tamil", "telugu", "thaana", "thai", "tibetan", "yi"]

/-- The characters of a category of one letter. -/
def ofCategory (letter : Char) : List (Nat × Nat) :=
  (categories.filter fun c => c.1.toList.head? = some letter).flatMap (·.2)

/-- The characters of a category. -/
def ofCategoryNamed (name : String) : List (Nat × Nat) :=
  ((categories.find? fun c => c.1 = name).map (·.2)).getD []

/-- The characters that have a property, by its name without what does not count. -/
def property? (name : String) : Option (List (Nat × Nat)) :=
  let cs := name.toList
  let category? : Option (List (Nat × Nat)) :=
    match cs with
    | [c] =>
      let c := c.toUpper
      if "CLMNPSZ".toList.contains c then some (ofCategory c) else none
    | [c, d] => (categories.find? fun x => x.1 = String.ofList [c.toUpper, d]).map (·.2)
    | _ => none
  match category? with
  | some runs => some runs
  | none =>
    let letters := ofCategory 'L'
    let space : List (Nat × Nat) := [(9, 13), (32, 32), (133, 133), (160, 160)]
    match name with
    | "any" => some [(0, 255)]
    | "l&" | "lc" => some (ofCategoryNamed "Lu" ++ ofCategoryNamed "Ll")
    | "xan" => some (letters ++ ofCategory 'N')
    | "xsp" | "xps" => some space
    | "xwd" => some (letters ++ ofCategory 'N' ++ [(95, 95)])
    | "xuc" => some [(36, 36), (64, 64), (96, 96), (160, 255)]
    | "latin" | "latn" | "sc:latin" | "sc=latin" | "script:latin" | "script=latin" | "scx:latin" | "scx=latin"
    | "scriptextensions=latin" | "scriptextensions:latin" => some latin
    | "common" | "zyyy" | "sc:common" | "sc=common" | "script=common" => some (gaps 0 latin)
    | "ascii" => some [(0, 127)]
    | "alphabetic" | "alpha" => some (letters)
    | "lowercase" | "lower" => some (ofCategoryNamed "Ll" ++ [(170, 170), (186, 186)])
    | "uppercase" | "upper" => some (ofCategoryNamed "Lu")
    | "whitespace" | "wspace" | "space" => some space
    | "hexdigit" | "hex" | "asciihexdigit" | "ahex" => some [(48, 57), (65, 70), (97, 102)]
    | _ =>
      let script := (name.splitOn "=").getLastD name
      let script := (script.splitOn ":").getLastD script
      if otherScripts.contains script then some [] else none

/-- The name of a property without what does not count. -/
def withoutBlanks (name : List Char) : String :=
  String.ofList ((name.filter fun c => !" _-\t\n".toList.contains c).map Char.toLower)

/-- Runs of characters as ranges. -/
def rangesOfRuns (runs : List (Nat × Nat)) : List (Char × Char) :=
  runs.map fun r => (Char.ofNat r.1, Char.ofNat r.2)

end AddonAtlas.Shell.RichExpression
