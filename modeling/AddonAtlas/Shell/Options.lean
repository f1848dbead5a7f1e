/-!
# Options of programs

The options among a program's arguments: letters behind a hyphen, of which several may stand together, and
names behind two, which may be cut short as long as they are told apart. Options and other arguments may be
mixed; behind two hyphens alone there are no more options.
-/

namespace AddonAtlas.Shell.Options

/-- Whether something belongs to an option. -/
inductive Need
  | nothing
  | something
  /-- Something may follow the name behind an equals sign. -/
  | perhaps
deriving DecidableEq, Repr

/-- An option with a name, and the option that it is. -/
structure Named where
  name : String
  need : Need
  option : String
deriving DecidableEq, Repr

/-- The options that a program knows. -/
structure Table where
  /-- The letters, with a colon behind those that something belongs to, and two behind those that something
  may follow at once. -/
  letters : List Char
  named : List Named

/-- A table of letters, and of names with the options that they are. An equals sign behind a name says that
something belongs to it, a question mark that something may. -/
def Table.of (letters : String) (names : List (String × String)) : Table :=
  ⟨letters.toList, names.map fun (name, option) =>
    let cs := name.toList
    match cs.getLast? with
    | some '=' => ⟨String.ofList cs.dropLast, .something, option⟩
    | some '?' => ⟨String.ofList cs.dropLast, .perhaps, option⟩
    | _ => ⟨name, .nothing, option⟩⟩

/-- An option as it was given. -/
structure Given where
  option : String
  value : Option String
  /-- The number of the argument in which it stands. -/
  place : Nat

structure Reading where
  options : List Given
  operands : List String
  /-- What is wrong with the first argument that could not be read. -/
  fault? : Option String

/-- What is written behind an equals sign, and what stands in front of it. -/
def splitValue (cs : List Char) : String × Option String :=
  let name := cs.takeWhile (· != '=')
  (String.ofList name,
    match cs.drop name.length with
    | _ :: value => some (String.ofList value)
    | [] => none)

/-- The option that a name, or the start of one, stands for. -/
def find (t : Table) (written name : String) : Except String Named :=
  match t.named.find? fun n => n.name = name with
  | some n => .ok n
  | none =>
    match t.named.filter fun n => n.name.startsWith name with
    | [] => .error ("unrecognized option '--" ++ written ++ "'")
    | n :: others =>
      let different := others.filter fun o => o.need ≠ n.need || o.option ≠ n.option
      if different.isEmpty then .ok n
      else
        let possible := (n :: different).map fun o => " '--" ++ o.name ++ "'"
        .error ("option '--" ++ written ++ "' is ambiguous; possibilities:" ++ String.join possible)

/-- The options of the letters of one argument, up to one that is wrong, and the arguments behind it that are
left. -/
def ofLetters (t : Table) (place : Nat) : List Char → List String → List Given × Except String (List String)
  | [], rest => ([], .ok rest)
  | c :: more, rest =>
    let letter := String.ofList [c]
    match if c = ':' then [] else t.letters.dropWhile (· != c) with
    | [] => ([], .error ("invalid option -- '" ++ letter ++ "'"))
    | _ :: ':' :: ':' :: _ =>
      ([⟨letter, if more.isEmpty then none else some (String.ofList more), place⟩], .ok rest)
    | _ :: ':' :: _ =>
      if !more.isEmpty then ([⟨letter, some (String.ofList more), place⟩], .ok rest)
      else
        match rest with
        | value :: rest => ([⟨letter, some value, place⟩], .ok rest)
        | [] => ([], .error ("option requires an argument -- '" ++ letter ++ "'"))
    | _ =>
      let (found, rest) := ofLetters t place more rest
      (⟨letter, none, place⟩ :: found, rest)

/-- The option of a name behind two hyphens, and the arguments behind it that are left. -/
def ofName (t : Table) (place : Nat) (cs : List Char) (rest : List String) :
    Except String (Given × List String) := do
  let (name, value) := splitValue cs
  let n ← find t (String.ofList cs) name
  match n.need, value, rest with
  | .nothing, some _, _ => .error ("option '--" ++ n.name ++ "' doesn't allow an argument")
  | .something, none, value :: rest => .ok (⟨n.option, some value, place⟩, rest)
  | .something, none, [] => .error ("option '--" ++ n.name ++ "' requires an argument")
  | _, value, rest => .ok (⟨n.option, value, place⟩, rest)

/-- Reads arguments from the one of a number on. `isMixed` says that options may stand behind other
arguments. -/
def readFrom (t : Table) (isMixed : Bool) : (fuel : Nat) → (place : Nat) → List String → Reading
  | 0, _, rest => ⟨[], rest, none⟩
  | _ + 1, _, [] => ⟨[], [], none⟩
  | fuel + 1, place, a :: rest =>
    let onwards (found : List Given) (left : List String) : Reading :=
      let r := readFrom t isMixed fuel (place + 1 + (rest.length - left.length)) left
      { r with options := found ++ r.options }
    match a.toList with
    | ['-', '-'] => ⟨[], rest, none⟩
    | '-' :: '-' :: cs =>
      match ofName t place cs rest with
      | .ok (given, rest) => onwards [given] rest
      | .error fault => ⟨[], [], some fault⟩
    | '-' :: c :: cs =>
      match ofLetters t place (c :: cs) rest with
      | (found, .ok rest) => onwards found rest
      | (found, .error fault) => ⟨found, [], some fault⟩
    | _ =>
      if isMixed then
        let r := readFrom t isMixed fuel (place + 1) rest
        { r with operands := a :: r.operands }
      else ⟨[], a :: rest, none⟩

/-- The options and the other arguments. -/
def read (t : Table) (isMixed : Bool) (arguments : List String) : Reading :=
  readFrom t isMixed (arguments.length + 1) 0 arguments

end AddonAtlas.Shell.Options
