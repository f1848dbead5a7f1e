import AddonAtlas.Shell.Builtin
import AddonAtlas.Shell.Wide.Quoting

/-!
# Variables of the wide dialect

Lists that are given values, and the commands that declare variables: what they are made, for whom, and how they
are shown.
-/

namespace AddonAtlas.Shell.Wide

open Shell.Action

/-! ## Complaints -/

/-- How commands are used. -/
def usages : List (String × String) :=
  [("alias", "[-p] [name[=value] ... ]"), ("builtin", "[shell-builtin [arg ...]]"), ("caller", "[expr]"),
    ("cd", "[-L|[-P [-e]] [-@]] [dir]"), ("command", "[-pVv] command [arg ...]"),
    ("declare", "[-aAfFgiIlnrtux] [name[=value] ...] or declare -p [-aAfFilnrtux] [name ...]"),
    ("typeset", "[-aAfFgiIlnrtux] name[=value] ... or typeset -p [-aAfFilnrtux] [name ...]"),
    ("dirs", "[-clpv] [+N] [-N]"), ("enable", "[-a] [-dnps] [-f filename] [name ...]"), ("eval", "[arg ...]"),
    ("exec", "[-cl] [-a name] [command [argument ...]] [redirection ...]"),
    ("export", "[-fn] [name[=value] ...] or export -p"), ("getopts", "optstring name [arg ...]"),
    ("hash", "[-lr] [-p pathname] [-dt] [name ...]"),
    ("kill", "[-s sigspec | -n signum | -sigspec] pid | jobspec ... or kill -l [sigspec]"),
    ("local", "[option] name[=value] ..."),
    ("mapfile", "[-d delim] [-n count] [-O origin] [-s count] [-t] [-u fd] [-C callback] [-c quantum] [array]"),
    ("readarray", "[-d delim] [-n count] [-O origin] [-s count] [-t] [-u fd] [-C callback] [-c quantum] [array]"),
    ("popd", "[-n] [+N | -N]"), ("printf", "[-v var] format [arguments]"), ("pushd", "[-n] [+N | -N | dir]"),
    ("pwd", "[-LP]"),
    ("read", "[-ers] [-a array] [-d delim] [-i text] [-n nchars] [-N nchars] [-p prompt] [-t timeout] [-u fd]" ++
      " [name ...]"),
    ("readonly", "[-aAf] [name[=value] ...] or readonly -p"),
    ("set", "[-abefhkmnptuvxBCEHPT] [-o option-name] [--] [-] [arg ...]"), ("shopt", "[-pqsu] [-o] [optname ...]"),
    ("source", "filename [arguments]"), (".", "filename [arguments]"),
    ("trap", "[-lp] [[arg] signal_spec ...]"), ("type", "[-afptP] name [name ...]"),
    ("ulimit", "[-SHabcdefiklmnpqrstuvxPRT] [limit]"), ("umask", "[-p] [-S] [mode]"),
    ("unalias", "[-a] name [name ...]"), ("unset", "[-f] [-v] [-n] [name ...]"),
    ("wait", "[-fn] [-p var] [id ...]")]

/-- Ends a command with a status. -/
def endWith {α : Type} (status : Nat) : Action α := do
  modify fun m => { m with status := status }
  throw .failure

/-- Tells how the command is used, and ends it. -/
def misuse {α : Type} : Action α := do
  let name := ((← get).command).getD ""
  say (name ++ ": usage: " ++ name ++ " " ++ ((usages.find? fun u => u.1 = name).map (·.2)).getD "" ++ "\n")
  endWith 2

/-- Refuses an option, tells how the command is used, and ends it. -/
def refuseOption {α : Type} (option : String) : Action α := do
  complain (option ++ ": invalid option")
  misuse

/-- Complains and ends a command with a status. -/
def giveUp {α : Type} (message : String) (status : Nat) : Action α := do
  complain message
  endWith status

/-- The options at the start of arguments, each with what belongs to it, and the other arguments. `known` has
the letters, with a colon behind those that something belongs to. -/
def options (known : List Char) : (fuel : Nat) → List String → Action (List (Char × String) × List String)
  | 0, arguments => return ([], arguments)
  | _ + 1, [] => return ([], [])
  | fuel + 1, a :: rest => do
    match a.toList with
    | ['-', '-'] => return ([], rest)
    | '-' :: c :: letters => go fuel (c :: letters) rest
    | _ => return ([], a :: rest)
where
  /-- Goes through the letters of one argument. -/
  go : (fuel : Nat) → List Char → List String → Action (List (Char × String) × List String)
    | 0, _, arguments => return ([], arguments)
    | fuel + 1, [], arguments => options known fuel arguments
    | fuel + 1, c :: letters, arguments => do
      match if c = ':' then [] else known.dropWhile (· != c) with
      | [] => refuseOption (String.ofList ['-', c])
      | _ :: ':' :: _ =>
        if !letters.isEmpty then
          let (found, arguments) ← options known fuel arguments
          return ((c, String.ofList letters) :: found, arguments)
        else
          match arguments with
          | [] =>
            complain (String.ofList ['-', c] ++ ": option requires an argument")
            misuse
          | a :: arguments =>
            let (found, arguments) ← options known fuel arguments
            return ((c, a) :: found, arguments)
      | _ =>
        let (found, arguments) ← go fuel letters arguments
        return ((c, "") :: found, arguments)

/-- The options at the start of arguments. -/
def optionsOf (known : String) (arguments : List String) : Action (List (Char × String) × List String) :=
  options known.toList ((arguments.map String.length).sum + 2 * arguments.length + 2) arguments

/-- Whether a text names a variable, or a place in a list. -/
def isReference (s : String) : Bool :=
  match Arithmetic.nameParts s with
  | (name, none) => isName name
  | (name, some place) => isName name && !place.isEmpty && s.endsWith "]"

/-- Refuses a text that should name a variable. -/
def refuseName (s : String) : Action Unit :=
  complain (ScriptReader.named s ++ ": not a valid identifier")

/-! ## Lists -/

/-- A value that is put into a list. -/
structure ListItem where
  /-- The place that was asked for. -/
  place : Option String
  /-- Whether the value is added to the one before. -/
  appends : Bool
  value : String

/-- Puts values into a list of a variable; those without a place come behind the one before. A list with names
takes values without places in turn as names and values. -/
def fill (name : String) (e : Elements) (items : List ListItem) : Action Elements := do
  if e.isNamed && (items.head?.any fun i => i.place.isNone) then
    return pairs e (items.map (·.value))
  else
    let mut e := { e with isAssigned := true }
    let mut next := e.next
    for i in items do
      let place ← match i.place with
        | some p => if e.isNamed then pure p else pure (toString (← reckon p))
        | none => pure (toString next)
      if e.isNamed && i.place.isNone then
        complainPlainly (name ++ ": " ++ i.value ++ ": must use subscript when assigning associative array")
      else
        match Machine.settledPlace? e place with
        | none => complainPlainly ("[" ++ i.place.getD "" ++ "]=" ++ i.value ++ ": bad array subscript")
        | some place =>
          let value ← takenBy name i.value
          let before := (e.get? place).getD ""
          let m ← get
          let isSum := (m.binding? name).any fun v => v.traits.contains 'i'
          let value ←
            if !i.appends then pure value
            else if isSum then pure (toString (← reckon (before ++ "+" ++ value)))
            else pure (before ++ value)
          let traits := ((m.binding? name).map (·.traits)).getD []
          e := e.insert place (adapted traits value)
          next := (place.toNat?.getD 0) + 1
    return e
where
  /-- Takes names and values in turn. -/
  pairs (e : Elements) : List String → Elements
    | [] => { e with isAssigned := true }
    | [name] => e.insert name ""
    | name :: value :: rest => pairs (e.insert name value) rest

/-- The list that a variable holds, or that its value begins. -/
def listOf (m : Machine) (name : String) : Elements :=
  match m.binding? name with
  | some v => v.elements.getD (v.value.elim (Elements.empty false) fun s => Elements.ofValues [s])
  | none => Elements.empty false

/-- Gives a variable a list of values, or adds them to those it has. -/
def assignList (name : String) (appends : Bool) (items : List ListItem) : Action Unit := do
  let m ← get
  let name := m.aim name
  if (m.binding? name).any (·.isFixed) then abandon (name ++ ": readonly variable")
  let before := listOf m name
  let e ← fill name (if appends then before else Elements.empty before.isNamed) items
  storeList name e

/-- Gives a variable, or a place in a list, a value, or adds the value to what it has. -/
def assignValue (name : String) (place? : Option String) (appends : Bool) (value : String) : Action Unit := do
  let m ← get
  let name := m.aim name
  let before := match place? with
    | some place => m.element? name place
    | none => m.value? name
  let value ←
    if !appends then takenBy name value
    else if (m.binding? name).any fun v => v.traits.contains 'i' then
      pure (toString (← reckon (before.getD "0" ++ "+" ++ (if value.isEmpty then "0" else value))))
    else pure (before.getD "" ++ value)
  match Arithmetic.nameParts name with
  | (base, some place) => store base (some place) value
  | (base, none) => store base place? value

/-! ## Declarations -/

/-- A declared variable: the text of the argument, and a list of values if there is one. -/
structure Declared where
  text : String
  /-- The values of a list; whether they are added to those before. -/
  items : Option (Bool × List ListItem)

/-- Makes a variable the function's own, without a value, unless it is already. -/
def makeOwn (name : String) : Action Unit := do
  let m ← get
  match m.frames with
  | [] => return
  | frame :: frames =>
    if !frame.any fun f => f.1 = name then
      set ({ m with frames := ((name, m.binding? name) :: frame) :: frames }.setVariable name Variable.unset)

/-- The attributes that letters switch on and off. -/
structure Attributes where
  on : List Char
  off : List Char

namespace Attributes

def change (a : Attributes) (v : Variable) : Variable :=
  let kept := v.traits.filter fun c => !a.off.contains c
  let cases := a.on.filter fun c => c = 'u' || c = 'l' || c = 'c'
  let kept := if cases.isEmpty then kept else kept.filter fun c => c ≠ 'u' && c ≠ 'l' && c ≠ 'c'
  let added := (if a.on.contains 'i' then ['i'] else []) ++ (if cases.length = 1 then cases else [])
  let elements :=
    if v.elements.isSome then v.elements
    else if a.on.contains 'A' || a.on.contains 'a' then
      some (match v.value with
        | some s => (Elements.empty (a.on.contains 'A')).insert "0" s
        | none => Elements.declared (a.on.contains 'A'))
    else none
  { v with
    traits := kept ++ added.filter fun c => !kept.contains c
    elements := elements
    value := if elements.isSome then none else v.value
    isExported := (v.isExported || a.on.contains 'x') && !a.off.contains 'x' }

/-- Whether a variable has all the attributes that are asked for. -/
def describes (a : Attributes) (v : Variable) : Bool :=
  a.on.all fun c =>
    match c with
    | 'a' => v.elements.any fun e => !e.isNamed
    | 'A' => v.elements.any fun e => e.isNamed
    | 'r' => v.isFixed
    | 'x' => v.isExported
    | c => v.traits.contains c

end Attributes

/-- The lines that declare variables. -/
def declarations (m : Machine) (p : String → Variable → Bool) : String :=
  let chosen := (m.bindings.filter fun v => p v.1 v.2).mergeSort fun a b => decide (a.1 ≤ b.1)
  String.join (chosen.map fun (name, v) => declaration name v ++ "\n")

/-- The lines that give variables their values. -/
def listing (m : Machine) : String :=
  let chosen := m.bindings.mergeSort fun a b => decide (a.1 ≤ b.1)
  String.join (chosen.map fun (name, v) =>
    match v.elements, v.value with
    | some e, _ => if e.isAssigned then name ++ "=" ++ listText e ++ "\n" else ""
    | none, some s => name ++ "=" ++ listedValue s ++ "\n"
    | none, none => "")

/-- Declares one variable; whether that can be done. -/
def declareOne (isOwn : Bool) (a : Attributes) (d : Declared) : Action Bool := do
  let text := d.text
  let front := text.toList.takeWhile (· != '=')
  let value? := if front.length = text.length then none else some (String.ofList (text.toList.drop (front.length + 1)))
  let appends := value?.isSome && front.getLast? = some '+'
  let target := String.ofList (if appends then front.dropLast else front)
  let (name, place?) := Arithmetic.nameParts target
  if !isReference target then
    refuseName text
    return false
  else
    let m ← get
    let inner := if isOwn then name else m.aim name
    if isOwn then makeOwn inner
    let v := ((← get).binding? inner).getD Variable.unset
    if v.isFixed && (value?.isSome || d.items.isSome || a.off.contains 'r' || a.on.any fun c => "iluncaA".toList.contains c) then
      if isOwn || !(a.on.contains 'r' || a.on.contains 'x') then complain (name ++ ": readonly variable")
      else complainPlainly (name ++ ": readonly variable")
      return false
    else if a.on.contains 'A' && v.elements.any fun e => !e.isNamed then
      complain (name ++ ": cannot convert indexed to associative array")
      return false
    else if a.on.contains 'a' && v.elements.any fun e => e.isNamed then
      complain (name ++ ": cannot convert associative to indexed array")
      return false
    else if a.on.contains 'n' then
      modify fun m => m.setVariable name { v with value := value?.or v.value, traits := 'n' :: v.traits.filter (· ≠ 'n') }
      return true
    else if a.off.contains 'n' then
      modify fun m => m.setVariable name { ((m.binding? name).getD Variable.unset) with
        traits := (((m.binding? name).map (·.traits)).getD []).filter (· ≠ 'n') }
      return true
    else
      let a := if d.items.isSome && !a.on.contains 'A' && !a.on.contains 'a' && v.elements.isNone then
        { a with on := 'a' :: a.on } else a
      let a := if place?.isSome && v.elements.isNone && !a.on.contains 'A' then { a with on := 'a' :: a.on } else a
      modify fun m => m.setVariable inner (a.change v)
      match d.items, value? with
      | some (appends, items), _ => assignList inner appends items
      | none, some s =>
        match place? with
        | some _ =>
          let (name, place?) ← reference target
          assignValue name place? appends s
        | none => assignValue inner none appends s
      | none, none => pure ()
      if a.on.contains 'r' then
        modify fun m => m.setVariable inner { ((m.binding? inner).getD Variable.unset) with isFixed := true }
      return true

/-- The letters of options that are switched on and off, and the other arguments. -/
def attributesOf (known : String) : List Declared → Action (Attributes × List Declared)
  | [] => return (⟨[], []⟩, [])
  | d :: rest => do
    match d.text.toList with
    | ['-', '-'] => return (⟨[], []⟩, rest)
    | sign :: c :: letters =>
      if sign ≠ '-' && sign ≠ '+' then return (⟨[], []⟩, d :: rest)
      else
        for l in c :: letters do
          if !known.toList.contains l then refuseOption (String.ofList [sign, l])
        let (a, rest) ← attributesOf known rest
        if sign = '-' then return ({ a with on := c :: letters ++ a.on }, rest)
        else return ({ a with off := c :: letters ++ a.off }, rest)
    | _ => return (⟨[], []⟩, d :: rest)

/-- Declares functions to be known, or shows them. -/
def declareFunctions (namesOnly : Bool) (names : List String) : Action Nat := do
  let m ← get
  let mut status := 0
  let mut text := ""
  if names.isEmpty then
    for f in m.functions.mergeSort fun a b => decide (a.1 ≤ b.1) do
      text := text ++ "declare -f " ++ f.1 ++ "\n"
  for name in names do
    if m.functions.any fun f => f.1 = name then
      text := text ++ (if namesOnly then name else name ++ " () ") ++ "\n"
    else status := 1
  return max status (← write text.toList)

/-- Makes variables what the command's name and options ask for, or shows them. -/
def declare (name : String) (arguments : List Declared) : Action Nat := do
  let m ← get
  let isLocal := name = "local"
  if isLocal && m.running.isEmpty then
    complain "can only be used in a function"
    return 1
  let known := if name = "export" then "fnp" else if name = "readonly" then "aAfp" else "aAfFgiIlnrtuxpc"
  let (a, rest) ← attributesOf known arguments
  let has (c : Char) : Bool := a.on.contains c
  let shows := has 'p'
  let mark : Attributes :=
    match name with
    | "export" => if has 'n' then ⟨[], ['x']⟩ else ⟨['x'], []⟩
    | "readonly" => ⟨'r' :: a.on.filter fun c => c = 'a' || c = 'A', []⟩
    | _ => ⟨a.on.filter fun c => "aAilnruxc".toList.contains c, a.off⟩
  if has 'f' || has 'F' then
    if name = "export" || name = "readonly" then
      for d in rest do
        if !m.functions.any fun f => f.1 = d.text then
          complain (d.text ++ ": not a function")
          endWith 1
      return 0
    else declareFunctions (has 'F') (rest.map (·.text))
  else if rest.isEmpty then
    if isLocal then
      let own := (m.frames.headD []).map (·.1)
      write (declarations m fun name _ => own.contains name).toList
    else if mark.on.isEmpty && !shows then write (listing m).toList
    else write (declarations m fun _ v => mark.describes v).toList
  else if shows && name ≠ "export" && name ≠ "readonly" then
    let mut status := 0
    for d in rest do
      match m.binding? d.text with
      | some v => let _ ← write (declaration d.text v ++ "\n").toList
      | none =>
        match m.elements? d.text with
        | some e =>
          let _ ← write (declaration d.text { Variable.unset with elements := some e } ++ "\n").toList
        | none =>
          complain (d.text ++ ": not found")
          status := 1
    return status
  else
    let isOwn := name ≠ "export" && name ≠ "readonly" && !m.running.isEmpty && !has 'g'
    let mut status := 0
    for d in rest do
      if !(← declareOne isOwn mark d) then status := 1
    return status

/-- Removes variables, places in lists, or functions. -/
def unset (arguments : List String) : Action Nat := do
  let (found, names) ← optionsOf "fvn" arguments
  let has (c : Char) : Bool := found.any fun o => o.1 = c
  let mut status := 0
  for text in names do
    let m ← get
    let target := if has 'n' then text else m.aim text
    let (name, place?) := Arithmetic.nameParts target
    let isFunction := has 'f' || (!has 'v' && (m.binding? name).isNone && m.functions.any fun f => f.1 = name)
    if isFunction then MonadState.set { m with functions := m.functions.filter fun f => f.1 ≠ text }
    else if (m.binding? name).any (·.isFixed) then
      complain (name ++ ": cannot unset: readonly variable")
      status := 1
    else
      match place?, m.binding? name with
      | some place, some v =>
        let e := listOf m name
        if place = "@" || place = "*" then MonadState.set (m.dropVariable name)
        else
          let place ← if e.isNamed then pure place else pure (toString (← reckon place))
          match Machine.settledPlace? e place with
          | some place => modify fun m => m.setVariable name { v with value := none, elements := some (e.erase place) }
          | none =>
            complain ("[" ++ place ++ "]: bad array subscript")
            status := 1
      | _, _ => MonadState.set (m.dropVariable name)
  return status

end AddonAtlas.Shell.Wide
