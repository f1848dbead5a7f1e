import AddonAtlas.Shell.Utility.Extraction.Scopes

/-!
# Running extraction programs

A term has one value where one is expected, and several where a list is. Places are made when they are asked for:
what stands for nothing yet comes to stand for a new list or table if it is used as one. Loops and procedures end
what is thrown at them.
-/

namespace AddonAtlas.Shell

namespace Utility

open Shell.Action

namespace Extraction

open AddonAtlas.Shell.Extraction

/-- The last of several values. -/
def lastOf (vs : List Value) : Value :=
  vs.getLast?.getD .nothing

/-- A place without the words that declare it. -/
def undeclared : Term → Term
  | .declared _ [p] false => p
  | .declared _ places _ => .several places
  | p => p

/-- Whether a term is a place for a value. -/
def isPlace : Term → Bool
  | .named .scalar name => !isSpecialName name
  | .pointed .scalar _ | .element _ _ | .entry _ _ | .step _ _ true => true
  | .declared _ places isList => !isList && !(places matches [.named .list _] | [.named .table _])
  | .assign p _ => !Reader.isSeveral p
  | .update _ _ _ | .updateIf _ _ _ => true
  | .several [t] => isPlace t
  | .choice _ yes no => isPlace yes && isPlace no
  | _ => false

/-- Whether a value stands for something. -/
def isReference : Value → Bool
  | .place _ | .list _ | .table _ | .procedure _ => true
  | _ => false

/-- The flags of an expression that belong to the expression itself. -/
def ownFlags (flags : List Char) : List Char :=
  flags.filter fun c => ['i', 'm', 's', 'x', 'n'].contains c

/-- Values for a list or a single one. -/
def one (v : Value) : List Value :=
  [v]

/-- A text without the mark at its end that lines have. -/
def withoutEnding (ending : String) (s : String) : String :=
  if !ending.isEmpty && s.endsWith ending then (s.dropEnd ending.length).toString else s

/-- Puts a value that was changed back in its place. -/
def giveBack (p : Place) (old new : Value) : Running Unit :=
  if p = .nowhere || isSame old new then pure () else store p new

/-- Whether a first value decides about two terms. -/
def isSettled (j : Junction) (v : Value) : Bool :=
  match j with
  | .both => !v.isTrue
  | .either => v.isTrue
  | .given => v.isGiven

/-- Notes at which line the program is. -/
def markLine (line : Extraction.Line) : Running Unit :=
  if line.number = 0 then pure () else modify fun s => { s with line := line.number }

mutual

/-- The value of a term. -/
def value (t : Task) : (fuel : Nat) → Term → Running Value
  | 0, _ => doing hang
  | fuel + 1, x => do
    match x with
    | .constant v => return v
    | .joined parts =>
      let mut texts : List String := []
      for p in parts do texts := (← value t fuel p).toText :: texts
      return .text (String.join texts.reverse)
    | .named .scalar name => namedValue name
    | .named .procedure _ => procedureValue t fuel x
    | .pointed .procedure r => value t fuel r
    | .named .list _ | .pointed .list _ => return ofNat (← listAt (← listNumber t fuel x)).size
    | .named .table _ | .pointed .table _ => return ofNat (← tableAt (← tableNumber t fuel x)).size
    | .lastIndex l => return ofInt (((← listAt (← listNumber t fuel l)).size : Int) - 1)
    | .element (.named .list "-") i => foundBound false (← value t fuel i).toInt
    | .element (.named .list "+") i => foundBound true (← value t fuel i).toInt
    | .entry (.named .table "+") key => foundName (← value t fuel key).toText
    | .pointed .scalar _ | .element _ _ | .entry _ _ => valueIn (← place t fuel x)
    | .elements _ _ | .entries _ _ | .pick _ _ => return lastOf (← values t fuel x)
    | .declared _ _ _ =>
      if Reader.isSeveral x then return ofNat (← values t fuel x).length
      else valueIn (← place t fuel x)
    | .assign p source =>
      if Reader.isSeveral p then
        let vs ← values t fuel source
        let _ ← assignAll t fuel p vs
        return ofNat vs.length
      else return (← assignOne t fuel p source).2
    | .update o p source => return (← updated t fuel o p source).2
    | .updateIf j p source =>
      let old ← value t fuel p
      if isSettled j old then return old
      else if Reader.isSeveral p then
        let vs ← values t fuel source
        let _ ← assignAll t fuel p vs
        return ofNat vs.length
      else return (← assignOne t fuel (undeclared p) source).2
    | .operate o a b =>
      let x ← value t fuel a
      let y ← value t fuel b
      operated t o x y
    | .joint j a b =>
      let x ← value t fuel a
      if isSettled j x then return x else value t fuel b
    | .not a => return ofBool !(← value t fuel a).isTrue
    | .negate a => return negate (← value t fuel a)
    | .complement a =>
      let n := (← value t fuel a).toInt
      return ofInt (2 ^ 64 - 1 - (if n < 0 then n + 2 ^ 64 else n))
    | .choice c yes no => if (← value t fuel c).isTrue then value t fuel yes else value t fuel no
    | .range number a b => flipped t fuel number a b
    | .step p isMore isBefore =>
      let pl ← place t fuel p
      let old ← valueIn pl
      let new := if isMore then increment old else combine (· - ·) (· - ·) old (.integer 1)
      store pl new
      if isBefore then return new
      else
        match old with
        | .nothing => return if isMore then .integer 0 else .nothing
        | .text s => return if (numberOf s).2 then old.number else old
        | v => return v
    | .find subject isInverted pattern flags => return lastOf (← find t fuel false subject isInverted pattern flags)
    | .replace subject pattern replacement flags => replace t fuel subject pattern replacement flags
    | .transliterate subject sources targets flags => do
      let (pl, v) ← placed t fuel (subject.getD Reader.topic)
      let (cs, count) := transliterated sources targets flags v.toText.toList
      if flags.contains 'r' then return ofChars cs
      else
        if String.ofList cs ≠ v.toText then store pl (ofChars cs)
        return ofNat count
    | .expression pattern flags =>
      let source := (← value t fuel pattern).toText
      return .text ("(?^" ++ String.ofList (ownFlags flags) ++ ":" ++ source ++ ")")
    | .several ts =>
      let mut last := Value.nothing
      for x in ts do last ← value t fuel x
      return last
    | .newList source =>
      let vs ← values t fuel source
      return .list (← newList vs.toArray)
    | .newTable source =>
      let vs ← values t fuel source
      return .table (← newTable (hashOf .empty vs))
    | .newProcedure body =>
      let s ← get
      set { s with procedures := s.procedures.push ⟨body, s.names⟩ }
      return .procedure s.procedures.size
    | .reference r => referenceTo t fuel r
    | .call name arguments => return lastOf (← function t fuel false name arguments)
    | .invoke p arguments => return lastOf (← invoke t fuel false p arguments)
    | .sweep s body source => return lastOf (← sweep t fuel false s body source)
    | .write w handle source => write t fuel w handle source
    | .readLine handle => return ((← readRecord t (← handleName t fuel handle)).map Value.text).getD .nothing
    | .paths p => return (pathsOf (← doing MonadState.get) (← value t fuel p).toText).headD .nothing
    | .output c => return ofChars (← output t fuel c)
    | .fileTest letter file =>
      let v ← value t fuel (file.getD Reader.topic)
      match letter, v with
      | 't', _ => return .text ""
      | 'p', .handle _ => return .text ""
      | _, .handle "_" | _, .handle "STDIN" | _, .handle "STDOUT" => return .integer 1
      | _, v =>
        let answer := fileAnswer (← doing MonadState.get) letter v.toText
        if !answer.isGiven then setFault .noEntry
        return answer
    | .block catches body => return lastOf (← block t fuel (some false) catches body)
    | .jump j label => throw (.jump j label)
    | .return_ r => throw (.return_ (← returned t fuel r))

/-- The values of a term. -/
def values (t : Task) : (fuel : Nat) → Term → Running (List Value)
  | 0, _ => doing hang
  | fuel + 1, x => do
    match x with
    | .named .list _ | .pointed .list _ => return (← listAt (← listNumber t fuel x)).toList
    | .named .table _ | .pointed .table _ => return flattened (← tableAt (← tableNumber t fuel x))
    | .several ts =>
      match ts with
      | [] => return []
      | [x] => values t fuel x
      | ts =>
        let mut found : List (List Value) := []
        for x in ts do found := (← values t fuel x) :: found
        return found.reverse.flatten
    | .elements l indices =>
      let n ← listNumber t fuel l
      let is ← values t fuel indices
      let vs ← listAt n
      return is.map fun i => ((settled? vs.size i.toInt).bind fun i => vs[i]?).getD .nothing
    | .entries h keys =>
      let n ← tableNumber t fuel h
      let ks ← values t fuel keys
      let h ← tableAt n
      return ks.map fun k => (h.get? k.toText).getD .nothing
    | .pick source indices =>
      let vs := (← values t fuel source).toArray
      let is ← values t fuel indices
      if vs.isEmpty then return []
      else return is.map fun i => ((settled? vs.size i.toInt).bind fun i => vs[i]?).getD .nothing
    | .declared scope places _ =>
      let mut found : List (List Value) := []
      for p in places do
        let p := Term.declared scope [p] false
        match p with
        | .declared _ [.named .list _] _ => found := (← listAt (← listNumber t fuel p)).toList :: found
        | .declared _ [.named .table _] _ => found := flattened (← tableAt (← tableNumber t fuel p)) :: found
        | p => found := [← valueIn (← place t fuel p)] :: found
      return found.reverse.flatten
    | .assign p source =>
      if Reader.isSeveral p then
        let vs ← values t fuel source
        let ps ← assignAll t fuel p vs
        ps.mapM valueIn
      else return [(← assignOne t fuel p source).2]
    | .operate .repeated (.several ts) n =>
      let vs ← values t fuel (.several ts)
      let count := (← value t fuel n).toInt.toNat
      return (List.replicate count vs).flatten
    | .joint j a b =>
      let x ← value t fuel a
      if isSettled j x then return [x] else values t fuel b
    | .choice c yes no => if (← value t fuel c).isTrue then values t fuel yes else values t fuel no
    | .range _ a b =>
      let x ← value t fuel a
      let y ← value t fuel b
      return between x y
    | .find subject isInverted pattern flags => find t fuel true subject isInverted pattern flags
    | .reference (.several ts) => ts.mapM fun r => referenceTo t fuel r
    | .call name arguments => function t fuel true name arguments
    | .invoke p arguments => invoke t fuel true p arguments
    | .sweep s body source => sweep t fuel true s body source
    | .readLine handle =>
      let name ← handleName t fuel handle
      readRecords t name
    | .paths p => return pathsOf (← doing MonadState.get) (← value t fuel p).toText
    | .output c =>
      let cs ← output t fuel c
      return (linesOf '\n' cs).map ofChars
    | .block catches body => block t fuel (some true) catches body
    | x => return [← value t fuel x]

/-- What a procedure answers, in the way that is asked of it. -/
def returned (t : Task) : (fuel : Nat) → Option Term → Running (List Value)
  | 0, _ => doing hang
  | fuel + 1, r => do
    match r with
    | none => return []
    | some x =>
      match (← get).wantsList with
      | some true => values t fuel x
      | _ => return [← value t fuel x]

/-- The place of a value. -/
def place (t : Task) : (fuel : Nat) → Term → Running Place
  | 0, _ => doing hang
  | fuel + 1, x => do
    match x with
    | .named .scalar name =>
      if isSpecialName name then return .nowhere else return .cell (← numberOfName .scalar name)
    | .declared scope [p] _ =>
      match scope, p with
      | .own, .named .scalar name =>
        let n ← newCell .nothing
        declare ("$" ++ name) n
        return .cell n
      | .shared, .named .scalar name =>
        let n ← globalNumber .scalar name
        declare ("$" ++ name) n
        return .cell n
      | .saved, p =>
        let pl ← place t fuel p
        keep (.value pl (← valueIn? pl))
        store pl .nothing
        return pl
      | _, p => place t fuel p
    | .element l i =>
      let n ← listNumber t fuel l
      let i := (← value t fuel i).toInt
      match settled? (← listAt n).size i with
      | some i => return .element n i
      | none => return .nowhere
    | .entry h key =>
      let n ← tableNumber t fuel h
      return .entry n (← keyText t fuel key)
    | .pointed .scalar r =>
      match ← pointedValue t fuel r with
      | (_, .place n) => return .cell n
      | (pl, .nothing) =>
        let n ← newCell .nothing
        store pl (.place n)
        return .cell n
      | (_, v) =>
        if isReference v then fail t "Not a SCALAR reference" else return .cell (← globalNumber .scalar v.toText)
    | .assign p source =>
      if Reader.isSeveral p then
        let vs ← values t fuel source
        return (← assignAll t fuel p vs).getLast?.getD .nowhere
      else return (← assignOne t fuel p source).1
    | .update o p source => return (← updated t fuel o p source).1
    | .updateIf _ p _ | .step p _ true =>
      let _ ← value t fuel x
      place t fuel (undeclared p)
    | .several [x] => place t fuel x
    | .choice c yes no => if (← value t fuel c).isTrue then place t fuel yes else place t fuel no
    | x =>
      let _ ← value t fuel x
      return .nowhere

/-- A term that may be a place, with its value. -/
def placed (t : Task) : (fuel : Nat) → Term → Running (Place × Value)
  | 0, _ => doing hang
  | fuel + 1, x => do
    if isPlace x then
      let pl ← place t fuel x
      return (pl, ← valueIn pl)
    else return (.nowhere, ← value t fuel x)

/-- What a reference is, and where it is. -/
def pointedValue (t : Task) : (fuel : Nat) → Term → Running (Place × Value)
  | 0, _ => doing hang
  | fuel + 1, r => do
    match r with
    | .block false [.evaluate _ x] => placed t fuel x
    | r => placed t fuel r

/-- The values of a term with their places. -/
def located (t : Task) : (fuel : Nat) → Term → Running (List (Place × Value))
  | 0, _ => doing hang
  | fuel + 1, x => do
    match x with
    | .named .list _ | .pointed .list _ =>
      let n ← listNumber t fuel x
      return (← listAt n).toList.mapIdx fun i v => (Place.element n i, v)
    | .several ts =>
      let mut found : List (List (Place × Value)) := []
      for x in ts do found := (← located t fuel x) :: found
      return found.reverse.flatten
    | .call "values" [h] =>
      let n ← tableNumber t fuel h
      return (← tableAt n).entries.map fun (k, v) => (Place.entry n k, v)
    | .elements l indices =>
      let n ← listNumber t fuel l
      let is ← values t fuel indices
      let vs ← listAt n
      return is.filterMap fun i => (settled? vs.size i.toInt).map fun i => (Place.element n i, vs.getD i .nothing)
    | .assign p source =>
      if Reader.isSeveral p then
        let vs ← values t fuel source
        let ps ← assignAll t fuel p vs
        ps.mapM fun pl => do return (pl, ← valueIn pl)
      else return [← placed t fuel x]
    | x =>
      if isPlace x then return [← placed t fuel x]
      else return (← values t fuel x).map fun v => (Place.nowhere, v)

/-- The text of a key. -/
def keyText (t : Task) : (fuel : Nat) → Term → Running String
  | 0, _ => doing hang
  | fuel + 1, key => do
    match key with
    | .several (x :: y :: rest) =>
      let vs ← values t fuel (.several (x :: y :: rest))
      return (← global ";").toText.intercalate (vs.map Value.toText)
    | key => return (← value t fuel key).toText

/-- The number of a list. -/
def listNumber (t : Task) : (fuel : Nat) → Term → Running Nat
  | 0, _ => doing hang
  | fuel + 1, x => do
    match x with
    | .named .list name => numberOfName .list name
    | .pointed .list r =>
      match ← pointedValue t fuel r with
      | (_, .list n) => return n
      | (pl, .nothing) =>
        let n ← newList #[]
        store pl (.list n)
        return n
      | (_, v) =>
        if isReference v then fail t "Not an ARRAY reference"
        else if v.toText.isEmpty then newList #[]
        else globalNumber .list v.toText
    | .declared scope [.named .list name] _ =>
      match scope with
      | .own =>
        let n ← newList #[]
        declare ("@" ++ name) n
        return n
      | .shared =>
        let n ← globalNumber .list name
        declare ("@" ++ name) n
        return n
      | .saved =>
        let n ← numberOfName .list name
        keep (.list n (← listAt n))
        setList n #[]
        return n
    | .assign p source =>
      let vs ← values t fuel source
      let _ ← assignAll t fuel p vs
      listNumber t fuel (undeclared p)
    | x =>
      let vs ← values t fuel x
      newList vs.toArray

/-- The number of a table. -/
def tableNumber (t : Task) : (fuel : Nat) → Term → Running Nat
  | 0, _ => doing hang
  | fuel + 1, x => do
    match x with
    | .named .table "+" =>
      match (← get).found with
      | none => newTable .empty
      | some f =>
        let mut h := Hash.empty
        for (name, n) in f.names do
          let v ← group n
          if v.isGiven then h := h.insert name v
        newTable h
    | .named .table name => numberOfName .table name
    | .pointed .table r =>
      match ← pointedValue t fuel r with
      | (_, .table n) => return n
      | (pl, .nothing) =>
        let n ← newTable .empty
        store pl (.table n)
        return n
      | (_, v) =>
        if isReference v then fail t "Not a HASH reference"
        else if v.toText.isEmpty then newTable .empty
        else globalNumber .table v.toText
    | .declared scope [.named .table name] _ =>
      match scope with
      | .own =>
        let n ← newTable .empty
        declare ("%" ++ name) n
        return n
      | .shared =>
        let n ← globalNumber .table name
        declare ("%" ++ name) n
        return n
      | .saved =>
        let n ← numberOfName .table name
        keep (.table n (← tableAt n))
        setTable n .empty
        return n
    | .assign p source =>
      let vs ← values t fuel source
      let _ ← assignAll t fuel p vs
      tableNumber t fuel (undeclared p)
    | x =>
      let vs ← values t fuel x
      newTable (hashOf .empty vs)

/-- Gives a place the value of a term. -/
def assignOne (t : Task) : (fuel : Nat) → Term → Term → Running (Place × Value)
  | 0, _, _ => doing hang
  | fuel + 1, p, source => do
    let v ← value t fuel source
    match p with
    | .call "substr" (x :: rest) =>
      let _ ← function t fuel false "substr" (x :: rest.take 1 ++ [rest.getD 1 (.constant .nothing), .constant v])
      return (.nowhere, v)
    | .named .scalar "!" =>
      modify fun s => { s with fault := faultOf v.toInt.toNat }
      return (.nowhere, v)
    | .call "pos" xs =>
      let pl ← place t fuel (xs.headD Reader.topic)
      modify fun s =>
        { s with positions := (if v.isGiven then [(pl, v.toInt.toNat, false)] else []) ++
            s.positions.filter fun x => x.1 ≠ pl }
      return (.nowhere, v)
    | .lastIndex l =>
      let n ← listNumber t fuel l
      let size := (v.toInt + 1).toNat
      let vs ← listAt n
      setList n (if size ≤ vs.size then vs.extract 0 size else vs ++ Array.replicate (size - vs.size) Value.nothing)
      return (.nowhere, v)
    | .constant (.handle name) =>
      match v with
      | .procedure n =>
        modify fun s => { s with globals := s.globals.insert ("&" ++ name) n }
      | .place n => modify fun s => { s with globals := s.globals.insert ("$" ++ name) n }
      | .list n => modify fun s => { s with globals := s.globals.insert ("@" ++ name) n }
      | .table n => modify fun s => { s with globals := s.globals.insert ("%" ++ name) n }
      | _ => pure ()
      return (.nowhere, v)
    | p =>
      let pl ← place t fuel p
      store pl v
      return (pl, v)

/-- Gives places the values of a list, one after the other; a list or a table takes all that are left. -/
def assignAll (t : Task) : (fuel : Nat) → Term → List Value → Running (List Place)
  | 0, _, _ => doing hang
  | fuel + 1, p, vs => do
    match p with
    | .named .list _ | .pointed .list _ | .declared _ [.named .list _] _ =>
      let n ← listNumber t fuel p
      setList n vs.toArray
      return (List.range vs.length).map (Place.element n)
    | .named .table _ | .pointed .table _ | .declared _ [.named .table _] _ =>
      let n ← tableNumber t fuel p
      let h := hashOf .empty vs
      setTable n h
      return h.entries.map fun (k, _) => Place.entry n k
    | .several ps => assignEach t fuel ps vs
    | .declared _ [_] false =>
      let pl ← place t fuel p
      store pl (vs.headD .nothing)
      return [pl]
    | .declared scope ps _ => assignEach t fuel (ps.map fun p => .declared scope [p] false) vs
    | .elements l indices =>
      let n ← listNumber t fuel l
      let is ← values t fuel indices
      let mut rest := vs
      let mut found : List Place := []
      for i in is do
        let pl := ((settled? (← listAt n).size i.toInt).map (Place.element n)).getD .nowhere
        store pl (rest.headD .nothing)
        rest := rest.drop 1
        found := pl :: found
      return found.reverse
    | .entries h keys =>
      let n ← tableNumber t fuel h
      let ks ← values t fuel keys
      let mut rest := vs
      let mut found : List Place := []
      for k in ks do
        let pl := Place.entry n k.toText
        store pl (rest.headD .nothing)
        rest := rest.drop 1
        found := pl :: found
      return found.reverse
    | p =>
      let pl ← place t fuel p
      store pl (vs.headD .nothing)
      return [pl]

def assignEach (t : Task) : (fuel : Nat) → List Term → List Value → Running (List Place)
  | 0, _, _ => doing hang
  | fuel + 1, ps, vs => do
    match ps with
    | [] => return []
    | p :: rest =>
      match undeclared p with
      | .call "undef" [] =>
        assignEach t fuel rest (vs.drop 1)
      | .named .list _ | .pointed .list _ | .named .table _ | .pointed .table _ =>
        let found ← assignAll t fuel p vs
        return found ++ (← assignEach t fuel rest [])
      | .elements _ _ | .entries _ _ | .several _ =>
        let found ← assignAll t fuel p vs
        return found ++ (← assignEach t fuel rest (vs.drop found.length))
      | _ =>
        let found ← assignAll t fuel p (vs.take 1)
        return found ++ (← assignEach t fuel rest (vs.drop 1))

/-- Combines the value in a place with another one, and puts it there. -/
def updated (t : Task) : (fuel : Nat) → Operator → Term → Term → Running (Place × Value)
  | 0, _, _, _ => doing hang
  | fuel + 1, o, p, source => do
    if Reader.isSeveral p then
      let vs ← values t fuel p
      let n := (← value t fuel source).toInt.toNat
      let made := if o = .repeated then (List.replicate n vs).flatten else vs
      let _ ← assignAll t fuel (undeclared p) made
      return (.nowhere, ofNat made.length)
    else
      let v ← value t fuel source
      match p with
      | .call "substr" _ | .lastIndex _ | .call "pos" _ =>
        let old ← value t fuel p
        let new ← operated t o old v
        assignOne t fuel p (.constant new)
      | p =>
        let pl ← place t fuel p
        let old ← valueIn pl
        match o, pl with
        | .join, .cell n =>
          setCell n .nothing
          let new := Value.text (old.toText ++ v.toText)
          store pl new
          return (pl, new)
        | o, pl =>
          let new ← operated t o old v
          store pl new
          return (pl, new)

/-- A value that stands for a term. -/
def referenceTo (t : Task) : (fuel : Nat) → Term → Running Value
  | 0, _ => doing hang
  | fuel + 1, r => do
    match r with
    | .named .list _ | .pointed .list _ | .declared _ [.named .list _] _ => return .list (← listNumber t fuel r)
    | .named .table _ | .pointed .table _ | .declared _ [.named .table _] _ => return .table (← tableNumber t fuel r)
    | .invoke p none => procedureValue t fuel p
    | .constant (.handle name) => return .handle name
    | .several [x] => referenceTo t fuel x
    | r =>
      match ← placed t fuel r with
      | (.cell n, _) => return .place n
      | (_, v) => return .place (← newCell v)

/-- A procedure as a value. -/
def procedureValue (t : Task) : (fuel : Nat) → Term → Running Value
  | 0, _ => doing hang
  | fuel + 1, p => do
    match p with
    | .named .procedure name =>
      match (← get).globals["&" ++ name]? with
      | some n => return .procedure n
      | none =>
        match t.program.procedures.lookup name with
        | some body =>
          let s ← get
          let n := s.procedures.size
          set { s with procedures := s.procedures.push ⟨body, s.outer⟩ }
          modify fun s => { s with globals := s.globals.insert ("&" ++ name) n }
          return .procedure n
        | none => return .nothing
    | .pointed .procedure r => value t fuel r
    | p => value t fuel p

/-- Runs a procedure. -/
def invoke (t : Task) : (fuel : Nat) → (wants : Bool) → Term → Option (List Term) → Running (List Value)
  | 0, _, _, _ => doing hang
  | fuel + 1, wants, p, arguments => do
    let given? ← arguments.mapM fun xs => located t fuel (.several xs)
    let known ← (do
      match p with
      | .named .procedure name =>
        if (← get).globals.contains ("&" ++ name) || (t.program.procedures.lookup name).isSome then return none
        else if name = "find" || name = "finddepth" then
          let (wanted, stays) ←
            match ((given?.getD []).map (·.2)).headD Value.nothing with
            | .table n => do
              let h ← tableAt n
              pure ((h.get? "wanted").getD .nothing, ((h.get? "no_chdir").getD .nothing).isTrue)
            | v => pure (v, false)
          for (_, v) in (given?.getD []).drop 1 do
            let here := (← doing MonadState.get).here
            visitTop t fuel wanted stays (name = "finddepth") v.toText
            doing (modify fun m => { m with here := here })
          return some .nothing
        else knownProcedure name ((given?.getD []).map (·.2))
      | _ => return none : Running (Option Value))
    if let some v := known then return [v]
    let found ←
      match p with
      | .named .procedure name =>
        match (← get).globals["&" ++ name]?, t.program.procedures.lookup name with
        | some n, _ => pure ((← get).procedures[n]?)
        | none, some body => pure (some ⟨body, (← get).outer⟩)
        | none, none => fail t ("Undefined subroutine &main::" ++ name ++ " called")
      | p =>
        match ← value t fuel p with
        | .procedure n => pure ((← get).procedures[n]?)
        | .nothing => fail t "Can't use an undefined value as a subroutine reference"
        | .text name =>
          match t.program.procedures.lookup name with
          | some body => pure (some ⟨body, (← get).outer⟩)
          | none => fail t ("Undefined subroutine &main::" ++ name ++ " called")
        | _ => fail t "Not a CODE reference"
    match found with
    | none => return []
    | some procedure =>
      if maxCalls ≤ (← get).calls then doing hang
      else
        let l ← globalNumber .list "_"
        let old ← listAt l
        if let some given := given? then setList l (given.map (·.2)).toArray
        let line := (← get).line
        let result ← outcome (inBlockWith
          (fun s => { s with names := procedure.names, calls := s.calls + 1, wantsList := some wants, depth := 1 })
          (statements t fuel (some wants) procedure.body))
        if let some given := given? then
          -- A value that was changed in its place among the arguments is changed where it came from.
          let now ← listAt l
          if now.size = given.length then
            for ((p, v), new) in given.zip now.toList do giveBack p v new
        setList l old
        modify fun s => { s with line := line }
        let found ←
          match result with
          | .ok vs | .error (.return_ vs) => pure vs
          | .error h => throw h
        return if wants then found else [lastOf found]

/-- Calls a procedure for a file and all that is below it. -/
def visitTop (t : Task) : (fuel : Nat) → (wanted : Value) → (stays isLate : Bool) → (path : String) → Running Unit
  | 0, _, _, _, _ => doing hang
  | fuel + 1, wanted, stays, isLate, path => do
    let m ← doing MonadState.get
    let path := if path.endsWith "/" && path ≠ "/" then (path.dropEnd 1).toString else path
    match entryOf m path with
    | .error _ => pure ()
    | .ok (place, .directory) =>
      let call : Running Unit := do
        if !stays then doing (modify fun m => { m with here := place })
        visitOne t fuel wanted path path (if stays then path else ".")
      if !isLate then call
      visitBelow t fuel wanted stays isLate path place
      if isLate then call
    | .ok (place, _) =>
      if !stays then doing (modify fun m => { m with here := place.dropLast })
      visitOne t fuel wanted (Utility.dirname path) path (if stays then path else Utility.basename path)

/-- Calls a procedure for what is in a directory: first for the files, then for the directories. -/
def visitBelow (t : Task) : (fuel : Nat) → (wanted : Value) → (stays isLate : Bool) → (path : String) → Location →
    Running Unit
  | 0, _, _, _, _, _ => doing hang
  | fuel + 1, wanted, stays, isLate, path, place => do
    let m ← doing MonadState.get
    let names := m.tree.children place
    let isDirectory (name : String) : Bool := m.tree.find? (place ++ [name]) matches some .directory
    let enter : Running Unit := if stays then pure () else doing (modify fun m => { m with here := place })
    let front := if path = "/" then "/" else path ++ "/"
    for name in names do
      if !isDirectory name then
        enter
        visitOne t fuel wanted path (front ++ encode name) (if stays then front ++ encode name else encode name)
    for name in names do
      if isDirectory name then
        let inner := front ++ encode name
        let shown := if stays then inner else encode name
        if !isLate then
          enter
          visitOne t fuel wanted path inner shown
        visitBelow t fuel wanted stays isLate inner (place ++ [name])
        if isLate then
          enter
          visitOne t fuel wanted path inner shown

/-- Calls a procedure for one file. -/
def visitOne (t : Task) : (fuel : Nat) → (wanted : Value) → (directory path shown : String) → Running Unit
  | 0, _, _, _, _ => doing hang
  | fuel + 1, wanted, directory, path, shown => do
    setGlobal "File::Find::dir" (.text directory)
    setGlobal "File::Find::name" (.text path)
    let n ← globalNumber .scalar "_"
    withCell n (do
      setCell n (.text shown)
      let _ ← invoke t fuel false (.constant wanted) (some []))

/-- A range that counts from when one condition holds to when another one does. -/
def flipped (t : Task) : (fuel : Nat) → (number : Nat) → Term → Term → Running Value
  | 0, _, _, _ => doing hang
  | fuel + 1, number, a, b => do
    if (← get).ranges.contains number then
      if ← isLine t fuel b then modify fun s => { s with ranges := s.ranges.filter (· ≠ number) }
      return .integer 1
    else if ← isLine t fuel a then
      if !(← isLine t fuel b) then modify fun s => { s with ranges := number :: s.ranges }
      return .integer 1
    else return .text ""

/-- Whether a bound of a range is met; a number is that of a line. -/
def isLine (t : Task) : (fuel : Nat) → Term → Running Bool
  | 0, _ => doing hang
  | fuel + 1, x => do
    match x with
    | .constant (.integer n) => return (← namedValue ".").toInt = n
    | x => return (← value t fuel x).isTrue

/-- Looks for an expression in a text. -/
def find (t : Task) : (fuel : Nat) → (wants : Bool) → Option Term → (isInverted : Bool) → Term → List Char →
    Running (List Value)
  | 0, _, _, _, _, _ => doing hang
  | fuel + 1, wants, subject, isInverted, pattern, flags => do
    let (pl, v) ← placed t fuel (subject.getD Reader.topic)
    let source := (← value t fuel pattern).toText
    let e ← expressionFor t source (ownFlags flags)
    let text := v.toText.toList.toArray
    let note (f : Found) : Running Unit := modify fun s => { s with found := some f }
    if flags.contains 'g' then
      let (start, wasEmpty) := ((← get).positions.lookup pl).getD (0, false)
      let drop : Running Unit := modify fun s => { s with positions := s.positions.filter fun x => x.1 ≠ pl }
      if wants && !isInverted then
        let found := matches_ e text start
        if !flags.contains 'c' then drop
        match found.getLast? with
        | none => return []
        | some f =>
          note f
          return found.flatMap fun f => if f.count = 0 then [foundPart f f.start f.finish] else groupValues f
      else
        let found :=
          match search e text start with
          | some f => if wasEmpty && f.start = f.finish && f.start = start then search e text (start + 1) else some f
          | none => none
        match if text.size < start then none else found with
        | none =>
          if !flags.contains 'c' then drop
          return [ofBool isInverted]
        | some f =>
          drop
          modify fun s => { s with positions := (pl, f.finish, f.start = f.finish) :: s.positions }
          note f
          return [ofBool !isInverted]
    else
      match search e text 0 with
      | none => return if wants && !isInverted then [] else [ofBool isInverted]
      | some f =>
        note f
        if wants && !isInverted then return if f.count = 0 then [.integer 1] else groupValues f
        else return [ofBool !isInverted]

/-- Replaces what an expression matches. -/
def replace (t : Task) : (fuel : Nat) → Option Term → Term → Term → List Char → Running Value
  | 0, _, _, _, _ => doing hang
  | fuel + 1, subject, pattern, replacement, flags => do
    let (pl, v) ← placed t fuel (subject.getD Reader.topic)
    let source := (← value t fuel pattern).toText
    let e ← expressionFor t source (ownFlags flags)
    let text := v.toText.toList.toArray
    let found := if flags.contains 'g' then matches_ e text 0 else (search e text 0).toList
    if found.isEmpty then return if flags.contains 'r' then .text v.toText else .text ""
    else
      let isTwice := 1 < flags.count 'e'
      let new ← replaced text (fun _ => do
        let made ← value t fuel replacement
        if isTwice then return (lastOf (← evalText t fuel false made.toText)).toText
        else return made.toText) 0 [] found
      if flags.contains 'r' then return .text new
      else
        store pl (.text new)
        return ofNat found.length

/-- Runs a text as a program. -/
def evalText (t : Task) : (fuel : Nat) → (wants : Bool) → String → Running (List Value)
  | 0, _, _ => doing hang
  | fuel + 1, wants, text => do
    let number := (← get).opened + 1
    modify fun s => { s with opened := number }
    let file := "(eval " ++ toString number ++ ")"
    match readProgram file 1 text.toList t.program.procedures with
    | .error message =>
      setGlobal "@" (.text message)
      return if wants then [] else [.nothing]
    | .ok (program, _) =>
      let line := (← get).line
      let found ← block { t with program := program, file := file } fuel (some wants) true program.body
      modify fun s => { s with line := line }
      return found

/-- Does something with each value of a list. -/
def sweep (t : Task) : (fuel : Nat) → (wants : Bool) → Sweep → List Statement → Term → Running (List Value)
  | 0, _, _, _, _ => doing hang
  | fuel + 1, wants, s, body, source => do
    let test : Running Bool :=
      match body with
      | [.evaluate _ x] => do return (← value t fuel x).isTrue
      | body => do return (lastOf (← inBlock (statements t fuel (some false) body))).isTrue
    match s with
    | .sort =>
      let vs ← values t fuel source
      let found ←
        match body with
        | [] => pure (vs.mergeSort fun a b => compareTexts a b ≠ .gt)
        | body =>
          let a ← globalNumber .scalar "a"
          let b ← globalNumber .scalar "b"
          let isBehind (x y : Value) : Running Bool := do
            setCell a x
            setCell b y
            let v ←
              match body with
              | [.evaluate _ x] => value t fuel x
              | body => do pure (lastOf (← inBlock (statements t fuel (some false) body)))
            return 0 < v.toInt || (v.toInt = 0 && 0.0 < v.toReal)
          withCell a (withCell b (sorted isBehind (vs.length + 1) vs))
      return if wants then found else [ofNat found.length]
    | s =>
      let items ← located t fuel source
      let n ← numberOfName .scalar "_"
      withCell n (do
        match s with
        | .map =>
          let mut found : List (List Value) := []
          for (p, v) in items do
            setCell n v
            let vs ←
              match body with
              | [.evaluate _ x] => values t fuel x
              | body => inBlock (statements t fuel (some true) body)
            giveBack p v (← cell n)
            found := vs :: found
          let vs := found.reverse.flatten
          return if wants then vs else [ofNat vs.length]
        | .select =>
          let mut found : List Value := []
          for (p, v) in items do
            setCell n v
            let isChosen ← test
            giveBack p v (← cell n)
            if isChosen then found := v :: found
          return if wants then found.reverse else [ofNat found.length]
        | .first =>
          for (_, v) in items do
            setCell n v
            if ← test then return [v]
          return [.nothing]
        | .any =>
          for (_, v) in items do
            setCell n v
            if ← test then return [ofBool true]
          return [ofBool false]
        | .none =>
          for (_, v) in items do
            setCell n v
            if ← test then return [ofBool false]
          return [ofBool true]
        | _ =>
          for (_, v) in items do
            setCell n v
            if !(← test) then return [ofBool false]
          return [ofBool true])

/-- The name of an open file. -/
def handleName (t : Task) : (fuel : Nat) → Option Term → Running String
  | 0, _ => doing hang
  | fuel + 1, handle => do
    match handle with
    | none => return "ARGV"
    | some h => return handleOf (← value t fuel h)

/-- Writes values. -/
def write (t : Task) : (fuel : Nat) → Writing → Option Term → List Term → Running Value
  | 0, _, _, _ => doing hang
  | fuel + 1, w, handle, source => do
    let name ←
      match handle with
      | none => pure (← get).selected
      | some h => pure (handleOf (← value t fuel h))
    let vs ←
      if source.isEmpty && w ≠ .formatted then pure [← namedValue "_"]
      else values t fuel (.several source)
    let text ←
      match w with
      | .formatted =>
        let f := (vs.headD .nothing).toText.toList
        pure (String.ofList (formatted (f.length + 1) f (vs.drop 1)))
      | w => do
        let text := (← global ",").toText.intercalate (vs.map Value.toText)
        let ending := (← global "\\").toText
        pure (text ++ (if w = .line then "\n" else ending))
    return ofBool (← writeTo name text)

/-- What a command writes. -/
def output (t : Task) : (fuel : Nat) → Term → Running (List Char)
  | 0, _ => doing hang
  | fuel + 1, c => do
    let line := (← value t fuel c).toText
    let (cs, status) ← withEnvironment (outputOfCommand t line)
    setGlobal "?" (ofNat (if 128 < status && status < 160 then status - 128 else status * 256))
    return cs

/-- Runs a block for its value; it may catch what ends the program. -/
def block (t : Task) : (fuel : Nat) → (wants : Option Bool) → (catches : Bool) → List Statement → Running (List Value)
  | 0, _, _, _ => doing hang
  | fuel + 1, wants, catches, body => do
    if !catches then inBlock (statements t fuel wants body)
    else
      match ← outcome (inBlock (statements t fuel wants body)) with
      | .ok vs | .error (.return_ vs) =>
        setGlobal "@" (.text "")
        return vs
      | .error (.die v) =>
        setGlobal "@" v
        return if wants = some true then [] else [.nothing]
      | .error h => throw h

/-- Runs statements one after the other, for the value of the last one. -/
def statements (t : Task) : (fuel : Nat) → (wants : Option Bool) → List Statement → Running (List Value)
  | 0, _, _ => doing hang
  | fuel + 1, wants, body => do
    match body with
    | [] => return []
    | [s] => statement t fuel wants s
    | s :: rest =>
      let _ ← statement t fuel none s
      let mut found : List Value := []
      let count := rest.length
      for (s, i) in rest.zipIdx do
        found ← statement t fuel (if i + 1 = count then wants else none) s
      return found

def statement (t : Task) : (fuel : Nat) → (wants : Option Bool) → Statement → Running (List Value)
  | 0, _, _ => doing hang
  | fuel + 1, wants, s => do
    match s with
    | .nothing => return []
    | .evaluate line x =>
      markLine line
      match wants with
      | some true => values t fuel x
      | some false => return [← value t fuel x]
      | none =>
        let _ ← value t fuel x
        return []
    | .block label body =>
      match ← outcome (inBlock (statements t fuel wants body)) with
      | .ok vs => return vs
      | .error (.jump j to_) =>
        if to_.isEmpty || to_ = label then
          if j = .redo then statement t fuel wants s else return []
        else throw (.jump j to_)
      | .error h => throw h
    | .choice line c yes no =>
      markLine line
      let names := (← get).names
      let v ← value t fuel c
      let chosen := if v.isTrue then yes else no
      let vs ← if chosen.isEmpty then pure (if wants.isSome then [v] else []) else inBlock (statements t fuel wants chosen)
      modify fun s => { s with names := names }
      return vs
    | .while_ line label c isUntil body continuation =>
      let names := (← get).names
      repeating (do
        modify fun s => { s with names := names }
        markLine line
        let v ← value t fuel c
        if v.isTrue = isUntil then return some ()
        else if ← turn t fuel label body then return some ()
        else
          if !continuation.isEmpty then
            let _ ← inBlock (statements t fuel none continuation)
          return none) maxTurns
      modify fun s => { s with names := names }
      return []
    | .doWhile line body c isUntil =>
      repeating (do
        markLine line
        let _ ← inBlock (statements t fuel none body)
        let v ← value t fuel c
        return if v.isTrue = isUntil then some () else none) maxTurns
      return []
    | .loop line label first c next body =>
      let names := (← get).names
      markLine line
      if let some x := first then
        let _ ← value t fuel x
      let inner := (← get).names
      repeating (do
        modify fun s => { s with names := inner }
        let goesOn ←
          match c with
          | some x => do pure (← value t fuel x).isTrue
          | none => pure true
        if !goesOn then return some ()
        else if ← turn t fuel label body then return some ()
        else
          if let some x := next then
            let _ ← value t fuel x
          return none) maxTurns
      modify fun s => { s with names := names }
      return []
    | .each line label isOwn name source body =>
      markLine line
      let items ← located t fuel source
      if isOwn then
        let names := (← get).names
        for (p, v) in items do
          let n ← newCell v
          modify fun s => { s with names := ("$" ++ name, n) :: names }
          let ends ← turn t fuel label body
          giveBack p v (← cell n)
          if ends then break
        modify fun s => { s with names := names }
        return []
      else
        let n ← numberOfName .scalar name
        withCell n (do
          for (p, v) in items do
            setCell n v
            let ends ← turn t fuel label body
            giveBack p v (← cell n)
            if ends then break
          return [])

/-- One turn of a loop; whether it ends the loop. -/
def turn (t : Task) : (fuel : Nat) → (label : String) → List Statement → Running Bool
  | 0, _, _ => doing hang
  | fuel + 1, label, body => do
    match ← outcome (inBlock (statements t fuel none body)) with
    | .ok _ => return false
    | .error (.jump j to_) =>
      if to_.isEmpty || to_ = label then
        match j with
        | .next => return false
        | .last => return true
        | .redo => turn t fuel label body
      else throw (.jump j to_)
    | .error h => throw h

/-- Calls what the program wants to be called with a value, if there is such a thing. -/
def handled (t : Task) : (fuel : Nat) → (name : String) → Value → Running Bool
  | 0, _, _ => doing hang
  | fuel + 1, name, v => do
    match ← handlerOf name with
    | .procedure n =>
      let _ ← invoke t fuel false (.constant (.procedure n)) (some [.constant v])
      return true
    | .text "IGNORE" => return true
    | .text s =>
      if s.isEmpty || s = "DEFAULT" then return false
      else
        let _ ← invoke t fuel false (.named .procedure s) (some [.constant v])
        return true
    | _ => return false

/-- Sends the program a signal. -/
def signalled (t : Task) : (fuel : Nat) → (n : Nat) → Running Unit
  | 0, _ => doing hang
  | fuel + 1, n => do
    let isCaught ← if n = 9 then pure false else handled t fuel (Signal.name n) (.text (Signal.name n))
    if !(isCaught || n = 0 || Signal.idle.contains n) then doing (throw (.killed n))

/-- Waits for so many milliseconds, or up to a signal. -/
def waited (t : Task) : (fuel : Nat) → (duration : Nat) → Running Unit
  | 0, _ => doing hang
  | fuel + 1, duration => do
    let now := (← doing MonadState.get).time
    match (← get).alarm with
    | some time =>
      if time ≤ now + duration then
        doing (modify fun m => { m with time := max now time })
        modify fun s => { s with alarm := none }
        signalled t fuel 14
      else doing (modify fun m => { m with time := now + duration })
    | none => doing (modify fun m => { m with time := now + duration })

/-- What a function of messages and signals answers. -/
def messageFunction (t : Task) : (fuel : Nat) → String → List Term → Running Value
  | 0, _, _ => doing hang
  | fuel + 1, name, xs => do
    let vs ← values t fuel (.several xs)
    match name with
    | "warn" | "carp" =>
      let s ← messageOf t "Warning: something's wrong" vs
      if !(← handled t fuel "__WARN__" (.text s)) then doing (say s)
      return .integer 1
    | "sleep" =>
      let start := (← doing MonadState.get).time
      waited t fuel (1000 * (vs.headD (.integer 1000000000)).toReal).toUInt64.toNat
      return ofNat (((← doing MonadState.get).time - start) / 1000)
    | "alarm" =>
      let now := (← doing MonadState.get).time
      let n := (vs.headD .nothing).toInt.toNat
      let old := (← get).alarm
      modify fun s => { s with alarm := if n = 0 then none else some (now + 1000 * n) }
      return ofNat ((old.map fun time => (time - now + 999) / 1000).getD 0)
    | "kill" =>
      let first := (vs.headD .nothing).toText
      let own := (← get).process
      match signal? (if first.startsWith "-" then (first.drop 1).toString else first) with
      | none => fail t ("Unrecognized signal name \"" ++ first ++ "\"")
      | some n =>
        for v in vs.drop 1 do
          if v.toInt = (own : Int) then signalled t fuel n
        return ofNat (vs.length - 1)
    | _ =>
      let v ←
        match vs with
        | [v] => if isReference v then pure v else do pure (Value.text (← messageOf t "Died" vs))
        | vs => do pure (Value.text (← messageOf t "Died" vs))
      let _ ← handled t fuel "__DIE__" v
      throw (.die v)

/-- What a function answers. -/
def function (t : Task) : (fuel : Nat) → (wants : Bool) → String → List Term → Running (List Value)
  | 0, _, _, _ => doing hang
  | fuel + 1, wants, name, xs => do
    if ["die", "warn", "croak", "confess", "carp", "kill", "alarm", "sleep"].contains name then
      return [← messageFunction t fuel name xs]
    else if scalarFunctions.contains name then
      let vs ←
        if xs.isEmpty && topicFunctions.contains name then pure [← namedValue "_"]
        else xs.mapM fun x => value t fuel x
      return [← scalarFunction t name vs]
    else if listedFunctions.contains name then
      let vs ←
        if xs.isEmpty && name = "unlink" then pure [← namedValue "_"]
        else values t fuel (.several xs)
      return [← withEnvironment (listedFunction t name vs)]
    else if name.startsWith "->" then method t fuel wants (name.drop 2).toString xs
    else if ["open", "close", "binmode", "eof", "readline", "select", "read", "sysread", "syswrite", "opendir", "readdir",
        "closedir", "stat", "lstat", "glob", "seek", "truncate", "print"].contains name then
      fileFunction t fuel wants name xs
    else
      match name, xs with
      | "defined", [] => return [ofBool (← namedValue "_").isGiven]
      | "defined", [x] =>
        match x with
        | .named .list _ | .pointed .list _ | .named .table _ | .pointed .table _ =>
          return [ofBool (← value t fuel x).isTrue]
        | .invoke (.named .procedure p) none => return [ofBool (← procedureValue t fuel (.named .procedure p)).isGiven]
        | x => return [ofBool (← value t fuel x).isGiven]
      | "scalar", [x] => return [← value t fuel x]
      | "push", l :: rest =>
        let vs ← values t fuel (.several rest)
        let n ← listNumber t fuel l
        let size ← withList n fun old =>
          let new := old ++ vs.toArray
          (new, new.size)
        return [ofNat size]
      | "unshift", l :: rest =>
        let vs ← values t fuel (.several rest)
        let n ← listNumber t fuel l
        let size ← withList n fun old =>
          let new := vs.toArray ++ old
          (new, new.size)
        return [ofNat size]
      | "shift", _ | "pop", _ =>
        let usual := if 0 < (← get).calls then "_" else "ARGV"
        let n ← listNumber t fuel (xs.headD (.named .list usual))
        let v ← withList n fun old =>
          if name = "shift" then (old.extract 1 old.size, old[0]?) else (old.pop, old.back?)
        return [v.getD .nothing]
      | "splice", l :: rest =>
        let n ← listNumber t fuel l
        let vs ← values t fuel (.several rest)
        let size := (← listAt n).size
        let length :=
          match vs[1]? with
          | some v => if v.isGiven then some v.toInt else none
          | none => none
        let (start, count) := (partOf size ((vs[0]?).map Value.toInt |>.getD 0) length).getD (size, 0)
        let taken ← withList n fun old =>
          (old.extract 0 start ++ (vs.drop 2).toArray ++ old.extract (start + count) old.size,
            old.extract start (start + count))
        return if wants then taken.toList else [taken.back?.getD .nothing]
      | "keys", [x] | "values", [x] =>
        let isKeys := name = "keys"
        match x with
        | .named .list _ | .pointed .list _ =>
          let vs ← listAt (← listNumber t fuel x)
          if !wants then return [ofNat vs.size]
          else return if isKeys then (List.range vs.size).map ofNat else vs.toList
        | x =>
          let n ← tableNumber t fuel (match x with
            | .named .table _ | .pointed .table _ | .declared _ _ _ | .assign _ _ => x
            | x => .pointed .table x)
          modify fun s => { s with turns := s.turns.filter fun x => x.1 ≠ n }
          let h ← tableAt n
          if !wants then return [ofNat h.size]
          else return h.entries.map fun (k, v) => if isKeys then Value.text k else v
      | "each", [x] =>
        match x with
        | .named .list _ | .pointed .list _ =>
          let n ← listNumber t fuel x
          let i := ((← get).turns.lookup (2 * n + 1)).getD 0
          let others := (← get).turns.filter fun x => x.1 ≠ 2 * n + 1
          match (← listAt n)[i]? with
          | some v =>
            modify fun s => { s with turns := (2 * n + 1, i + 1) :: others }
            return if wants then [ofNat i, v] else [ofNat i]
          | none =>
            modify fun s => { s with turns := others }
            return if wants then [] else [.nothing]
        | x =>
          let n ← tableNumber t fuel x
          let i := ((← get).turns.lookup (2 * n)).getD 0
          let others := (← get).turns.filter fun x => x.1 ≠ 2 * n
          match (← tableAt n).entries[i]? with
          | some (k, v) =>
            modify fun s => { s with turns := (2 * n, i + 1) :: others }
            return if wants then [.text k, v] else [.text k]
          | none =>
            modify fun s => { s with turns := others }
            return if wants then [] else [.nothing]
      | "exists", [x] =>
        match x with
        | .entry (.named .table "+") key => return [ofBool (← foundName (← keyText t fuel key)).isGiven]
        | .invoke (.named .procedure p) none => return [ofBool (← procedureValue t fuel (.named .procedure p)).isGiven]
        | x => return [ofBool (← valueIn? (← place t fuel x)).isSome]
      | "delete", [x] =>
        match x with
        | .entry h key =>
          let n ← tableNumber t fuel h
          let k ← keyText t fuel key
          let v := ((← tableAt n).get? k).getD .nothing
          changeTable n fun h => h.erase k
          return [v]
        | .entries h keys =>
          let n ← tableNumber t fuel h
          let ks ← values t fuel keys
          let h ← tableAt n
          for k in ks do changeTable n fun h => h.erase k.toText
          return ks.map fun k => (h.get? k.toText).getD .nothing
        | .declared .saved [x] _ =>
          let pl ← place t fuel x
          let v ← valueIn? pl
          keep (.value pl v)
          match pl with
          | .entry n k => changeTable n fun h => h.erase k
          | pl => store pl .nothing
          return [v.getD .nothing]
        | x =>
          let pl ← place t fuel x
          let v ← valueIn pl
          match pl with
          | .element n i =>
            withList n fun old => (if i + 1 = old.size then old.pop else old.setIfInBounds i .nothing, ())
          | pl => store pl .nothing
          return [v]
      | "undef", [] => return [.nothing]
      | "undef", [x] =>
        match x with
        | .named .list _ | .pointed .list _ => setList (← listNumber t fuel x) #[]
        | .named .table _ | .pointed .table _ => setTable (← tableNumber t fuel x) .empty
        | .invoke _ _ => pure ()
        | x => store (← place t fuel x) .nothing
        return [.nothing]
      | "chomp", _ =>
        let items ← located t fuel (if xs.isEmpty then Reader.topic else .several xs)
        let ending := (← global "/").toText
        let mut count := 0
        for (p, v) in items do
          let s := v.toText
          let short := withoutEnding ending s
          if short.length < s.length then
            store p (.text short)
            count := count + ending.length
        return [ofNat count]
      | "chop", _ =>
        let items ← located t fuel (if xs.isEmpty then Reader.topic else .several xs)
        let mut last := ""
        for (p, v) in items do
          let cs := v.toText.toList
          store p (ofChars cs.dropLast)
          last := String.ofList (cs.drop (cs.length - 1))
        return [.text last]
      | "split", _ =>
        let text ←
          match xs[1]? with
          | some x => do pure (← value t fuel x).toText
          | none => do pure (← namedValue "_").toText
        let limit ←
          match xs[2]? with
          | some x => do pure (← value t fuel x).toInt
          | none => pure 0
        let (source, flags) ←
          match xs.headD (.constant (.text " ")) with
          | .find none _ p flags => do pure ((← value t fuel p).toText, flags)
          | .constant (.text " ") => pure (" ", ['w'])
          | x => do
            let s := (← value t fuel x).toText
            pure (s, if s = " " then ['w'] else [])
        let found ←
          if flags.contains 'w' then pure (words text limit)
          else
            let e ← expressionFor t source (ownFlags flags ++ if source = "^" then ['m'] else [])
            pure (divided e text limit)
        return if wants then found else [ofNat found.length]
      | "reverse", _ =>
        if wants then return (← values t fuel (.several xs)).reverse
        else
          let vs ← if xs.isEmpty then pure [← namedValue "_"] else values t fuel (.several xs)
          return [ofChars (String.join (vs.map Value.toText)).toList.reverse]
      | "wantarray", _ =>
        match (← get).wantsList with
        | some b => return [ofBool b]
        | none => return [.nothing]
      | "substr", x :: rest =>
        let (pl, v) ← placed t fuel x
        let s := v.toText.toList
        let vs ← rest.mapM fun x => value t fuel x
        let length :=
          match vs[1]? with
          | some n => if n.isGiven then some n.toInt else none
          | none => none
        match partOf s.length (vs.headD .nothing).toInt length with
        | none => if 2 < vs.length then fail t "substr outside of string" else return [.nothing]
        | some (start, count) =>
          if let some new := vs[2]? then
            store pl (ofChars (s.take start ++ new.toText.toList ++ s.drop (start + count)))
          return [ofChars ((s.drop start).take count)]
      | "pos", _ =>
        let pl ← place t fuel (xs.headD Reader.topic)
        return [(((← get).positions.lookup pl).map fun x => ofNat x.1).getD .nothing]
      | "time", _ => return [ofInt (← presentSeconds)]
      | "times", _ => return [.real 0.01, .real 0.0, .real 0.0, .real 0.0].map fun v => v
      | "localtime", _ | "gmtime", _ =>
        let seconds ←
          match xs with
          | x :: _ => do pure (← value t fuel x).toInt
          | [] => presentSeconds
        let moment := Moment.ofSeconds seconds
        return if wants then momentParts moment else [ofChars (moment.formatted "%a %b %e %H:%M:%S %Y".toList)]
      | "uniq", _ =>
        let vs ← values t fuel (.several xs)
        let found := (vs.foldl (fun (r : List Value × Std.HashMap String Unit) v =>
          if r.2.contains v.toText then r else (v :: r.1, r.2.insert v.toText ())) ([], {})).1.reverse
        return if wants then found else [ofNat found.length]
      | "shuffle", _ => values t fuel (.several xs)
      | "eval", _ =>
        let text ←
          match xs with
          | x :: _ => do pure (← value t fuel x).toText
          | [] => do pure (← namedValue "_").toText
        evalText t fuel wants text
      | "do", [x] =>
        match contentOf (← doing MonadState.get) (← value t fuel x).toText with
        | .ok b => evalText t fuel wants (String.ofList (charactersOf b))
        | .error u =>
          setFault u.errno
          return [.nothing]
      | "caller", _ =>
        if (← get).calls = 0 then return []
        else
          let parts : List Value := [.text "main", .text t.file, ofNat (← get).line]
          return if wants then parts else [.text "main"]
      | "bless", x :: rest =>
        let v ← value t fuel x
        let c ←
          match rest with
          | x :: _ => do pure (← value t fuel x).toText
          | [] => pure "main"
        modify fun s => { s with classes := (v.toText, c) :: s.classes.filter fun x => x.1 ≠ v.toText }
        return [v]
      | "wait", _ | "waitpid", _ => return [.integer (-1)]
      | "getppid", _ => return [ofNat (← doing MonadState.get).self]
      | _, _ =>
        let _ ← values t fuel (.several xs)
        return if wants then [] else [.nothing]

/-- What a function answers that belongs to an open file or to a class of things. -/
def method (t : Task) : (fuel : Nat) → (wants : Bool) → String → List Term → Running (List Value)
  | 0, _, _, _ => doing hang
  | fuel + 1, wants, name, xs => do
    match xs with
    | [] => return []
    | x :: rest =>
      if (t.program.procedures.lookup name).isSome then
        invoke t fuel wants (.named .procedure name) (some xs)
      else
        match name with
        | "print" => return [← write t fuel .plain (some x) rest]
        | "say" => return [← write t fuel .line (some x) rest]
        | "printf" => return [← write t fuel .formatted (some x) rest]
        | "close" | "binmode" | "eof" => fileFunction t fuel wants name (x :: rest)
        | "getline" => return [← value t fuel (.readLine (some x))]
        | "getlines" => values t fuel (.readLine (some x))
        | "autoflush" =>
          setGlobal "|" (.integer 1)
          return [.integer 1]
        | "flush" =>
          flush
          return [.integer 1]
        | name =>
          let v ← value t fuel x
          match v with
          | .text s =>
            fail t ("Can't locate object method \"" ++ name ++ "\" via package \"" ++ s ++ "\" (perhaps you forgot to load \"" ++
              s ++ "\"?)")
          | .nothing => fail t ("Can't call method \"" ++ name ++ "\" on an undefined value")
          | _ => fail t ("Can't call method \"" ++ name ++ "\" on unblessed reference")

/-- What a function of open files answers. -/
def fileFunction (t : Task) : (fuel : Nat) → (wants : Bool) → String → List Term → Running (List Value)
  | 0, _, _, _ => doing hang
  | fuel + 1, wants, name, xs => do
    let first ← (do
      match name, xs with
      | "open", _ | "opendir", _ | "glob", _ | "stat", _ | "lstat", _ => return Value.nothing
      | _, x :: _ => value t fuel x
      | _, [] => return .nothing : Running Value)
    match name, xs with
    | "open", x :: rest | "opendir", x :: rest =>
      let handle ←
        match x with
        | .constant v => pure (handleOf v)
        | x =>
          let pl ← place t fuel x
          match ← valueIn pl with
          | .nothing =>
            let n := (← get).opened + 1
            let shown :=
              match undeclared x with
              | .named .scalar name => "$" ++ name
              | _ => "__ANONIO__"
            let handle := shown ++ "#" ++ toString n
            modify fun s => { s with opened := n }
            store pl (.handle handle)
            pure handle
          | v => pure (handleOf v)
      let vs ← values t fuel (.several rest)
      let found ← withEnvironment (do
        if name = "opendir" then
          match directoryNames (← doing MonadState.get) (vs.headD .nothing).toText with
          | .ok names =>
            setHandle handle ⟨.input (names.flatMap fun s => s.toList ++ ['\x00']), 0, 0⟩
            return true
          | .error e =>
            setFault e
            return false
        else
          match vs with
          | [] => return false
          | [v] =>
            let (mode, file) := modeAndName v.toText
            openFile t handle mode file []
          | [mode, v] =>
            match v with
            | .place n =>
              let way := mode.toText.trimAscii.toString
              if way.startsWith "<" then
                setHandle handle ⟨.input (← cell n).toText.toList, 0, 0⟩
              else
                if !way.startsWith ">>" then setCell n (.text "")
                setHandle handle ⟨.memory n, 0, 0⟩
              return true
            | v => openFile t handle mode.toText.trimAscii.toString (match v with
              | .handle h => h
              | v => v.toText) []
          | mode :: v :: more => openFile t handle mode.toText.trimAscii.toString v.toText (more.map Value.toText))
      return [ofBool found]
    | "close", _ | "closedir", _ =>
      let selected := (← get).selected
      let h := if xs.isEmpty then selected else handleOf first
      return [ofBool (← withEnvironment (closeHandle t h))]
    | "eof", _ =>
      let reading := (← get).reading.getD "ARGV"
      let h := if xs.isEmpty then reading else handleOf first
      return [ofBool (← isAtEnd h)]
    | "readline", _ =>
      let h := if xs.isEmpty then "ARGV" else handleOf first
      if wants then readRecords t h
      else return [((← readRecord t h).map Value.text).getD .nothing]
    | "readdir", _ =>
      let h := handleOf first
      let cs := (← restOf h).getD []
      let names := (cs.splitOn '\x00').filter (!·.isEmpty)
      if wants then
        setHandle h ⟨.input [], 0, 0⟩
        return names.map ofChars
      else
        setHandle h ⟨.input ((names.drop 1).flatMap fun s => s ++ ['\x00']), 0, 0⟩
        return [(names.head?.map ofChars).getD .nothing]
    | "select", _ =>
      let old := (← get).selected
      if xs.length = 1 then modify fun s => { s with selected := handleOf first }
      if xs.length = 4 then
        let seconds := (← value t fuel (xs.getD 3 (.constant .nothing))).toReal
        waited t fuel (1000.0 * seconds).toUInt64.toNat
      return [.text ("main::" ++ old)]
    | "read", _ :: x :: rest | "sysread", _ :: x :: rest =>
      let h := handleOf first
      let pl ← place t fuel x
      let vs ← rest.mapM fun x => value t fuel x
      let cs := (← restOf h).getD []
      let n := (vs.headD .nothing).toInt.toNat
      if let some found := ← handle? h then
        setHandle h { found with channel := .input (cs.drop n) }
      let kept := (← valueIn pl).toText.toList
      let old := if 1 < vs.length then kept.take (vs.getD 1 .nothing).toInt.toNat else []
      store pl (ofChars (old ++ cs.take n))
      return [ofNat (cs.take n).length]
    | "syswrite", _ :: rest =>
      let vs ← rest.mapM fun x => value t fuel x
      let s := (vs.headD .nothing).toText
      let s := ((vs[1]?).map fun n => String.ofList (s.toList.take n.toInt.toNat)).getD s
      if handleOf first = "STDOUT" then
        let _ ← doing (put? (toBytes s.toList))
      else
        let _ ← writeTo (handleOf first) s
      return [ofNat s.length]
    | "stat", _ | "lstat", _ =>
      let v ← value t fuel (xs.headD Reader.topic)
      let found := fileFacts (← doing MonadState.get) v.toText (name = "stat")
      return if wants then found else [ofBool !found.isEmpty]
    | "glob", _ =>
      let found := pathsOf (← doing MonadState.get) (← value t fuel (xs.headD Reader.topic)).toText
      return if wants then found else [found.headD .nothing]
    | _, _ => return [.integer 1]

end

end Extraction

end Utility

end AddonAtlas.Shell
