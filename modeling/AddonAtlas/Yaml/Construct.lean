import AddonAtlas.Text.Base64
import AddonAtlas.Text.LetterCase
import AddonAtlas.Value.SetOrder
import AddonAtlas.Yaml.Node

/-!
# The values of nodes

A node is made into a value once, according to its tag, and is that value wherever it stands.
Collections begin empty, and are filled in the order of their beginnings, after all values that stand
beside them were made. So of several faults the one nearest to the root is reported, and of those the
first.
-/

namespace AddonAtlas.Yaml

open AddonAtlas.Number AddonAtlas.Text

def Fault.ofCalendar (f : Calendar.Fault) : Fault :=
  .value ⟨.value, f.message⟩

/-! ## Scalars -/

def boolOf (text : String) : Except Fault Value :=
  let word := String.ofList (lowercase text.toList)
  if ["yes", "true", "on"].contains word then .ok (.bool true)
  else if ["no", "false", "off"].contains word then .ok (.bool false)
  else .error (.value ⟨.key, quoted word⟩)

/-- A number without underscores and sign, with the sign. An empty text has none. -/
def signOf (text : String) : Except Fault (Bool × List Char) :=
  match text.toList.filter (· != '_') with
  | [] => .error (.value ⟨.index, "string index out of range"⟩)
  | cs => .ok (splitSign cs)

/-- The integers of the parts between colons. -/
def sixtieths (parts : List (List Char)) : Except Fault (List Int) :=
  parts.mapM fun p => (readInteger (String.ofList p)).mapError Fault.ofInteger

def intOf (text : String) : Except Fault Int := do
  let (negative, cs) ← signOf text
  let word := String.ofList cs
  let magnitude ←
    match cs with
    | [] => .error (.value ⟨.index, "string index out of range"⟩)
    | ['0'] => pure 0
    | '0' :: 'b' :: rest => (readInBase 2 (String.ofList rest)).mapError Fault.ofInteger
    | '0' :: 'x' :: rest => (readInBase 16 (String.ofList rest)).mapError Fault.ofInteger
    | '0' :: _ => (readInBase 8 word).mapError Fault.ofInteger
    | _ =>
      if cs.contains ':' then do
        let parts ← sixtieths (cs.splitOn ':')
        pure (parts.foldl (fun n d => 60 * n + d) 0)
      else (readInteger word).mapError Fault.ofInteger
  return if negative then -magnitude else magnitude

/-- The real number of a part between colons. -/
def realPart (cs : List Char) : Except Fault Binary64 :=
  match readReal? (String.ofList cs) with
  | some x => .ok x
  | none =>
    .error (.value ⟨.value, "could not convert string to float: " ++ quoted (String.ofList cs)⟩)

/-- The sum of parts, the last first, each times sixty more than the one before. -/
def sexagesimal (base : Nat) (sum : Binary64) : List Binary64 → Except Fault Binary64
  | [] => .ok sum
  | x :: rest =>
    match Binary64.ofInt base with
    | .finite s m e => sexagesimal (60 * base) (sum.add (x.scale (.finite s m e))) rest
    | _ => .error (.value ⟨.overflow, "int too large to convert to float"⟩)

/-- The sign of a real number and what follows it, in lower case. -/
def realWord (text : String) : Except Fault (Bool × List Char) :=
  signOf (String.ofList (lowercase text.toList))

def nanWord : List Char := ".nan".toList

def realOf (text : String) : Except Fault Binary64 := do
  let (negative, cs) ← realWord text
  let magnitude ←
    if cs = ".inf".toList then pure (.infinite false)
    else if cs = nanWord then pure .nan
    else if cs.contains ':' then do
      let parts ← (cs.splitOn ':').mapM realPart
      sexagesimal 1 (.zero false) parts.reverse
    else realPart cs
  return if negative then magnitude.neg else magnitude

/-- The millionths that the digits of a fraction stand for. -/
def micros (ds : List Char) : Nat :=
  let ds := ds.take 6
  ofAsciiDigits (ds ++ List.replicate (6 - ds.length) '0')

def timestampOf (text : String) : Except Fault Value :=
  match Timestamp.of? (dropNewline text.toList) with
  | none => .error (.value ⟨.attribute, "'NoneType' object has no attribute 'groupdict'"⟩)
  | some t =>
    let year := ofAsciiDigits t.year
    let month := ofAsciiDigits t.month
    let day := ofAsciiDigits t.day
    match t.time with
    | none => ((Calendar.Date.of year month day).map .date).mapError Fault.ofCalendar
    | some (hour, minute, second, fraction) =>
      ((Calendar.Moment.of year month day (ofAsciiDigits hour) (ofAsciiDigits minute)
        (ofAsciiDigits second) (micros fraction) t.offset).map .moment).mapError Fault.ofCalendar

def binaryOf (text : String) : Except Fault Value :=
  if text.toList.any fun c => 127 < c.toNat then .error .malformed
  else
    match base64? text with
    | some bs => .ok (.bytes bs)
    | none => .error .malformed

namespace Graph

def node (g : Graph) (n : Nat) : Node :=
  g.getD n default

/-- The text of a node: a scalar's own, a mapping's that of its default value. A way without return is
no longer than there are nodes. -/
def textAlong (g : Graph) : (fuel : Nat) → Nat → Except Fault String
  | 0, _ => .error (.value endless)
  | fuel + 1, n =>
    match (g.node n).content with
    | .scalar s => .ok s
    | .sequence _ => .error .malformed
    | .mapping entries =>
      match entries.find? fun e => (g.node e.1).tag = .default with
      | some (_, v) => textAlong g fuel v
      | none => .error .malformed

def text (g : Graph) (n : Nat) : Except Fault String :=
  g.textAlong (g.size + 1) n

/-- The moment or date of a node. A mapping is none, even with a default value. -/
def timestamp (g : Graph) (n : Nat) : Except Fault Value := do
  let s ← g.text n
  match (g.node n).content with
  | .scalar _ => timestampOf s
  | _ => .error (.value ⟨.type, "expected string or bytes-like object, got 'list'"⟩)

/-! ## Merged entries -/

/-- The entries of a mapping. -/
def entries (g : Graph) (n : Nat) : List (Nat × Nat) :=
  match (g.node n).content with
  | .mapping entries => entries
  | _ => []

def setEntries (g : Graph) (n : Nat) (entries : List (Nat × Nat)) : Graph :=
  g.modify n fun x => { x with content := .mapping entries }

/-- Whether the value of an entry is to be merged in. -/
def isMerge (g : Graph) (e : Nat × Nat) : Bool :=
  (g.node e.1).tag = .merge

/-- A key that would stand for a mapping's value is a text when it is a key. -/
def nameKey (g : Graph) (e : Nat × Nat) : Graph :=
  g.modify e.1 fun x => if x.tag = .default then { x with tag := .text } else x

/-- The number of entries to be merged in. -/
def mergeCount (g : Graph) : Nat :=
  ((List.range g.size).map fun n => ((g.entries n).filter g.isMerge).length).sum

/-- Puts the entries that are merged in for a mapping in front of its own; `merged` has those found
before. An entry that asks for them is removed first, so that there is one less in each step, and a
fuel beyond their number is enough. -/
def flattenOnto : (fuel : Nat) → (merged : List (Nat × Nat)) → Nat → Graph → Except Fault Graph
  | 0, _, _, _ => .error .malformed
  | fuel + 1, merged, n, g => do
    match (g.node n).content with
    | .mapping entries =>
      match entries.find? g.isMerge with
      | none => .ok ((entries.foldl nameKey g).setEntries n (merged ++ entries))
      | some (_, v) =>
        let g := g.setEntries n (entries.eraseP g.isMerge)
        match (g.node v).content with
        | .mapping _ =>
          let g ← flattenOnto fuel [] v g
          flattenOnto fuel (merged ++ g.entries v) n g
        | .sequence items =>
          let (g, found) ← items.foldlM (fun (g, found) item => do
            let g ← flattenOnto fuel [] item g
            return (g, g.entries item ++ found)) (g, [])
          flattenOnto fuel (merged ++ found) n g
        | .scalar _ => .error .malformed
    | _ => .error .malformed

/-! ## Keys -/

/-- What tells a key apart from others that are equal to nothing. All that are written as the word for
what is not a number are one, and every other node is one of its own. -/
def identity (g : Graph) (n : Nat) : Nat :=
  let isNan :=
    (g.node n).tag = .real &&
      (((g.text n).bind realWord).toOption.map (·.2)) == some nanWord
  if isNan then 0 else n + 1

end Graph

/-- A key with what tells it apart. -/
structure Key where
  value : Value
  identity : Nat

def Key.isSame (a b : Key) : Bool :=
  a.identity = b.identity || a.value.equals b.value

/-- Puts an entry into a mapping's entries. A key that is there keeps its place. -/
def insertEntry (key : Key) (value : Value) : List (Key × Value) → List (Key × Value)
  | [] => [(key, value)]
  | (k, v) :: rest =>
    if k.isSame key then (k, value) :: rest else (k, v) :: insertEntry key value rest

/-! ## Collections -/

/-- What was made of a document so far. -/
structure Making where
  nodes : Graph
  /-- The number of entries to be merged in, before any was. -/
  merges : Nat
  /-- The values of nodes. -/
  values : Array (Option Value)
  collections : Collections
  /-- The nodes with collections, in the order in which these are filled, and the collections'
  numbers. -/
  order : Array (Nat × Nat)

abbrev Maker := StateT Making (Except Fault)

def fail {α : Type} : Maker α :=
  throw .malformed

/-- Adds a collection, and refers to it. -/
def addCollection (v : Value) : Maker Nat := do
  let number := (← get).collections.size
  modify fun m => { m with collections := m.collections.push v }
  return number

/-- Begins the collection of a node, to be filled later. -/
def begin (n : Nat) (empty : Value) : Maker Value := do
  let number ← addCollection empty
  modify fun m => { m with order := m.order.push (n, number) }
  return .ref number

/-- The value of a node that was not made before. -/
def makeValue (n : Nat) : Maker Value := do
  let g := (← get).nodes
  match (g.node n).tag with
  | .null => (g.text n).map fun _ => .null
  | .bool => (g.text n).bind boolOf
  | .int => return .int (← (g.text n).bind intOf)
  | .real => return .real (← (g.text n).bind realOf)
  | .binary => (g.text n).bind binaryOf
  | .timestamp => g.timestamp n
  | .text => return .text (← g.text n)
  | .orderedMap | .pairs | .sequence => begin n (.list [])
  | .set => begin n (.set [])
  | .mapping => begin n (.map [])
  | .merge | .default | .other => fail

/-- The value of a node. -/
def valueOf (n : Nat) : Maker Value := do
  match (← get).values.getD n none with
  | some v => return v
  | none =>
    let v ← makeValue n
    modify fun m => { m with values := m.values.setIfInBounds n (some v) }
    return v

/-- The entries of a mapping, with those that are merged in. A collection is no key. -/
def makeEntries (n : Nat) : Maker (List (Key × Value)) := do
  let merges := (← get).merges
  let g ← Graph.flattenOnto (merges + 1) [] n (← modifyGet fun m => (m.nodes, { m with nodes := #[] }))
  modify fun m => { m with nodes := g }
  (g.entries n).foldlM (fun made (k, v) => do
    match ← valueOf k with
    | .ref _ => fail
    | key =>
      let value ← valueOf v
      return insertEntry ⟨key, g.identity k⟩ value made) []

/-- The pair of a mapping with one entry. -/
def makePair (n : Nat) : Maker Value := do
  match ((← get).nodes.node n).content with
  | .mapping [(k, v)] =>
    let key ← valueOf k
    let value ← valueOf v
    return .ref (← addCollection (.pair key value))
  | _ => fail

/-- What a node's collection holds. -/
def makeMembers (n : Nat) : Maker Value := do
  let node := (← get).nodes.node n
  match node.tag, node.content with
  | .sequence, .sequence items => return .list (← items.mapM valueOf)
  | .orderedMap, .sequence items | .pairs, .sequence items => return .list (← items.mapM makePair)
  | .mapping, .mapping _ => return .map ((← makeEntries n).map fun e => (e.1.value, e.2))
  | .set, .mapping _ => return .set (Value.setOrder ((← makeEntries n).map (·.1.value)))
  | _, _ => fail

/-- Fills the collections from a place in their order on. Each node's is filled once. -/
def fillFrom : (fuel : Nat) → (place : Nat) → Maker Unit
  | 0, _ => return
  | fuel + 1, place => do
    match (← get).order[place]? with
    | none => return
    | some (n, number) =>
      let v ← makeMembers n
      modify fun m => { m with collections := m.collections.setIfInBounds number v }
      fillFrom fuel (place + 1)

/-- The value of a document's root, and the collections in it. -/
def Document.value (d : Document) : Except Fault (Value × Collections) := do
  let make : Maker Value := do
    let v ← valueOf d.root
    fillFrom (d.nodes.size + 1) 0
    return v
  let (v, made) ← make.run ⟨d.nodes, d.nodes.mergeCount, Array.replicate d.nodes.size none, #[], #[]⟩
  return (v, made.collections)

/-- The value that a text stands for; a text without a document stands for nothing. -/
def load (text : List Char) : Except Fault (Value × Collections) := do
  match ← Document.ofText text with
  | none => return (.null, #[])
  | some d => d.value

end AddonAtlas.Yaml
