import AddonAtlas.Yaml.Lexer
import AddonAtlas.Yaml.Scalar

/-!
# Nodes

A document is made of nodes, each with a tag: scalars, sequences and mappings. They are read off the
tokens by the document grammar, and are numbered in the order of their beginnings. A name given to a
node stands for it from its beginning on, so a node may stand in several places, and in itself. A
document holds one root only, and each name is given once.
-/

namespace AddonAtlas.Yaml

/-- What a node holds. Other nodes stand in it by their numbers. -/
inductive Content
  | scalar (text : String)
  | sequence (items : List Nat)
  | mapping (entries : List (Nat × Nat))
deriving DecidableEq, Repr

structure Node where
  tag : Tag
  content : Content
deriving DecidableEq, Repr

instance : Inhabited Node := ⟨.other, .scalar ""⟩

/-- The nodes of a document by their numbers. -/
abbrev Graph := Array Node

/-- The nodes of a text, and the number of the one that holds the others. -/
structure Document where
  nodes : Graph
  root : Nat

/-- The failure of what goes on without end, or takes more than `maxDepth` steps inside of each other. -/
def endless : Failure :=
  .tooDeep ""

/-- The same failure, of a step that makes something. -/
def endlessMaking : Failure :=
  .tooDeep " while calling a Python object"

/-- How many steps may stand inside of each other while a document is read. -/
def maxDepth : Nat := 989

namespace Document

/-! ## Reading -/

/-- The tokens that are left, and what the document has laid down. -/
structure Source where
  tokens : TokenList
  /-- The nodes that were begun. -/
  nodes : Graph
  /-- The named ones among them. -/
  names : List (String × Nat)
  /-- What the tag handles stand for. -/
  handles : List (String × String)
  /-- How many steps may still stand inside of each other. -/
  depth : Nat
  /-- Whether the last token was taken. -/
  isDone : Bool

abbrev Reader := StateT Source (Except Fault)

def malformed {α : Type} : Reader α :=
  throw .malformed

/-- Why a token cannot be taken with some steps left, if it cannot. Making its place fails in its own way. -/
def Effort.failure? (left : Nat) (e : Effort) : Option Failure :=
  if left < 4 || (e.endsBlocks && left < 5) then some endless
  else if left < e.depth then some (if left + 1 = e.making then endlessMaking else endless)
  else none

/-- Gets at the next token, some steps inside of what is being read. -/
def reach (step : Nat) : Reader Unit := do
  let s ← get
  if s.depth < step + (if s.isDone then 1 else 2) then throw (.value endless)
  let efforts :=
    match s.tokens.tokens with
    | t :: _ => t.efforts
    | [] => s.tokens.efforts
  if let some f := efforts.findSome? (Effort.failure? (s.depth - step)) then throw (.value f)
  if !efforts.isEmpty then
    let tokens :=
      match s.tokens.tokens with
      | t :: rest => { s.tokens with tokens := { t with efforts := [] } :: rest }
      | [] => { s.tokens with efforts := [] }
    set { s with tokens := tokens, isDone := s.isDone || efforts.any (·.isLast) }

/-- The next token; at the end that of the end. Behind the last token there may be a fault. -/
def peek (step : Nat) : Reader Token := do
  reach step
  let ⟨tokens, fault?, _⟩ := (← get).tokens
  match tokens, fault? with
  | t :: _, _ => return t.token
  | [], some f => throw f
  | [], none => return .streamEnd

def advance : Reader Unit :=
  modify fun s => { s with tokens := { s.tokens with tokens := s.tokens.tokens.drop 1 } }

/-- Takes a token if it is the next one. -/
def accept (step : Nat) (t : Token) : Reader Bool := do
  if (← peek step) = t then
    advance
    return true
  else return false

def expect (step : Nat) (t : Token) : Reader Unit := do
  if !(← accept step t) then malformed

/-- Begins a node. A name for it must not have been given before. -/
def addNode (name : Option String) (tag : Tag) (content : Content) : Reader Nat := do
  let s ← get
  if name.any fun a => s.names.any fun n => n.1 = a then malformed
  modifyGet fun s =>
    let number := s.nodes.size
    let names := (name.map fun a => (a, number)).toList ++ s.names
    (number, { s with nodes := s.nodes.push ⟨tag, content⟩, names := names })

/-- Completes a collection by what was read for it. -/
def fill (number : Nat) (content : Content) : Reader Nat := do
  modify fun s => { s with nodes := s.nodes.modify number fun n => { n with content := content } }
  return number

/-- What stands inside of a collection, two steps farther in. -/
def inside {α : Type} (members : Reader α) : Reader α := do
  let depth := (← get).depth
  modify fun s => { s with depth := depth - 2 }
  reach 3
  let a ← members
  modify fun s => { s with depth := depth }
  return a

/-- The node where nothing is written. -/
def blank : Reader Nat :=
  addNode none (plainTag "") (.scalar "")

/-- What a tag's text stands for. -/
def tagOf (t : TagText) : Reader String := do
  match t.handle with
  | none => return t.suffix
  | some handle =>
    match (← get).handles.find? fun h => h.1 = handle with
    | some (_, leading) => return leading ++ t.suffix
    | none => malformed

/-- The name and the tag in front of a node, in either order. -/
def properties (step : Nat) : Reader (Option String × Option String) := do
  match ← peek step with
  | .anchor name =>
    advance
    match ← peek step with
    | .tag t =>
      advance
      return (some name, some (← tagOf t))
    | _ => return (some name, none)
  | .tag t =>
    advance
    match ← peek step with
    | .anchor name =>
      advance
      return (some name, some (← tagOf t))
    | _ => return (none, some (← tagOf t))
  | _ => return (none, none)

/-- The tag of a collection. The tag `!` is the same as none. -/
def collectionTag (usual : Tag) (tag : Option String) : Tag :=
  match tag with
  | none => usual
  | some "!" => usual
  | some t => Tag.ofName t

/-- The tag of a scalar. Without a tag, or with the tag `!`, the text of a plain one decides. -/
def scalarTag (plain : Bool) (tag : Option String) (text : String) : Tag :=
  match tag with
  | none => if plain then plainTag text else .text
  | some "!" => plainTag text
  | some t => Tag.ofName t

/-- Whether a token ends an entry of a block mapping. -/
def endsEntry (t : Token) : Bool :=
  t = .key || t = .value || t = .blockEnd

/-- The step at which entries of a collection are read, except for the first entry. -/
def entryStep : Nat := 3

/-- The step at which the first entry of a collection is read, or what stands behind a colon. -/
def valueStep : Nat := 4

mutual

/-- A node, by the step at which what it stands in is read. In flow collections blocks cannot begin; only as
a mapping's key or value, a sequence may be indented as much as the mapping. -/
def read : (fuel : Nat) → (step : Nat) → (inBlock unindented : Bool) → Reader Nat
  | 0, _, _, _ => malformed
  | fuel + 1, outerStep, inBlock, unindented => do
    let step := outerStep + 2
    match ← peek step with
    | .alias name =>
      advance
      match (← get).names.find? fun n => n.1 = name with
      | some (_, n) => return n
      | none => malformed
    | _ =>
      let (name, tag) ← properties step
      let empty : Reader Nat :=
        if name.isSome || tag.isSome then addNode name (scalarTag true tag "") (.scalar "")
        else malformed
      let sequence (items : Reader (List Nat)) : Reader Nat := do
        let number ← addNode name (collectionTag .sequence tag) (.sequence [])
        fill number (.sequence (← inside items))
      let mapping (entries : Reader (List (Nat × Nat))) : Reader Nat := do
        let number ← addNode name (collectionTag .mapping tag) (.mapping [])
        fill number (.mapping (← inside (advance *> entries)))
      match ← peek step with
      | .scalar text plain =>
        advance
        addNode name (scalarTag plain tag text) (.scalar text)
      | .flowSequenceStart => sequence (advance *> readFlowSequence fuel valueStep [])
      | .flowMappingStart => mapping (readFlowMapping fuel valueStep [])
      | .blockEntry =>
        if unindented then sequence (readUnindented fuel []) else empty
      | .blockSequenceStart =>
        if inBlock then sequence (advance *> readBlockSequence fuel valueStep []) else empty
      | .blockMappingStart => if inBlock then mapping (readBlockMapping fuel valueStep []) else empty
      | _ => empty

/-- The items of a block sequence. -/
def readBlockSequence : (fuel : Nat) → (step : Nat) → (items : List Nat) → Reader (List Nat)
  | 0, _, _ => malformed
  | fuel + 1, step, items => do
    if ← accept step .blockEntry then
      let next ← peek step
      let item ←
        if next = .blockEntry || next = .blockEnd then blank else read fuel step true false
      readBlockSequence fuel entryStep (item :: items)
    else
      expect step .blockEnd
      return items.reverse

/-- The items of a block sequence that is indented as much as the mapping around it. -/
def readUnindented : (fuel : Nat) → (items : List Nat) → Reader (List Nat)
  | 0, _ => malformed
  | fuel + 1, items => do
    if ← accept entryStep .blockEntry then
      let next ← peek entryStep
      let item ←
        if next = .blockEntry || endsEntry next then blank else read fuel entryStep true false
      readUnindented fuel (item :: items)
    else return items.reverse

/-- The entries of a block mapping. -/
def readBlockMapping : (fuel : Nat) → (step : Nat) → (entries : List (Nat × Nat)) →
    Reader (List (Nat × Nat))
  | 0, _, _ => malformed
  | fuel + 1, step, entries => do
    if ← accept step .key then
      let key ← if endsEntry (← peek step) then blank else read fuel step true true
      let value ←
        if ← accept valueStep .value then
          if endsEntry (← peek valueStep) then blank else read fuel valueStep true true
        else blank
      readBlockMapping fuel entryStep ((key, value) :: entries)
    else
      expect step .blockEnd
      return entries.reverse

/-- The items of a flow sequence. A single pair may stand for a mapping. -/
def readFlowSequence : (fuel : Nat) → (step : Nat) → (items : List Nat) → Reader (List Nat)
  | 0, _, _ => malformed
  | fuel + 1, step, items => do
    if ← accept step .flowSequenceEnd then return items.reverse
    if step = entryStep then expect step .flowEntry
    if ← accept step .key then
      let number ← addNode none .mapping (.mapping [])
      let ends (t : Token) : Bool := t = .flowEntry || t = .flowSequenceEnd
      let entry ← inside do
        let next ← peek entryStep
        let key ← if next = .value || ends next then blank else read fuel entryStep false false
        let value ←
          if ← accept valueStep .value then
            if ends (← peek valueStep) then blank else read fuel valueStep false false
          else blank
        return (key, value)
      readFlowSequence fuel entryStep ((← fill number (.mapping [entry])) :: items)
    else if ← accept step .flowSequenceEnd then return items.reverse
    else
      let item ← read fuel step false false
      readFlowSequence fuel entryStep (item :: items)

/-- The entries of a flow mapping. -/
def readFlowMapping : (fuel : Nat) → (step : Nat) → (entries : List (Nat × Nat)) →
    Reader (List (Nat × Nat))
  | 0, _, _ => malformed
  | fuel + 1, step, entries => do
    if ← accept step .flowMappingEnd then return entries.reverse
    if step = entryStep then expect step .flowEntry
    let ends (t : Token) : Bool := t = .flowEntry || t = .flowMappingEnd
    if ← accept step .key then
      let next ← peek step
      let key ← if next = .value || ends next then blank else read fuel step false false
      let value ←
        if ← accept valueStep .value then
          if ends (← peek valueStep) then blank else read fuel valueStep false false
        else blank
      readFlowMapping fuel entryStep ((key, value) :: entries)
    else if ← accept step .flowMappingEnd then return entries.reverse
    else
      let key ← read fuel step false false
      reach valueStep
      readFlowMapping fuel entryStep ((key, ← blank) :: entries)

end

/-! ## Documents -/

/-- The handles every document has. -/
def usualHandles : List (String × String) :=
  [("!", "!"), ("!!", "tag:yaml.org,2002:")]

/-- Takes the directives in front of a document. -/
def readDirectives : (fuel : Nat) → (versioned : Bool) → (handles : List (String × String)) →
    Reader (List (String × String))
  | 0, _, _ => malformed
  | fuel + 1, versioned, handles => do
    match ← peek 1 with
    | .directive (.version major _) =>
      if versioned || major != 1 then malformed
      advance
      readDirectives fuel true handles
    | .directive (.tag handle leading) =>
      if handles.any fun h => h.1 = handle then malformed
      advance
      readDirectives fuel versioned ((handle, leading) :: handles)
    | .directive .other =>
      advance
      readDirectives fuel versioned handles
    | _ => return handles

/-- Takes the marks at the end of a document. -/
def skipDocumentEnds : (fuel : Nat) → Reader Unit
  | 0 => return
  | fuel + 1 => do
    if ← accept 1 .documentEnd then skipDocumentEnds fuel

/-- The only document of the tokens, if there is one at all. -/
def readDocument (fuel : Nat) : Reader (Option Nat) := do
  let explicit ←
    match ← peek 1 with
    | .directive _ | .documentStart => pure true
    | _ => pure false
  if (← peek 1) = .streamEnd then return none
  if explicit then
    let handles ← readDirectives fuel false []
    modify fun s => { s with handles := handles ++ usualHandles }
    expect 1 .documentStart
  let root ←
    match ← peek 1 with
    | .directive _ | .documentStart | .documentEnd | .streamEnd =>
      if explicit then blank else malformed
    | _ => read fuel 1 true false
  skipDocumentEnds fuel
  if (← peek 1) = .streamEnd then return some root
  else
    let _ ← readDirectives fuel false []
    malformed

/-- The document that a text holds; nothing if it holds none. -/
def ofText (text : List Char) : Except Fault (Option Document) := do
  let tokens := TokenList.ofText text
  let (root, source) ←
    (readDocument (4 * tokens.tokens.length + 8)).run ⟨tokens, #[], [], usualHandles, maxDepth, false⟩
  return root.map fun number => ⟨source.nodes, number⟩

end Document

end AddonAtlas.Yaml
