import AddonAtlas.Shell.Records.Value
import Std.Data.HashMap

/-!
# Tables

A table gives values to keys. The order in which its keys are gone through is that of lists under the hash
values of the keys, with the key that was used last in front of its list. Keys that were used as numbers have
lists of their own; they get into the lists of texts only when these are needed.
-/

namespace AddonAtlas.Shell.Records

/-- A hash value of a text of bytes: each one is mixed in, and then all is multiplied. -/
def hash (s : String) : Nat :=
  (s.toList.foldl (fun (h : UInt32) c => (h ^^^ c.toNat.toUInt32) * 16777619) 2166136261).toNat

structure Table where
  values : Std.HashMap String Value
  /-- Whether the keys are the numbers from one on, and in no lists yet. -/
  isRow : Bool
  hasTexts : Bool
  /-- The number of lists. -/
  lists : Nat
  byNumber : Array (List Int)
  byText : Array (List String)

namespace Table

/-- The number of lists of a small table. -/
def leastLists : Nat := 64

/-- How long lists may be on average. -/
def meanLength : Nat := 12

def empty : Table :=
  ⟨∅, false, false, leastLists, Array.replicate leastLists [], Array.replicate leastLists []⟩

def size (t : Table) : Nat :=
  t.values.size

/-- Moves something to the front of one of some lists. -/
def moved {α : Type} [BEq α] (lists : Array (List α)) (place : Nat) (x : α) : Array (List α) :=
  lists.modify place fun l => x :: l.filter (· != x)

def numberPlace (t : Table) (n : Int) : Nat :=
  (n % t.lists).toNat

def textPlace (t : Table) (key : String) : Nat :=
  hash key % t.lists

/-- Twice as many lists; each one is divided. -/
def doubled (t : Table) : Table :=
  let n := 2 * t.lists
  let split {α : Type} (place : α → Nat) (lists : Array (List α)) : Array (List α) :=
    (Array.range n).map fun i => (lists.getD (i % t.lists) []).filter fun x => place x % n = i
  { t with
    lists := n
    byNumber := split (fun k => (k % n).toNat) t.byNumber
    byText := split hash t.byText }

/-- The lists for the numbers up to one. -/
def ofRow (t : Table) : Table :=
  if t.isRow then
    let t := { empty with values := t.values }
    let t := grow 60 t
    (List.range t.size).foldl (fun (t : Table) (i : Nat) =>
      let k : Int := (i : Int) + 1
      { t with byNumber := moved t.byNumber (t.numberPlace k) k }) t
  else t
where
  /-- As many lists as are needed. -/
  grow : (fuel : Nat) → Table → Table
    | 0, t => t
    | fuel + 1, t => if t.size > t.lists * meanLength then grow fuel t.doubled else t

/-- Puts the keys that were used as numbers into the lists of texts. -/
def withTexts (t : Table) : Table :=
  if t.hasTexts then t
  else
    let t := t.ofRow
    let keys := t.byNumber.toList.flatten.map fun k => toString k
    let byText := keys.foldl (fun lists k =>
      let place := hash k % t.lists
      if (lists.getD place []).contains k then lists else lists.modify place (k :: ·)) t.byText
    { t with byText := byText, hasTexts := true }

/-- How a key is used. -/
inductive Key
  | number (n : Int)
  | text (s : String)

def Key.name : Key → String
  | number n => toString n
  | text s => s

/-- The table after a key was looked up by its text, and whether it is there. -/
def foundText (t : Table) (key : String) (creates : Bool) : Table × Bool :=
  let t := t.withTexts
  if t.values.contains key then ({ t with byText := moved t.byText (t.textPlace key) key }, true)
  else if creates then
    let t := { t with values := t.values.insert key .nothing }
    let t := if t.size > t.lists * meanLength then t.doubled else t
    ({ t with byText := moved t.byText (t.textPlace key) key }, true)
  else (t, false)

/-- The table after a key was looked up by its number, and whether it is there. -/
def foundNumber (t : Table) (n : Int) (creates : Bool) : Table × Bool :=
  let key := toString n
  if t.isRow && (1 ≤ n && n ≤ t.size) then (t, true)
  else if t.isRow && !creates then (t, false)
  else
    let t := t.ofRow
    if (t.byNumber.getD (t.numberPlace n) []).contains n then
      ({ t with byNumber := moved t.byNumber (t.numberPlace n) n }, true)
    else if t.hasTexts then
      let (t, isThere) := t.foundText key creates
      if isThere then ({ t with byNumber := moved t.byNumber (t.numberPlace n) n }, true) else (t, false)
    else if creates then
      let t := { t with values := t.values.insert key .nothing }
      let t := if t.size > t.lists * meanLength then t.doubled else t
      ({ t with byNumber := moved t.byNumber (t.numberPlace n) n }, true)
    else (t, false)

/-- The table after a key was looked up, and whether it is there. A key that is not may be added. -/
def found (t : Table) (key : Key) (creates : Bool) : Table × Bool :=
  if t.size = 0 && !creates then (t, false)
  else
    match key with
    | .number n => t.foundNumber n creates
    | .text s => t.foundText s creates

def value (t : Table) (key : Key) : Value :=
  t.values.getD key.name .nothing

def set (t : Table) (key : Key) (v : Value) : Table :=
  { t with values := t.values.insert key.name v }

/-- The table without a key. -/
def erase (t : Table) (key : Key) : Table :=
  let (t, isThere) := t.found key false
  if isThere then
    let t : Table := t.ofRow
    let name := key.name
    let t : Table :=
      { t with
        values := t.values.erase name
        byNumber := t.byNumber.map fun l => l.filter fun k => toString k != name
        byText := t.byText.modify (t.textPlace name) fun l => l.filter (· != name) }
    if t.size = 0 then empty else t
  else t

/-- The keys in their order. -/
def keys (t : Table) : Table × List String :=
  if t.size = 0 then (t, [])
  else
    let t := t.withTexts
    (t, t.byText.toList.flatten)

/-- The table that has values for the numbers from one on. -/
def ofList (values : List Value) : Table :=
  let pairs := values.zipIdx 1 |>.map fun (v, i) => (toString i, v)
  if pairs.isEmpty then empty
  else { empty with values := Std.HashMap.ofList pairs, isRow := true }

end Table

end AddonAtlas.Shell.Records
