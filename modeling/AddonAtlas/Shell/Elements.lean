import AddonAtlas.Number.Instances

/-!
# Lists of values

A variable of the wide dialect may hold values at places, which are numbers or names. Numbered ones are listed
in the order of their numbers, named ones by the slots of a table in which their names are kept, the latest first
in each slot.
-/

namespace AddonAtlas.Shell

structure Elements where
  isNamed : Bool
  /-- Places with their values, the latest place first. -/
  items : List (String × String)
  /-- Whether it was given any values, be it none at all. -/
  isAssigned : Bool := true
deriving DecidableEq, Repr

namespace Elements

/-- A list without values. -/
def empty (isNamed : Bool) : Elements :=
  { isNamed := isNamed, items := [] }

/-- A list that was not given any values. -/
def declared (isNamed : Bool) : Elements :=
  { isNamed := isNamed, items := [], isAssigned := false }

def get? (e : Elements) (place : String) : Option String :=
  (e.items.find? fun x => x.1 = place).map (·.2)

def insert (e : Elements) (place value : String) : Elements :=
  if e.items.any fun x => x.1 = place then
    { e with items := e.items.map fun x => if x.1 = place then (place, value) else x }
  else { e with items := (place, value) :: e.items, isAssigned := true }

def erase (e : Elements) (place : String) : Elements :=
  { e with items := e.items.filter fun x => x.1 ≠ place }

/-- The slot of a name. -/
def slot (name : String) : Nat :=
  name.toList.foldl (fun h c => (h * 16777619 % 2 ^ 32) ^^^ c.toNat) 2166136261 % 1024

/-- The number that orders a place. -/
def rank (e : Elements) (place : String) : Nat :=
  if e.isNamed then slot place else place.toNat?.getD 0

/-- Places with their values, in the order in which they are listed. -/
def listed (e : Elements) : List (String × String) :=
  e.items.mergeSort fun a b => decide (e.rank a.1 ≤ e.rank b.1)

def values (e : Elements) : List String :=
  e.listed.map (·.2)

def places (e : Elements) : List String :=
  e.listed.map (·.1)

/-- The number behind all numbered places. -/
def next (e : Elements) : Nat :=
  (e.items.map fun x => x.1.toNat?.getD 0 + 1).foldl max 0

/-- Values at the places from zero on. -/
def ofValues (values : List String) : Elements :=
  { isNamed := false, items := (values.zipIdx.map fun (v, i) => (toString i, v)).reverse }

end Elements

end AddonAtlas.Shell
