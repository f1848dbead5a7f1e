import AddonAtlas.Calendar
import AddonAtlas.Failure
import AddonAtlas.Number.Integer
import AddonAtlas.Number.Shortest
import AddonAtlas.Text.Quoted
import AddonAtlas.Text.Utf8

/-!
# Values of any type

Settings files and callers hand over values whose type is not known in advance. A value has two
texts: `Value.asText`, used where a text is needed, and `Value.shown`, used inside messages and inside
the text of a list or a map. They differ for texts and dates.

A collection may belong to several others, and even to itself. Such collections have numbers, and stand
in other values as references to these. Whoever looks into a value is given the `Collections` that its
references lead to. A value without references needs none.
-/

namespace AddonAtlas

open AddonAtlas.Number AddonAtlas.Text

/-- A value of any type. Maps and sets keep the order of their members. -/
inductive Value
  | null
  | bool (b : Bool)
  | int (n : Int)
  | real (x : Binary64)
  | text (s : String)
  | bytes (bs : List UInt8)
  | date (d : Calendar.Date)
  | moment (t : Calendar.Moment)
  | list (items : List Value)
  | pair (key value : Value)
  | set (items : List Value)
  | map (entries : List (Value × Value))
  /-- The collection of this number. -/
  | ref (number : Nat)

/-- Collections by their numbers. None of them is a reference itself. -/
abbrev Collections := Array Value

namespace Value

instance : Inhabited Value := ⟨null⟩

/-- The value itself, or the collection it refers to. -/
def resolve (v : Value) (within : Collections := #[]) : Value :=
  match v with
  | ref n => within.getD n null
  | v => v

/-! ## Texts -/

/-- Bytes between quotes, those that are not printable ASCII escaped. -/
def bytesShown (bs : List UInt8) : String :=
  let chars := bs.map fun b => Char.ofNat b.toNat
  let q := quoteFor chars
  let one (c : Char) : List Char :=
    if 127 ≤ c.toNat then '\\' :: 'x' :: hexDigits 2 c.toNat else quoteChar q c
  String.ofList ('b' :: q :: chars.flatMap one ++ [q])

/-- What is shown of a collection inside of itself. -/
def dots : Value → String
  | map _ => "\x7b...\x7d"
  | pair _ _ => "(...)"
  | set _ => "set(...)"
  | _ => "[...]"

mutual

/-- A value as it is shown, where `one` shows the collection of a number. -/
def shownBy (one : Nat → String) : Value → String
  | null => "None"
  | bool b => if b then "True" else "False"
  | int n => toString n
  | real x => x.text
  | text s => quoted s
  | bytes bs => bytesShown bs
  | date d => d.shown
  | moment t => t.shown
  | list items => "[" ++ ", ".intercalate (itemsShownBy one items) ++ "]"
  | pair k v => "(" ++ shownBy one k ++ ", " ++ shownBy one v ++ ")"
  | set items =>
    if items.isEmpty then "set()"
    else "\x7b" ++ ", ".intercalate (itemsShownBy one items) ++ "\x7d"
  | map entries => "\x7b" ++ ", ".intercalate (entriesShownBy one entries) ++ "\x7d"
  | ref n => one n

/-- The members of a list, each as it is shown. -/
def itemsShownBy (one : Nat → String) : List Value → List String
  | [] => []
  | v :: rest => shownBy one v :: itemsShownBy one rest

/-- The entries of a map, each as it is shown. -/
def entriesShownBy (one : Nat → String) : List (Value × Value) → List String
  | [] => []
  | (k, v) :: rest => (shownBy one k ++ ": " ++ shownBy one v) :: entriesShownBy one rest

end

/-- The collection of a number as it is shown inside of those whose numbers are given. A way into
collections that are not yet around is no longer than there are collections. -/
def numberShown (within : Collections) : (depth : Nat) → (around : List Nat) → Nat → String
  | 0, _, _ => ""
  | depth + 1, around, n =>
    let v := within.getD n null
    if n ∈ around then v.dots else v.shownBy (numberShown within depth (n :: around))

/-- A value as it is shown inside a message. -/
def shown (v : Value) (within : Collections := #[]) : String :=
  v.shownBy (numberShown within (within.size + 1) [])

mutual

/-- Whether every part of a value that is no collection satisfies `part`, and every number of a
collection `one`. -/
def everyBy (part : Value → Bool) (one : Nat → Bool) : Value → Bool
  | list items => everyItemBy part one items
  | set items => everyItemBy part one items
  | pair k v => everyBy part one k && everyBy part one v
  | map entries => everyEntryBy part one entries
  | ref n => one n
  | v => part v

def everyItemBy (part : Value → Bool) (one : Nat → Bool) : List Value → Bool
  | [] => true
  | v :: rest => everyBy part one v && everyItemBy part one rest

def everyEntryBy (part : Value → Bool) (one : Nat → Bool) : List (Value × Value) → Bool
  | [] => true
  | (k, v) :: rest => everyBy part one k && everyBy part one v && everyEntryBy part one rest

end

/-- Whether every part of the collection of a number satisfies `part`, inside of those whose numbers
are given. Collections inside of more than `levels` others answer with `deeper`. -/
def everyNumber (within : Collections) (part : Value → Bool) (deeper : Bool) :
    (levels : Nat) → (around : List Nat) → Nat → Bool
  | 0, _, _ => deeper
  | levels + 1, around, n =>
    n ∈ around ||
      (within.getD n null).everyBy part (everyNumber within part deeper levels (n :: around))

/-- Whether a number is not so long that it is not written in decimal. -/
def isShort : Value → Bool
  | int n => n.natAbs < 10 ^ maxDigits
  | _ => true

/-- Whether every integer in a value is short enough to be written in decimal. -/
def isWritable (v : Value) (within : Collections := #[]) : Bool :=
  v.everyBy isShort (everyNumber within isShort true (within.size + 1) [])

/-- How many collections inside of each other are shown. -/
def maxShown : Nat := 990

/-- Whether no more collections than `maxShown` stand inside of each other. -/
def isShallow (v : Value) (within : Collections := #[]) : Bool :=
  v.everyBy (fun _ => true) (everyNumber within (fun _ => true) false maxShown [])

/-- The failure of writing an integer that is too long. -/
def tooLong : Failure :=
  ⟨.value, "Exceeds the limit (" ++ toString maxDigits ++
    " digits) for integer string conversion; use sys.set_int_max_str_digits() to increase the limit"⟩

/-- The text of a value. Integers that are too long have none, and collections that are too deep. -/
def asText (v : Value) (within : Collections := #[]) : Except Failure String :=
  match v with
  | text s => .ok s
  | date d => .ok d.iso
  | moment t => .ok t.iso
  | v =>
    if !v.isShallow within then .error (.tooDeep " while getting the repr of an object")
    else if v.isWritable within then .ok (v.shown within)
    else .error tooLong

/-! ## Members -/

/-- Whether a value counts as given: null, false, zero and all that is empty do not. -/
def isGiven (v : Value) (within : Collections := #[]) : Bool :=
  match v.resolve within with
  | null => false
  | bool b => b
  | int n => n != 0
  | real x => !x.isZero
  | text s => !s.isEmpty
  | bytes bs => !bs.isEmpty
  | list items => !items.isEmpty
  | set items => !items.isEmpty
  | map entries => !entries.isEmpty
  | _ => true

/-- The name of a value's type in messages. -/
def typeName (v : Value) (within : Collections := #[]) : String :=
  match v.resolve within with
  | null | ref _ => "NoneType"
  | bool _ => "bool"
  | int _ => "int"
  | real _ => "float"
  | text _ => "str"
  | bytes _ => "bytes"
  | date _ => "datetime.date"
  | moment _ => "datetime.datetime"
  | list _ => "list"
  | pair _ _ => "tuple"
  | set _ => "set"
  | map _ => "dict"

/-- The entries of a map. -/
def entries? (v : Value) (within : Collections := #[]) : Option (List (Value × Value)) :=
  match v.resolve within with
  | map entries => some entries
  | _ => none

/-- The members of a value that has any; those of a map are its keys. -/
def members? (v : Value) (within : Collections := #[]) : Option (List Value) :=
  match v.resolve within with
  | list items => some items
  | set items => some items
  | pair k v => some [k, v]
  | map entries => some (entries.map (·.1))
  | bytes bs => some (bs.map fun b => int b.toNat)
  | text s => some (s.toList.map fun c => text (String.ofList [c]))
  | _ => none

/-! ## Keys -/

/-- The whole number a value equals, where a truth value is one or zero. -/
def asInt? : Value → Option Int
  | bool b => some (if b then 1 else 0)
  | int n => some n
  | real x => x.toInt?
  | _ => none

/-- Whether two values that are no collections are equal. Numbers are compared by value across their
types, moments by the instant if both have an offset. What is not a number equals nothing. -/
def equals : Value → Value → Bool
  | null, null => true
  | text s, text t => s == t
  | bytes s, bytes t => s == t
  | date s, date t => s == t
  | moment s, moment t => s.isSame t
  | real x, real y => x != .nan && (x == y || (x.isZero && y.isZero))
  | v, w =>
    match v.asInt?, w.asInt? with
    | some m, some n => m == n
    | _, _ => false

/-- The value that a text key has in a map's entries. -/
def lookup? (entries : List (Value × Value)) (name : String) : Option Value :=
  (entries.find? fun e => e.1.equals (text name)).map (·.2)

end Value

end AddonAtlas
