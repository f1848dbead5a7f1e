import AddonAtlas.Shell.Extraction.Value

/-!
# Extraction programs

A program is a list of statements over places for values, lists and tables. A term has a value, or several of
them where a list is expected. Texts are searched and changed by expressions.
-/

namespace AddonAtlas.Shell.Extraction

inductive Operator
  | add
  | subtract
  | multiply
  | divide
  | remainder
  | power
  | join
  | repeated
  | shiftUp
  | shiftDown
  | bitAnd
  | bitOr
  | bitXor
  | less
  | greater
  | lessOrEqual
  | greaterOrEqual
  | equal
  | unequal
  | order
  | textLess
  | textGreater
  | textLessOrEqual
  | textGreaterOrEqual
  | textEqual
  | textUnequal
  | textOrder
  | exclusive
deriving DecidableEq

/-- How two terms are joined of which the second one may not count. -/
inductive Junction
  | both
  | either
  /-- The first one that is given. -/
  | given
deriving DecidableEq

/-- For how long a name belongs to a place. -/
inductive Scope
  /-- Up to the end of the block. -/
  | own
  /-- For the whole program. -/
  | shared
  /-- The place keeps its name, and its value comes back at the end of the block. -/
  | saved
deriving DecidableEq

/-- What a name or a reference is for. -/
inductive Kind
  | scalar
  | list
  | table
  | procedure
deriving DecidableEq

inductive Jump
  | next
  | last
  | redo
deriving DecidableEq

/-- What is done with each value of a list. -/
inductive Sweep
  | map
  | select
  | sort
  | first
  | any
  | all
  | none
deriving DecidableEq

/-- How something is written. -/
inductive Writing
  | plain
  | line
  | formatted
deriving DecidableEq

/-- A line of the program. -/
structure Line where
  number : Nat
deriving DecidableEq

mutual

inductive Term
  | constant (v : Value)
  /-- The texts of terms behind each other. -/
  | joined (parts : List Term)
  | named (k : Kind) (name : String)
  /-- What a reference stands for. -/
  | pointed (k : Kind) (reference : Term)
  /-- The number of the last value of a list. -/
  | lastIndex (list : Term)
  | element (list index : Term)
  | entry (table key : Term)
  | elements (list indices : Term)
  | entries (table keys : Term)
  /-- Some of several values. -/
  | pick (values indices : Term)
  | declared (scope : Scope) (places : List Term) (isList : Bool)
  | assign (place value : Term)
  | update (o : Operator) (place value : Term)
  | updateIf (j : Junction) (place value : Term)
  | operate (o : Operator) (first second : Term)
  | joint (j : Junction) (first second : Term)
  | not (t : Term)
  | negate (t : Term)
  | complement (t : Term)
  | choice (condition yes no : Term)
  /-- The values from one to another one; or from when to when a line counts, under a number. -/
  | range (number : Nat) (first last : Term)
  | step (place : Term) (isMore isBefore : Bool)
  | find (subject : Option Term) (isInverted : Bool) (pattern : Term) (flags : List Char)
  | replace (subject : Option Term) (pattern replacement : Term) (flags : List Char)
  | transliterate (subject : Option Term) (sources targets : List Char) (flags : List Char)
  /-- An expression as a value. -/
  | expression (pattern : Term) (flags : List Char)
  | several (terms : List Term)
  | newList (values : Term)
  | newTable (values : Term)
  | newProcedure (body : List Statement)
  | reference (t : Term)
  | call (name : String) (arguments : List Term)
  /-- Runs a procedure; without arguments it has those of the one that runs. -/
  | invoke (procedure : Term) (arguments : Option (List Term))
  | sweep (s : Sweep) (body : List Statement) (values : Term)
  | write (w : Writing) (handle : Option Term) (values : List Term)
  | readLine (handle : Option Term)
  | paths (pattern : Term)
  | output (command : Term)
  | fileTest (letter : Char) (file : Option Term)
  | block (catches : Bool) (body : List Statement)
  | jump (j : Jump) (label : String)
  | return_ (value : Option Term)

inductive Statement
  | evaluate (line : Line) (t : Term)
  | block (label : String) (body : List Statement)
  | choice (line : Line) (condition : Term) (yes no : List Statement)
  | while_ (line : Line) (label : String) (condition : Term) (isUntil : Bool) (body continuation : List Statement)
  | doWhile (line : Line) (body : List Statement) (condition : Term) (isUntil : Bool)
  | loop (line : Line) (label : String) (first condition next : Option Term) (body : List Statement)
  | each (line : Line) (label : String) (isOwn : Bool) (name : String) (values : Term) (body : List Statement)
  | nothing

end

instance : Inhabited Term := ⟨.constant .nothing⟩

instance : Inhabited Statement := ⟨.nothing⟩

/-- A program: what is done before all else and at the end, and the procedures by their names. -/
structure Program where
  body : List Statement
  first : List (List Statement)
  final : List (List Statement)
  procedures : List (String × List Statement)

end AddonAtlas.Shell.Extraction
