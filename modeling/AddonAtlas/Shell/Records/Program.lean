import AddonAtlas.Shell.Expression
import AddonAtlas.Shell.Records.Value

/-!
# Programs that work on records

A program says what is done with the records that its conditions are met by. A record is divided into fields;
besides, there are variables and tables.
-/

namespace AddonAtlas.Shell.Records

inductive Operation
  | add
  | subtract
  | multiply
  | divide
  | remainder
  | power
deriving DecidableEq

inductive Relation
  | equal
  | unequal
  | less
  | lessOrEqual
  | greater
  | greaterOrEqual
deriving DecidableEq

/-- A function that every program has. -/
inductive Function
  | length
  | index
  | substr
  | split
  | match_
  | sub
  | gsub
  | sprintf
  | sin
  | cos
  | atan2
  | exp
  | log
  | sqrt
  | int
  | rand
  | srand
  | tolower
  | toupper
  | system
  | close
  | fflush
deriving DecidableEq

/-- Where a record that is asked for comes from. -/
inductive Origin (α : Type)
  | input
  | file (name : α)
  | command (line : α)

inductive Term
  | number (x : Float)
  | text (s : String)
  /-- Whether the record has a match; or the expression itself, where one is expected. -/
  | pattern (source : String) (e : Expression)
  | variable_ (name : String)
  | element (table : String) (keys : List Term)
  | field (n : Term)
  | assign (place : Term) (operation : Option Operation) (value : Term)
  /-- A number more or less; the value is the one before or the one after. -/
  | step (place : Term) (isMore isBefore : Bool)
  | choice (condition yes no : Term)
  | both (first second : Term)
  | either (first second : Term)
  | not (t : Term)
  | contains (table : String) (keys : List Term)
  | matches_ (isInverted : Bool) (subject pattern : Term)
  | compare (r : Relation) (first second : Term)
  | join (first second : Term)
  | operate (o : Operation) (first second : Term)
  | negate (t : Term)
  | plus (t : Term)
  | call (name : String) (arguments : List Term)
  | apply (f : Function) (arguments : List Term)
  | getline (origin : Origin Term) (place : Option Term)
  /-- A term in parentheses. -/
  | grouped (t : Term)
  /-- Terms in parentheses: keys, or what is printed. -/
  | several (terms : List Term)

instance : Inhabited Term := ⟨.text ""⟩

/-- Where something is printed. -/
inductive Destination
  | file (name : Term)
  | append (name : Term)
  | command (line : Term)

inductive Statement
  | evaluate (t : Term)
  | print (terms : List Term) (destination : Option Destination)
  | printf (terms : List Term) (destination : Option Destination)
  | block (statements : List Statement)
  | choice (condition : Term) (yes : Statement) (no : Option Statement)
  | while_ (condition : Term) (body : Statement)
  | doWhile (body : Statement) (condition : Term)
  | for_ (first : Option Statement) (condition : Option Term) (next : Option Statement) (body : Statement)
  | forKeys (place : Term) (table : String) (body : Statement)
  | delete (table : String) (keys : Option (List Term))
  | next
  | nextFile
  | exit (status : Option Term)
  | return_ (value : Option Term)
  | break_
  | continue_
  | nothing

instance : Inhabited Statement := ⟨.nothing⟩

/-- When something is done. -/
inductive Condition
  | begin
  | finish
  | always
  | when_ (t : Term)
  /-- From a record to another one. -/
  | range (number : Nat) (first last : Term)

structure Rule where
  condition : Condition
  body : Statement

structure Procedure where
  parameters : List String
  body : Statement

structure Program where
  rules : List Rule
  procedures : List (String × Procedure)
  /-- For each procedure, which parameters are tables. -/
  tables : List (String × List String)

end AddonAtlas.Shell.Records
