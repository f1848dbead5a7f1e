import AddonAtlas.FileTree

/-!
# Executions of programs

What can be seen of a program that was started: what it writes to its two outputs, how long it
sleeps, and how it ends.
-/

namespace AddonAtlas

/-- How a program ends. -/
inductive Ending
  | exited (status : Nat)
  | killed (signal : Nat)
deriving DecidableEq, Repr

structure Execution where
  /-- What is written to standard output, write by write. -/
  output : List Bytes
  /-- What is written to standard error. -/
  errors : Bytes
  /-- How long the program sleeps, in thousandths of a second. -/
  sleep : Nat
  ending : Ending
  /-- The files as they are afterwards, if the program may have changed any. -/
  tree : Option FileTree := none

instance : Inhabited Execution := ⟨⟨[], Bytes.empty, 0, .exited 0, none⟩⟩

end AddonAtlas
