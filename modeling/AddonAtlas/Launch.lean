import AddonAtlas.FileTree.Invocation
import AddonAtlas.Shell.Run
import AddonAtlas.Text.Quoted

/-!
# Starting programs

A program is started from its name or path and its arguments. What is started runs as an `Execution`;
what cannot be started is refused for the reason the system gives.
-/

namespace AddonAtlas.Launch

open AddonAtlas.Text

/-- Why a program is not started. -/
inductive Refusal
  /-- A part of the command holds a NUL, which no command can. -/
  | nulByte
  /-- A part of the command has surrogates, which have no bytes: the place of the first ones, and all of
  them. -/
  | surrogates (place : Nat) (found : List Nat)
  /-- The system refuses. -/
  | system (reason : Errno) (program : String)
deriving DecidableEq, Repr

/-- The text of a system's refusal that concerns a path. -/
def Refusal.message : Refusal → String
  | nulByte => "embedded null byte"
  | surrogates place found =>
    let what :=
      match found with
      | [n] =>
        " '\\u" ++ String.ofList (hexDigits 4 n) ++ "' in position " ++ toString place
      | _ => "s in position " ++ toString place ++ "-" ++ toString (place + found.length - 1)
    "'utf-8' codec can't encode character" ++ what ++ ": surrogates not allowed"
  | system reason program =>
    "[Errno " ++ toString reason.number ++ "] " ++ reason.description ++ ": " ++ quoted program

/-- The most bytes that one argument may have. -/
def maxArgument : Nat := 131071

/-- Runs a program with arguments. -/
def run (t : FileTree) (environment : List (String × String)) (c : Invocation) (arguments : List String) :
    Execution :=
  match if c.program = "grep" then TreeSearch.ofArguments? (c.front ++ arguments) else none with
  | some (expression, roots) => TreeSearch.search t expression roots
  | none => Shell.execute t c environment arguments

/-- Surrogates that stand for single bytes. -/
def standsForByte (n : Nat) : Bool :=
  0xDC80 ≤ n && n ≤ 0xDCFF

/-- Why a part of a command cannot be handed to the system, if it cannot. -/
def fault? (s : String) : Option Refusal :=
  match (surrogateRuns s).find? fun r => !r.2.all standsForByte with
  | some (place, found) => some (.surrogates place found)
  | none => if s.toList.contains '\x00' then some .nulByte else none

/-- Starts a program. -/
def start (t : FileTree) (environment : List (String × String)) (path : String)
    (arguments : List String) : Except Refusal Execution :=
  match (path :: arguments).findSome? fault? with
  | some refusal => .error refusal
  | none =>
    if (path :: arguments).any fun a => maxArgument < a.utf8ByteSize then
      .error (.system .argumentsTooLong path)
    else
      let searchPath := ((environment.find? fun v => v.1 = "PATH").map (·.2)).getD Invocation.defaultPath
      match Invocation.find t searchPath path with
      | .ok c => .ok (run t environment c arguments)
      | .error e => .error (.system e path)

end AddonAtlas.Launch
