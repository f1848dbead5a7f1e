import AddonAtlas.FileTree

/-!
# What is started for a path

The system starts the program that a file holds. For a script it starts what the script's first line
names, with the script among the arguments; that may be a script again.
-/

namespace AddonAtlas

/-- A program to start, the name by which it is called, and the arguments in front of all others. -/
structure Invocation where
  program : String
  name : String
  front : List String
deriving DecidableEq, Repr

namespace Invocation

def isBlank (c : Char) : Bool :=
  c == ' ' || c == '\t'

/-- How much of a file is looked at to find out how to run it. -/
def window : Nat := 256

/-- The interpreter that a script's first line names, and the argument behind it. The line has to end in
the part of the file that is looked at, or the name in it. -/
def interpreter? (content : List Char) : Option (String × List String) :=
  match content.take window with
  | '#' :: '!' :: rest =>
    let shown := rest ++ List.replicate (window - 3 - rest.length) '\x00'
    let start := shown.takeWhile fun c => c != '\n' && c != '\x00'
    let endsLine := (shown.drop start.length).head? = some '\n'
    let line := if endsLine then (start.reverse.dropWhile isBlank).reverse else shown
    let ends (c : Char) : Bool := isBlank c || c == '\x00'
    let name := (line.dropWhile isBlank).takeWhile fun c => !ends c
    let behind := (line.dropWhile isBlank).drop name.length
    let isCut := !endsLine && behind.isEmpty
    if isCut || (endsLine && name.isEmpty) then none
    else
      let argument :=
        match behind with
        | c :: _ => if isBlank c then [String.ofList ((behind.dropWhile isBlank).takeWhile (· != '\x00'))] else []
        | [] => []
      some (String.ofList name, argument)
  | _ => none

/-- How many scripts may name each other. -/
def maxScripts : Nat := 5

/-- What is started for the file at a path, seen from a directory. -/
def atPath (t : FileTree) (here : Location) : (scripts : Nat) → (path : String) → Except Errno Invocation
  | scripts, path => do
    match ← t.resolve path here with
    | (_, .file content true) =>
      match System.program? content with
      | some program => return ⟨program, path, []⟩
      | none =>
        match interpreter? (Utf8.decode (content.take window).toList) with
        | none => throw .badFormat
        | some (name, argument) =>
          match scripts with
          | 0 => throw .tooManyLinks
          | scripts + 1 =>
            let c ← atPath t here scripts name
            return { c with front := c.front ++ argument ++ [path] }
    | _ => throw .notPermitted

/-- The path of a name in a directory. -/
def join (directory name : String) : String :=
  if directory = "" ∨ directory.endsWith "/" then directory ++ name else directory ++ "/" ++ name

/-- What is started for a name that is looked for in directories. If nothing can be started, the first
failure is told that is not mere absence, or else the last one. -/
def inDirectories (t : FileTree) (name : String) : (failure : Option Errno) → (directories : List String) →
    Except Errno Invocation
  | failure, [] => .error (failure.getD .noEntry)
  | failure, directory :: rest =>
    match atPath t [] maxScripts (join directory name) with
    | .ok c => .ok c
    | .error e =>
      let isAbsence (e : Errno) : Bool := e == .noEntry || e == .notDirectory
      inDirectories t name (if failure.any (!isAbsence ·) then failure else some e) rest

/-- The directories in which programs are looked for if nothing else is said. -/
def defaultPath : String :=
  "/usr/local/sbin:/usr/local/bin:/usr/sbin:/usr/bin:/sbin:/bin"

/-- The directories that a search path lists. -/
def directories (searchPath : String) : List String :=
  (searchPath.toList.splitOn ':').map String.ofList

/-- Whether what is started goes by the name that was looked for and not by the path that was found. -/
def isRenamed (c : Invocation) : Bool :=
  c.front.isEmpty && !System.withPaths.contains c.program

/-- What is started for a name or a path. A program is called by the name; a script is called by its path. -/
def find (t : FileTree) (searchPath name : String) : Except Errno Invocation :=
  if name.toList.contains '/' then atPath t [] maxScripts name
  else
    (inDirectories t name none (directories searchPath)).map fun c =>
      if c.isRenamed then { c with name := name } else c

end Invocation

end AddonAtlas
