import AddonAtlas.Execution
import AddonAtlas.FileTree.ReadBuffer
import AddonAtlas.Regex.Extended

/-!
# Searching a file tree for lines

The search program: for each root in turn, every file below it, links followed, is searched line by
line, and each selected line is reported as `path:number:line`. A directory that is its own ancestor
is not entered again. A file that holds a NUL byte is left out, but for the lines in front of the buffer in
which that is noticed; and what cannot be read is passed over in silence, but shows in the exit status.
-/

namespace AddonAtlas.TreeSearch

/-- A file on the way through the tree, or something that could not be read. -/
inductive Visit
  | file (path : String) (content : Bytes)
  | unreadable

/-- A directory's path with a slash at its end. -/
def withSlash (path : String) : String :=
  if path.toList.getLast? = some '/' then path else path ++ "/"

/-- All files below a directory. `path` is how the directory is shown, `above` the directories it was
reached through; `depth` bounds their number. -/
def visitDirectory (t : FileTree) : (depth : Nat) → (above : List Location) → (path : String) →
    Location → List Visit
  | 0, _, _, _ => []
  | depth + 1, above, path, here =>
    if here ∈ above then []
    else
      (t.children here).flatMap fun name =>
        match t.resolveIn here name with
        | .error _ => [.unreadable]
        | .ok (_, .file content _) => [.file (withSlash path ++ name) content]
        | .ok (place, _) => visitDirectory t depth (here :: above) (withSlash path ++ name) place

/-- A path without all but one of the slashes at its end. -/
def trimSlashes (path : String) : String :=
  let cs := path.toList
  let kept := (cs.reverse.dropWhile (· == '/')).reverse
  if cs.length ≤ kept.length + 1 then path
  else if kept.isEmpty then (if cs.length = 2 then path else "/")
  else String.ofList (kept ++ ['/'])

/-- All files of a root. -/
def visitRoot (t : FileTree) (root : String) : List Visit :=
  match t.resolve root with
  | .error _ => [.unreadable]
  | .ok (_, .file content _) => [.file root content]
  | .ok (here, _) => visitDirectory t (t.entries.length + 2) [] (trimSlashes root) here

/-- Whether reports name the file: always, unless the only root is a file. -/
def namesFiles (t : FileTree) : List String → Bool
  | [root] =>
    match t.resolve root with
    | .ok (_, .directory) => true
    | _ => false
  | _ => true

/-- The lines of a file that any of the expressions selects, with their numbers. -/
def selectedLines (rs : List (Regex UInt8)) (lines : List Bytes) : List (Bytes × Nat) :=
  (lines.zipIdx 1).filter fun (line, _) => rs.any fun r => r.selects line.word

/-- The report of one line. -/
def report (named : Bool) (path : String) (n : Nat) (line : Bytes) : Bytes :=
  Bytes.concat
    [Bytes.ofString ((if named then path ++ ":" else "") ++ toString n ++ ":"), line,
      Bytes.ofList [Bytes.newline]]

/-- The reports on a file. -/
def reportsOn (rs : List (Regex UInt8)) (named : Bool) : Visit → List Bytes
  | .unreadable => []
  | .file path content =>
    (selectedLines rs content.beforeNul.lines).map fun (line, n) => report named path n line


def Visit.isUnreadable : Visit → Bool
  | .unreadable => true
  | .file _ _ => false

def Visit.holdsNul : Visit → Bool
  | .unreadable => false
  | .file _ content => content.contains 0

/-- One search for an extended regular expression below the roots. The status is 0 if a file has selected
lines and no NUL, 1 if none has, and 2 if the expression is faulty or something could not be read. -/
def search (t : FileTree) (expression : String) (roots : List String) : Execution :=
  match Extended.parse (Bytes.ofString expression).toList with
  | .error faults =>
    let text := String.join (faults.map fun f => "grep: " ++ f.message ++ "\n")
    ⟨[], Bytes.ofString text, 0, .exited 2, none⟩
  | .ok rs =>
    let visits := roots.flatMap (visitRoot t)
    let reports := visits.map fun v => (v, reportsOn rs (namesFiles t roots) v)
    let isFound := reports.any fun (v, lines) => !v.holdsNul && !lines.isEmpty
    let status :=
      if visits.any Visit.isUnreadable then 2 else if isFound then 0 else 1
    ⟨reports.flatMap (·.2), Bytes.empty, 0, .exited status, none⟩

/-- The arguments of a recursive search for an extended regular expression that numbers lines and
passes over binary files and what cannot be read. -/
def arguments (expression : String) (roots : List String) : List String :=
  ["-E", "-R", "-n", "-I", "-s", "-e", expression, "--"] ++ roots

/-- The expression and the roots of such arguments. -/
def ofArguments? : List String → Option (String × List String)
  | "-E" :: "-R" :: "-n" :: "-I" :: "-s" :: "-e" :: expression :: "--" :: roots =>
    some (expression, roots)
  | _ => none

end AddonAtlas.TreeSearch
