import AddonAtlas.FileTree.System
import AddonAtlas.Text.Quoted

/-!
# File trees

A snapshot of a working directory: files with their bytes, directories, and symbolic links. A path is
resolved from the working directory, through links, with the failures a system reports. Outside of the
snapshot there is what every system has.
-/

namespace AddonAtlas

/-- The entries below the working directory, each with its place, in the order of their creation. -/
structure FileTree where
  entries : List (Location × Entry)
  /-- The permissions of those entries that have not the usual ones. -/
  modes : List (Location × Nat) := []

namespace FileTree

def empty : FileTree := ⟨[], []⟩

instance : Inhabited FileTree := ⟨empty⟩

/-- The entry at a place. -/
def find? (t : FileTree) (place : Location) : Option Entry :=
  if place = [] ∨ place = System.root then some .directory
  else ((t.entries.find? fun e => e.1 = place).map (·.2)).or (System.find? place)

/-- The names between the slashes of a path. -/
def names (path : String) : List String :=
  (path.toList.splitOn '/').map String.ofList

def isAbsolute (path : String) : Bool :=
  path.toList.head? == some '/'

/-- Where a path starts, in a directory: at the root if it begins with a slash. -/
def origin (path : String) (here : Location := []) : Location :=
  if isAbsolute path then System.root else here

/-- The directory that holds a place; the working directory is held by that of temporary files. -/
def parent (here : Location) : Location :=
  if here = [] then System.temporary else if here = System.root then here else here.dropLast

/-- Goes along names from a directory. At most `links` symbolic links are followed. -/
def walk (t : FileTree) (links : Nat) (here : Location) : List String →
    Except Errno (Location × Entry)
  | [] => .ok (here, .directory)
  | name :: rest =>
    if name = "" ∨ name = "." then t.walk links here rest
    else if name = ".." then t.walk links (parent here) rest
    else if here = System.temporary ∧ name = System.workName then t.walk links [] rest
    else if 255 < name.utf8ByteSize then .error .nameTooLong
    else
      match t.find? (here ++ [name]) with
      | none => .error .noEntry
      | some .directory => t.walk links (here ++ [name]) rest
      | some (.file content executable) =>
        if rest.isEmpty then .ok (here ++ [name], .file content executable)
        else .error .notDirectory
      | some (.link target) =>
        match links with
        | 0 => .error .tooManyLinks
        | links + 1 =>
          t.walk links (origin target here) (names target ++ rest)
termination_by names => (links, names.length)

/-- The most symbolic links that one path may lead through. -/
def maxLinks : Nat := 40

/-- The most bytes a path may have. -/
def maxPath : Nat := 4095

/-- What a path stands for in a directory, all links followed. -/
def resolve (t : FileTree) (path : String) (here : Location := []) : Except Errno (Location × Entry) :=
  if path = "" then .error .noEntry
  else if maxPath < path.utf8ByteSize then .error .nameTooLong
  else t.walk maxLinks (origin path here) (names path)

/-- What a name in a directory stands for, all links followed. -/
def resolveIn (t : FileTree) (here : Location) (name : String) : Except Errno (Location × Entry) :=
  t.walk maxLinks here [name]

/-- The names in a directory. -/
def children (t : FileTree) (here : Location) : List String :=
  t.entries.filterMap fun (place, _) =>
    if place ≠ [] ∧ place.dropLast = here then place.getLast? else none

/-- The bytes of the file that a path stands for. -/
def read (t : FileTree) (path : String) : Except Errno Bytes :=
  match t.resolve path with
  | .error e => .error e
  | .ok (_, .file content _) => .ok content
  | .ok (_, _) => .error .isDirectory

/-- Whether a path stands for anything. -/
def contains (t : FileTree) (path : String) : Bool :=
  match t.resolve path with
  | .ok _ => true
  | .error _ => false

/-! ## Changes -/

/-- Puts an entry at a place, instead of the one that is there. -/
def put (t : FileTree) (place : Location) (e : Entry) : FileTree :=
  if t.entries.any fun x => x.1 = place then
    { t with entries := t.entries.map fun x => if x.1 = place then (place, e) else x }
  else { t with entries := t.entries ++ [(place, e)] }

/-- Removes what is at a place and below it. -/
def remove (t : FileTree) (place : Location) : FileTree :=
  ⟨t.entries.filter fun x => !place.isPrefixOf x.1, t.modes.filter fun x => !place.isPrefixOf x.1⟩

/-- The permissions that an entry has if nothing else is said. -/
def usualMode : Entry → Nat
  | .file _ executable => if executable then 0o755 else 0o644
  | .link _ => 0o777
  | .directory => 0o755

/-- The permissions of what is at a place. -/
def mode (t : FileTree) (place : Location) : Nat :=
  match t.modes.find? fun x => x.1 = place with
  | some (_, mode) => mode
  | none => ((t.find? place).map usualMode).getD 0

/-- Gives permissions to what is at a place. -/
def setMode (t : FileTree) (place : Location) (mode : Nat) : FileTree :=
  let t :=
    match t.find? place with
    | some (.file content _) => t.put place (.file content (mode &&& 0o111 ≠ 0))
    | _ => t
  let others := t.modes.filter fun x => x.1 ≠ place
  if (t.find? place).map usualMode = some mode then { t with modes := others }
  else { t with modes := (place, mode) :: others }

/-- Goes along names from a directory and makes the directories that are missing. -/
def makeDirectories (t : FileTree) (here : Location) : List String → FileTree × Location
  | [] => (t, here)
  | name :: rest =>
    if name = "" ∨ name = "." then t.makeDirectories here rest
    else if name = ".." then t.makeDirectories (parent here) rest
    else if here = System.temporary ∧ name = System.workName then t.makeDirectories [] rest
    else
      match t.resolveIn here name with
      | .ok (place, .directory) => t.makeDirectories place rest
      | _ => (t.put (here ++ [name]) .directory).makeDirectories (here ++ [name]) rest

/-- Where a file of a path is, or is to be created, in a directory: at the end of all links. -/
def fileAt (t : FileTree) (links : Nat) (here : Location) (parts : List String) : Except Errno Location := do
  match ← t.walk links here parts.dropLast with
  | (_, .file _ _) | (_, .link _) => throw .notDirectory
  | (here, .directory) =>
    let name := parts.getLastD ""
    if ["", ".", ".."].contains name then throw .isDirectory
    else if 255 < name.utf8ByteSize then throw .nameTooLong
    else
      match t.find? (here ++ [name]), links with
      | some (.link _), 0 => throw .tooManyLinks
      | some (.link target), links + 1 => t.fileAt links (origin target here) (names target)
      | some .directory, _ => throw .isDirectory
      | _, _ => return here ++ [name]
termination_by links

/-- Where the entry of a path is, or is to be made, be it a link. -/
def entryAt (t : FileTree) (path : String) (here : Location := []) : Except Errno Location := do
  let parts := (names path).filter (· ≠ "")
  match ← t.walk maxLinks (origin path here) parts.dropLast with
  | (here, .directory) => return here ++ [parts.getLastD ""]
  | _ => throw .notDirectory

end FileTree

/-- Why a change to a tree is refused, and the paths that the reason concerns. -/
structure RefusedChange where
  reason : Errno
  paths : List String

namespace RefusedChange

def message (r : RefusedChange) : String :=
  "[Errno " ++ toString r.reason.number ++ "] " ++ r.reason.description ++ ": " ++
    " -> ".intercalate (r.paths.map Text.quoted)

end RefusedChange

namespace FileTree

/-- A path without its last name, and that name. -/
def splitPath (path : String) : String × String :=
  let cs := path.toList.reverse
  let name := cs.takeWhile (· != '/')
  let front := cs.drop name.length
  let kept := front.dropWhile (· == '/')
  (String.ofList (if kept.isEmpty then front else kept).reverse, String.ofList name.reverse)

/-- Makes the directory of a path, with those above it that are missing. A directory that is there stays. -/
def makeDirectory (t : FileTree) (path : String) : Except RefusedChange FileTree :=
  go (path.length + 1) path
where
  /-- Makes the directory itself, in one that is there. -/
  single (t : FileTree) (path : String) : Except RefusedChange FileTree :=
    match t.resolve path with
    | .ok (_, .directory) => .ok t
    | _ =>
      match t.entryAt path with
      | .error e => .error ⟨e, [path]⟩
      | .ok place =>
        if (t.find? place).isSome then .error ⟨.exists_, [path]⟩ else .ok (t.put place .directory)
  /-- Makes those above a directory, then the directory. -/
  go : (fuel : Nat) → (path : String) → Except RefusedChange FileTree
    | 0, path => single t path
    | fuel + 1, path =>
      let (front, name) := splitPath path
      let (front, name) := if name = "" then splitPath front else (front, name)
      if front = "" ∨ name = "" ∨ t.contains front then single t path
      else
        match go fuel front with
        | .error ⟨.exists_, _⟩ => single t path
        | .error e => .error e
        | .ok t => if name = "." then .ok t else single t path

/-- Makes the directories above a path. -/
def makeParents (t : FileTree) (path : String) : Except RefusedChange FileTree :=
  let (front, _) := splitPath path
  if front = "" then .ok t else t.makeDirectory front

/-- Writes a file at a path. A link that stands there leads to the file to write. -/
def writeFile (t : FileTree) (path : String) (content : Bytes) (executable : Bool) :
    Except RefusedChange FileTree := do
  let t ← t.makeParents path
  match t.fileAt maxLinks (origin path) (names path) with
  | .error e => throw ⟨e, [path]⟩
  | .ok place => return t.put place (.file content executable)

/-- Makes a link at a path where there is nothing yet. -/
def makeLink (t : FileTree) (path target : String) : Except RefusedChange FileTree := do
  let t ← t.makeParents path
  match t.entryAt path with
  | .error e => throw ⟨e, [target, path]⟩
  | .ok place =>
    if (t.find? place).isSome then throw ⟨.exists_, [target, path]⟩
    else return t.put place (.link target)

/-- Deletes the file or the link of a path. -/
def delete (t : FileTree) (path : String) : Except RefusedChange FileTree :=
  match t.entryAt path with
  | .error e => .error ⟨e, [path]⟩
  | .ok place =>
    match t.find? place with
    | none => .error ⟨.noEntry, [path]⟩
    | some .directory => .error ⟨.isDirectory, [path]⟩
    | some _ => .ok (t.remove place)

end FileTree

end AddonAtlas
