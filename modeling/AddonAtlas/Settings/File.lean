import AddonAtlas.FileTree
import AddonAtlas.Settings.Environment
import AddonAtlas.Yaml.Construct

/-!
# Settings files

A settings file holds a mapping, written in YAML. A file that does not exist is as good as an empty
one, and is mentioned in the log.
-/

namespace AddonAtlas

open AddonAtlas.Text

/-- Settings by their names, and the collections that they refer to. -/
structure Settings where
  entries : List (Value × Value)
  collections : Collections

namespace Settings

/-- No settings at all. -/
def empty : Settings :=
  ⟨[], #[]⟩

/-- The value of a setting; nothing if it is not set. -/
def get? (s : Settings) (name : String) : Option Value :=
  Value.lookup? s.entries name

end Settings

/-! ## The file's path -/

/-- A path without needless slashes and dots. Two slashes in front are kept. -/
def normalPath (path : String) : String :=
  let slashes := (path.toList.takeWhile (· == '/')).length
  let root := if slashes = 0 then "" else if slashes = 2 then "//" else "/"
  let parts := (FileTree.names path).filter fun s => s ≠ "" ∧ s ≠ "."
  if root = "" ∧ parts.isEmpty then "." else root ++ "/".intercalate parts

/-- The normal form of a path, with the home directory in place of a `~` in front. -/
def settingsPath (e : Environment) (path : String) : Except Failure String :=
  let normal := normalPath path
  match normal.toList with
  | '~' :: _ =>
    (e.expandHome normal).bind fun expanded =>
      match expanded.toList with
      | '~' :: _ => .error ⟨.runtime, "Could not determine home directory."⟩
      | _ => .ok (normalPath expanded)
  | _ => .ok normal

/-! ## The file's content -/

/-- A text in which every line ends in a newline only. -/
def unifyLines : List Char → List Char
  | '\r' :: '\n' :: rest => '\n' :: unifyLines rest
  | '\r' :: rest => '\n' :: unifyLines rest
  | c :: rest => c :: unifyLines rest
  | [] => []

/-- A failure of the system that concerns a path. -/
def pathFailure (reason : Errno) (path : String) : Failure :=
  ⟨if reason = .isDirectory then .directory else .system,
    "[Errno " ++ toString reason.number ++ "] " ++ reason.description ++ ": " ++ quoted path⟩

/-- The settings that a file's bytes hold. -/
def Settings.ofBytes (path : String) (content : Bytes) : Except Failure Settings :=
  match Utf8.decode? content.toList with
  | .error e => .error ⟨.decoding, e.message⟩
  | .ok chars =>
    match Yaml.load (unifyLines chars) with
    | .error .malformed => .error ⟨.value, "Invalid YAML in settings file '" ++ path ++ "'"⟩
    | .error (.value failure) => .error failure
    | .ok (.null, _) => .ok .empty
    | .ok (v, collections) =>
      match v.entries? collections with
      | some entries => .ok ⟨entries, collections⟩
      | none => .error ⟨.value, "Settings file '" ++ path ++ "' must contain a mapping"⟩

/-- Reads the settings file at a path, in its normal form. -/
def Settings.read (t : FileTree) (path : String) : Except Failure Settings × Log :=
  match t.resolve path with
  | .error .nameTooLong => (.error (pathFailure .nameTooLong path), [])
  | .error _ =>
    (.ok .empty, [.warning ("Settings file " ++ path ++ " does not exist, ignoring it")])
  | .ok (_, .file content _) => (Settings.ofBytes path content, [])
  | .ok (_, _) => (.error (pathFailure .isDirectory path), [])

end AddonAtlas
