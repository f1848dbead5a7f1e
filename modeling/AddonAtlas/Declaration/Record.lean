import AddonAtlas.Declaration.Pattern
import AddonAtlas.Number.Integer

/-!
# Hits and declarations

A hit is one line that the search program reports, read from a record `path:line:text`. A
declaration is a hit with the identity of the model it declares.
-/

namespace AddonAtlas

open AddonAtlas.Number

/-- One line found by a scan. -/
structure Hit where
  path : String
  line : Int
  text : String
deriving DecidableEq, Repr

namespace Hit

/-- The parts of a text before and after its first colon. -/
def splitColon (cs : List Char) : Option (List Char × List Char) :=
  match cs.dropWhile (· != ':') with
  | [] => none
  | _ :: rest => some (cs.takeWhile (· != ':'), rest)

/-- Reads a record `path:line:text`. The first two colons separate the fields, and the line number is
at least one. -/
def parse? (record : String) : Option Hit := do
  let (path, rest) ← splitColon record.toList
  let (number, text) ← splitColon rest
  match readInteger (String.ofList number) with
  | .error _ => none
  | .ok n => if n < 1 then none else some ⟨String.ofList path, n, String.ofList text⟩

/-- The record of a hit. -/
def render (h : Hit) : String :=
  h.path ++ ":" ++ toString h.line ++ ":" ++ h.text

end Hit

/-- A declaration of a model. -/
structure Declaration where
  identity : String
  path : String
  line : Int
deriving DecidableEq, Repr

namespace Declaration

/-- The identity of lines whose value cannot be read. -/
def unreadable : String := "=_="

/-- The declaration of a hit. A line that does not fit the pattern is kept as unreadable. -/
def ofHit (p : DeclarationPattern) (h : Hit) : Declaration where
  identity := (p.matchValue h.text).getD unreadable
  path := h.path
  line := h.line

end Declaration

/-! ## Labels -/

/-- The number of path segments shown for a declaration. -/
def labelSegments : Nat := 4

/-- The last segments of a path. -/
def browseLabel (path : String) : String :=
  let segments := path.toList.splitOn '/'
  "/".intercalate ((segments.drop (segments.length - labelSegments)).map String.ofList)

/-- A path without the first root it begins with. -/
def displayLabel (path : String) (roots : List String) : String :=
  match roots.find? fun r => r.toList.isPrefixOf path.toList with
  | some r => String.ofList (path.toList.drop r.length)
  | none => path

end AddonAtlas
