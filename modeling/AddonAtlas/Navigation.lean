import AddonAtlas.Failure
import AddonAtlas.FileTree
import AddonAtlas.Text.Utf8

/-!
# Navigation

From a place in a file to the view that shows it: a few lines above it are kept visible, and the
excerpt is a window of the file's lines. A carriage return, a newline, or both in this order end a
line.
-/

namespace AddonAtlas

/-- A file to show, with the line to put at the top. -/
structure NavigationTarget where
  path : String
  line : Int
deriving DecidableEq, Repr

namespace NavigationTarget

/-- Lines kept visible above a declaration. -/
def linesAbove : Int := 3

/-- The target for a place in a file. -/
def of (path : String) (line : Int) : NavigationTarget :=
  ⟨path, max 1 (line - linesAbove)⟩

end NavigationTarget

/-! ## Lines of a text -/

namespace Bytes

def carriageReturn : UInt8 := 13

/-- Where the first line ends, if something ends it. -/
def textLineEnd? (b : Bytes) : Option Nat :=
  b.findIdxFrom? (fun c => c == newline || c == carriageReturn) 0

/-- The first line of a text without its end, and what stands behind that. -/
def cutTextLine (b : Bytes) : Bytes × Bytes :=
  match b.textLineEnd? with
  | none => (b, b.drop b.size)
  | some i =>
    let isPair := b.get? i == some carriageReturn && b.get? (i + 1) == some newline
    (b.take i, b.drop (if isPair then i + 2 else i + 1))

/-- What stands behind a number of lines. -/
def dropTextLines (b : Bytes) : (count : Nat) → Bytes
  | 0 => b
  | n + 1 => if b.isEmpty then b else b.cutTextLine.2.dropTextLines n

/-- The first lines of a text behind those already taken, of which the last one comes first. -/
def takeTextLinesOnto (taken : List Bytes) (b : Bytes) : (count : Nat) → List Bytes
  | 0 => taken.reverse
  | n + 1 =>
    if b.isEmpty then taken.reverse
    else b.cutTextLine.2.takeTextLinesOnto (b.cutTextLine.1 :: taken) n

/-- The first lines of a text without their ends. A last line without an end counts if it is not empty. -/
def takeTextLines (b : Bytes) (count : Nat) : List Bytes :=
  b.takeTextLinesOnto [] count

end Bytes

/-! ## Windows -/

/-- The number of lines an excerpt shows. -/
def excerptLines : Int := 20

/-- The greatest bound of a window. -/
def maxBound : Int := 9223372036854775807

/-- Whether a window's bound can be represented. -/
def inRange (n : Int) : Bool :=
  -maxBound - 1 ≤ n && n ≤ maxBound

/-- What is wrong with the bounds of a window. -/
def windowFailure? (start stop : Int) : Option Failure :=
  if stop = -1 ∨ !inRange stop then
    some ⟨.value, "Stop argument for islice() must be None or an integer: 0 <= x <= sys.maxsize."⟩
  else if start < 0 ∨ !inRange start ∨ stop < 0 then
    some ⟨.value, "Indices for islice() must be None or an integer: 0 <= x <= sys.maxsize."⟩
  else none

/-- The lines of a text from number `start` up to, not including, number `stop`, counted from zero. -/
def textWindow (content : Bytes) (start stop : Int) : List String :=
  ((content.dropTextLines start.toNat).takeTextLines (stop - start).toNat).map Bytes.decode

/-- The lines shown with the target's line at the top. What cannot be read shows nothing. -/
def viewport (t : FileTree) (target : NavigationTarget) (lines : Int := excerptLines) :
    Except Failure (List String) :=
  if target.path.toList.contains '\x00' then .error ⟨.value, "embedded null byte"⟩
  else
    match t.read target.path with
    | .error _ => .ok []
    | .ok content =>
      let start := target.line - 1
      let stop := start + lines
      match windowFailure? start stop with
      | some failure => .error failure
      | none => .ok (textWindow content start stop)

end AddonAtlas
