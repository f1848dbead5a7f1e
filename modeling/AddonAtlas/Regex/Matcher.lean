import AddonAtlas.Regex.Basic

/-!
# Matching by backtracking

`Regex.run` tries the ways of an expression one after the other, the longest repetition first, and
hands each one's end and captures to a continuation until that gives an answer.
-/

namespace AddonAtlas.Regex

variable {α β : Type} [BEq α]

/-- The first index from `i` on whose symbol is not in the class. -/
def extent (w : Word α) (c : SymbolClass α) (i : Nat) : Nat :=
  if _h : i < w.size then
    match w.get? i with
    | some x => if c.accepts x then extent w c (i + 1) else i
    | none => i
  else i
termination_by w.size - i

/-- The first answer for `low + n`, `low + n - 1`, …, `low`. -/
def tryDown (k : Nat → Option β) (low : Nat) : Nat → Option β
  | 0 => k low
  | n + 1 =>
    match k (low + (n + 1)) with
    | some answer => some answer
    | none => tryDown k low n

/-- Whether the `n` symbols at `a` are those at `i`. -/
def sameSymbols (w : Word α) (a i : Nat) : Nat → Bool
  | 0 => true
  | n + 1 =>
    match w.get? a, w.get? i with
    | some x, some y => x == y && sameSymbols w (a + 1) (i + 1) n
    | _, _ => false

/-- The continuation's first answer on the ways in which `r` runs from index `i`. -/
def run (w : Word α) : Regex α → Nat → Captures → (Nat → Captures → Option β) → Option β
  | .empty, i, caps, k => k i caps
  | .atStart, i, caps, k => if i = 0 then k i caps else none
  | .atEnd, i, caps, k => if i = w.size then k i caps else none
  | .one c, i, caps, k =>
    match w.get? i with
    | some x => if c.accepts x then k (i + 1) caps else none
    | none => none
  | .many c, i, caps, k => tryDown (fun j => k j caps) i (extent w c i - i)
  | .seq r s, i, caps, k => run w r i caps fun j caps₁ => run w s j caps₁ k
  | .alt r s, i, caps, k =>
    match run w r i caps k with
    | some answer => some answer
    | none => run w s i caps k
  | .group n r, i, caps, k => run w r i caps fun j caps₁ => k j ((n, i, j) :: caps₁)
  | .back n, i, caps, k =>
    match caps.find? n with
    | some (a, b) => if sameSymbols w a i (b - a) then k (i + (b - a)) caps else none
    | none => none

/-- The captures of the first way in which `r` runs from the start of the word. -/
def match? (r : Regex α) (w : Word α) : Option Captures :=
  run w r 0 [] fun _ caps => some caps

/-- Whether `r` runs from one of the `n` indices from `i` on. -/
def selectsFrom (r : Regex α) (w : Word α) (i : Nat) : Nat → Bool
  | 0 => false
  | n + 1 => (run w r i [] fun _ _ => some ()).isSome || selectsFrom r w (i + 1) n

/-- Whether `r` takes some part of the word. An anchored expression is tried at the start only. -/
def selects (r : Regex α) (w : Word α) : Bool :=
  selectsFrom r w 0 (if r.isAnchored then 1 else w.size + 1)

end AddonAtlas.Regex
