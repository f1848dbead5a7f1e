/-!
# Regular expressions with groups and back references

`Regex α` is the syntax, over any alphabet: classes of symbols and their repetition, sequence,
alternatives, numbered groups, references back to what a group took, and the two anchors.
`Regex.Runs` says which parts of a word an expression takes, and with which captures: the meaning
against which a matcher is measured.
-/

namespace AddonAtlas

/-- A class of symbols. -/
inductive SymbolClass (α : Type)
  | only (c : α)
  | oneOf (cs : List α)
  | noneOf (cs : List α)
deriving DecidableEq, Repr

namespace SymbolClass

variable {α : Type} [BEq α]

/-- Whether a symbol is in the class. -/
def accepts : SymbolClass α → α → Bool
  | only c, x => x == c
  | oneOf cs, x => cs.contains x
  | noneOf cs, x => !cs.contains x

end SymbolClass

/-- Regular expressions. Repetition applies to single symbols. -/
inductive Regex (α : Type)
  /-- Takes nothing. -/
  | empty
  /-- Takes nothing, at the start of the word. -/
  | atStart
  /-- Takes nothing, at the end of the word. -/
  | atEnd
  /-- Takes one symbol of the class. -/
  | one (c : SymbolClass α)
  /-- Takes any number of symbols of the class. -/
  | many (c : SymbolClass α)
  | seq (r s : Regex α)
  | alt (r s : Regex α)
  /-- Takes what `r` takes and records it under a number. -/
  | group (n : Nat) (r : Regex α)
  /-- Takes again what the group of this number took last. -/
  | back (n : Nat)
deriving Repr

/-- A word with access by index. -/
structure Word (α : Type) where
  size : Nat
  /-- The symbol at an index, `none` from `size` on. -/
  get? : Nat → Option α

/-- The word of a list. -/
def Word.ofList {α : Type} (l : List α) : Word α :=
  ⟨l.length, fun i => l[i]?⟩

/-- The word of an array. -/
def Word.ofArray {α : Type} (a : Array α) : Word α :=
  ⟨a.size, fun i => a[i]?⟩

/-- What groups took: number, start and end, the latest first. -/
abbrev Captures := List (Nat × Nat × Nat)

namespace Captures

/-- What the group of a number took last. -/
def find? (caps : Captures) (n : Nat) : Option (Nat × Nat) :=
  (List.find? (fun c => c.1 == n) caps).map (·.2)

end Captures

namespace Regex

variable {α : Type}

/-- The symbols of a text one after the other. -/
def literal (cs : List α) : Regex α :=
  cs.foldr (fun c r => seq (one (.only c)) r) empty

/-- Whether the expression can run from the start of the word only. -/
def isAnchored : Regex α → Bool
  | atStart => true
  | seq r _ => r.isAnchored
  | alt r s => r.isAnchored && s.isAnchored
  | group _ r => r.isAnchored
  | _ => false

variable [BEq α]

/-- `Runs w r i caps j caps'` : on the word `w`, after the captures `caps`, the expression `r` can
take the symbols from index `i` to index `j`, and the captures are `caps'` afterwards. -/
inductive Runs (w : Word α) : Regex α → Nat → Captures → Nat → Captures → Prop
  | empty {i caps} : Runs w empty i caps i caps
  | atStart {caps} : Runs w atStart 0 caps 0 caps
  | atEnd {caps} : Runs w atEnd w.size caps w.size caps
  | one {c i caps x} (hx : w.get? i = some x) (hc : c.accepts x = true) :
    Runs w (one c) i caps (i + 1) caps
  | many {c i j caps} (hij : i ≤ j)
    (h : ∀ n, i ≤ n → n < j → ∃ x, w.get? n = some x ∧ c.accepts x = true) :
    Runs w (many c) i caps j caps
  | seq {r s i j k caps caps₁ caps₂} (hr : Runs w r i caps j caps₁)
    (hs : Runs w s j caps₁ k caps₂) : Runs w (seq r s) i caps k caps₂
  | altLeft {r s i j caps caps₁} (hr : Runs w r i caps j caps₁) : Runs w (alt r s) i caps j caps₁
  | altRight {r s i j caps caps₁} (hs : Runs w s i caps j caps₁) : Runs w (alt r s) i caps j caps₁
  | group {n r i j caps caps₁} (hr : Runs w r i caps j caps₁) :
    Runs w (group n r) i caps j ((n, i, j) :: caps₁)
  | back {n i a b caps} (hcap : caps.find? n = some (a, b))
    (h : ∀ d, d < b - a → ∃ x y, w.get? (a + d) = some x ∧ w.get? (i + d) = some y ∧
      (x == y) = true) :
    Runs w (back n) i caps (i + (b - a)) caps

theorem Runs.eq_zero_of_isAnchored {w : Word α} {r : Regex α} {i j : Nat} {caps caps' : Captures}
    (h : Runs w r i caps j caps') (ha : r.isAnchored = true) : i = 0 := by
  induction h <;> simp_all [isAnchored]

/-- An expression selects a word if it takes some part of it. -/
def Selects (r : Regex α) (w : Word α) : Prop :=
  ∃ i j caps, i ≤ w.size ∧ Runs w r i [] j caps

end Regex

end AddonAtlas
