import AddonAtlas.Number.Real
import AddonAtlas.Proofs.Number.Numeral
import AddonAtlas.Proofs.Text.Ending

/-!
# The number that is none

One of the numbers that are read is neither less nor greater than zero nor equal to it. It is read
from its name only, in letters of either case (`readReal?_eq_nan`) : decimals, however long they are,
are read as numbers that have an order (`readDecimal_ne_nan`).
-/

namespace AddonAtlas.Number

open AddonAtlas.Text

/-- Characters that the number which is none is written with : its name, with a sign or without one,
and white space around them. -/
inductive SpellsNan : List Char → Prop
  | intro {before sign word after : List Char}
      (blankBefore : ∀ c ∈ before, isNumeralSpace c = true)
      (signed : sign = [] ∨ sign = ['+'] ∨ sign = ['-'])
      (named : word.map Char.toLower = ['n', 'a', 'n'])
      (blankAfter : ∀ c ∈ after, isNumeralSpace c = true) :
      SpellsNan (before ++ (sign ++ word ++ after))

/-! ## Decimals -/

namespace Binary64

theorem ofRatio_ne_nan (negative : Bool) (num den : Nat) : ofRatio negative num den ≠ nan := by
  simp only [ofRatio]
  repeat' split
  all_goals simp [zero]

theorem ofDecimal_ne_nan (negative : Bool) (digits : Nat) (exponent : Int) :
    ofDecimal negative digits exponent ≠ nan := by
  simp only [ofDecimal]
  repeat' split
  all_goals simp [zero, ofRatio_ne_nan]

end Binary64

theorem readDecimal_ne_nan (negative : Bool) (cs : List Char) :
    readDecimal negative cs ≠ some .nan := by
  simp only [readDecimal]
  repeat' split
  all_goals simp [Binary64.ofDecimal_ne_nan]

theorem readUnsigned_eq_nan {negative : Bool} {cs : List Char} :
    readUnsigned negative cs = some .nan ↔ cs.map Char.toLower = ['n', 'a', 'n'] := by
  have hword : String.ofList (cs.map Char.toLower) = "nan" ↔
      cs.map Char.toLower = ['n', 'a', 'n'] := by
    rw [← String.toList_inj, String.toList_ofList]
    rfl
  simp only [readUnsigned, hword]
  by_cases hnan : cs.map Char.toLower = ['n', 'a', 'n']
  · simp [hnan]
  · simp only [hnan, if_false, iff_false]
    split
    · simp
    · exact readDecimal_ne_nan negative cs

/-! ## Texts without digits -/

theorem dropUnderscores_of_notMem {l : List Char} (hl : '_' ∉ l) {previous : Option Char}
    (hprevious : previous ≠ some '_') : dropUnderscores previous l = some l := by
  induction l generalizing previous with
  | nil => simp [dropUnderscores, hprevious]
  | cons c rest ih =>
    obtain ⟨hc, hrest⟩ : c ≠ '_' ∧ '_' ∉ rest := by simpa [eq_comm] using hl
    have hc' : some c ≠ some '_' := by simpa using hc
    simp [dropUnderscores, hc, hprevious, ih hrest hc']

/-- Underscores are removed next to digits only. -/
theorem eq_of_dropUnderscores {previous : Option Char} {l cs : List Char}
    (h : dropUnderscores previous l = some cs) (hcs : ∀ c ∈ cs, isAsciiDigit c = false)
    (hprevious : previous.any isAsciiDigit = false) : l = cs := by
  induction l generalizing previous cs with
  | nil =>
    simp only [dropUnderscores] at h
    split at h <;> cases h
    rfl
  | cons c rest ih =>
    simp only [dropUnderscores, hprevious, Bool.false_eq_true, if_false] at h
    split at h
    · cases h
    · split at h
      · cases h
      · obtain ⟨cs, hrest, rfl⟩ := Option.map_eq_some_iff.1 h
        obtain ⟨hc, hcs⟩ := List.forall_mem_cons.1 hcs
        rw [ih hrest hcs (by simpa using hc)]

theorem digitValue?_lt {c : Char} {d : Nat} (h : digitValue? c = some d) : d < 10 := by
  obtain ⟨z, hz, rfl⟩ := Option.map_eq_some_iff.1 h
  have hrange := List.find?_some hz
  simp only [Bool.and_eq_true, decide_eq_true_eq] at hrange
  omega

theorem isAsciiDigit_digitChar : ∀ d < 10, isAsciiDigit (digitChar d) = true := by
  decide

theorem plainDigits_eq_self {l : List Char} (h : ∀ c ∈ plainDigits l, isAsciiDigit c = false) :
    plainDigits l = l := by
  rw [plainDigits, List.forall_mem_map] at h
  refine (List.map_congr_left fun c hc => ?_).trans (List.map_id l)
  have hc := h c hc
  cases hd : digitValue? c with
  | none => rfl
  | some d =>
    rw [hd, Option.elim_some, isAsciiDigit_digitChar d (digitValue?_lt hd)] at hc
    cases hc

theorem plainDigits_of_digitValue? {l : List Char} (h : ∀ c ∈ l, digitValue? c = none) :
    plainDigits l = l :=
  (List.map_congr_left fun c hc => by rw [h c hc]; rfl).trans (List.map_id l)

/-! ## The name -/

theorem eq_or_of_toLower {c lower upper : Char} (h : c.toLower = lower)
    (hupper : upper.val = lower.val - ('a'.val - 'A'.val)) : c = lower ∨ c = upper := by
  unfold Char.toLower at h
  split at h
  · right
    rw [← Char.val_inj, hupper, ← h]
    simp
  · exact .inl h

/-- The characters of the name are neither digits nor marks nor white space. -/
theorem letters_of_named {word : List Char} (h : word.map Char.toLower = ['n', 'a', 'n']) :
    word ≠ [] ∧ ∀ c ∈ word, digitValue? c = none ∧ isAsciiDigit c = false ∧
      isNumeralSpace c = false ∧ c ≠ '_' ∧ c ≠ '+' ∧ c ≠ '-' := by
  obtain ⟨x, t, rfl, hx, h⟩ := List.map_eq_cons_iff.1 h
  obtain ⟨y, t, rfl, hy, h⟩ := List.map_eq_cons_iff.1 h
  obtain ⟨z, t, rfl, hz, h⟩ := List.map_eq_cons_iff.1 h
  obtain rfl := List.map_eq_nil_iff.1 h
  have hletter : ∀ c, c = 'n' ∨ c = 'N' ∨ c = 'a' ∨ c = 'A' → digitValue? c = none ∧
      isAsciiDigit c = false ∧ isNumeralSpace c = false ∧ c ≠ '_' ∧ c ≠ '+' ∧ c ≠ '-' := by
    rintro c (rfl | rfl | rfl | rfl) <;> decide +kernel
  have hx : x = 'n' ∨ x = 'N' := eq_or_of_toLower hx (by decide)
  have hy : y = 'a' ∨ y = 'A' := eq_or_of_toLower hy (by decide)
  have hz : z = 'n' ∨ z = 'N' := eq_or_of_toLower hz (by decide)
  refine ⟨List.cons_ne_nil _ _, fun c hc => hletter c ?_⟩
  simp only [List.mem_cons, List.not_mem_nil, or_false] at hc
  rcases hc with rfl | rfl | rfl
  · exact hx.elim .inl (.inr ∘ .inl)
  · exact .inr (.inr hy)
  · exact hz.elim .inl (.inr ∘ .inl)

theorem plain_of_signed {sign : List Char} (h : sign = [] ∨ sign = ['+'] ∨ sign = ['-']) :
    ∀ c ∈ sign, digitValue? c = none ∧ isAsciiDigit c = false ∧ isNumeralSpace c = false ∧
      c ≠ '_' := by
  rcases h with rfl | rfl | rfl
  · exact List.forall_mem_nil _
  · exact List.forall_mem_singleton.2 (by decide +kernel)
  · exact List.forall_mem_singleton.2 (by decide +kernel)

theorem readReal?_of_spells {text : String} (h : SpellsNan text.toList) :
    readReal? text = some .nan := by
  generalize htext : text.toList = cs at h
  cases h with
  | @intro before sign word after blankBefore signed named blankAfter =>
    obtain ⟨hne, hword⟩ := letters_of_named named
    have hplain : ∀ c ∈ sign ++ word,
        digitValue? c = none ∧ isNumeralSpace c = false ∧ c ≠ '_' := by
      intro c hc
      rcases List.mem_append.1 hc with hc | hc
      · obtain ⟨hdigit, -, hspace, hmark⟩ := plain_of_signed signed c hc
        exact ⟨hdigit, hspace, hmark⟩
      · obtain ⟨hdigit, -, hspace, hmark, -⟩ := hword c hc
        exact ⟨hdigit, hspace, hmark⟩
    have htrim : trim isNumeralSpace text.toList = sign ++ word := by
      rw [htext, trim_append_of_pos blankBefore _ blankAfter]
      exact trim_eq_self (fun c hc => (hplain c (List.mem_of_mem_head? hc)).2.1)
        fun c hc => (hplain c (List.mem_of_mem_getLast? hc)).2.1
    obtain ⟨negative, hsplit⟩ : ∃ negative, splitSign (sign ++ word) = (negative, word) := by
      rcases signed with rfl | rfl | rfl
      · obtain ⟨c, t, rfl⟩ := List.exists_cons_of_ne_nil hne
        obtain ⟨-, -, -, -, hplus, hminus⟩ := hword c List.mem_cons_self
        exact ⟨false, splitSign_of_ne hplus hminus t⟩
      · exact ⟨false, rfl⟩
      · exact ⟨true, rfl⟩
    rw [readReal?, htrim, plainDigits_of_digitValue? fun c hc => (hplain c hc).1,
      dropUnderscores_of_notMem (fun hc => (hplain _ hc).2.2 rfl) (by simp), Option.bind_some,
      hsplit]
    exact readUnsigned_eq_nan.2 named

theorem spells_of_readReal? {text : String} (h : readReal? text = some .nan) :
    SpellsNan text.toList := by
  obtain ⟨cs, hcs, hread⟩ := Option.bind_eq_some_iff.1 h
  have named := readUnsigned_eq_nan.1 hread
  obtain ⟨-, hword⟩ := letters_of_named named
  obtain ⟨sign, hsign, hspelled⟩ := exists_of_splitSign cs
  have signed := (hspelled 0).eq_or
  have hnodigit : ∀ c ∈ cs, isAsciiDigit c = false := by
    intro c hc
    rw [hsign, List.mem_append] at hc
    rcases hc with hc | hc
    · exact (plain_of_signed signed c hc).2.1
    · exact (hword c hc).2.1
  have hplain := eq_of_dropUnderscores hcs hnodigit rfl
  rw [← hplain] at hnodigit
  have htrim := (plainDigits_eq_self hnodigit).symm.trans hplain
  obtain ⟨before, after, htext, blankBefore, blankAfter⟩ :=
    exists_eq_append_trim isNumeralSpace text.toList
  rw [htext, htrim, hsign]
  exact .intro blankBefore signed named blankAfter

/-- The number that is none is read from its name, and from nothing else. -/
theorem readReal?_eq_nan {text : String} : readReal? text = some .nan ↔ SpellsNan text.toList :=
  ⟨spells_of_readReal?, readReal?_of_spells⟩

end AddonAtlas.Number
