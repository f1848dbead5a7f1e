import AddonAtlas.Number.Integer
import Mathlib.Data.Nat.Digits.Defs
import Mathlib.Data.List.TakeWhile

/-!
# Numerals

A number that is written in digits is read back as it is (`readInteger_toString`), unless it has
more digits than are read. But an integer may be written in many ways : with white space around it,
with a sign, with digits of any script, with leading zeros and with underscores between digits
(`SpellsInteger`). These are the texts that are read as it, and no others are read as integers
(`readInteger_eq_ok`).
-/

namespace AddonAtlas.Number

open AddonAtlas.Text

/-! ## Numbers in digits -/

theorem isDigit_of_mem_toString {n : Nat} {c : Char} (hc : c ∈ (toString n).toList) :
    c.isDigit = true := by
  have hrepr : (toString n).toList = Nat.toDigits 10 n := Nat.toList_repr
  rw [hrepr] at hc
  exact Nat.isDigit_of_mem_toDigits (by decide) (by decide) hc

theorem notMem_toString {c : Char} (hc : c.isDigit = false) (n : Nat) :
    c ∉ (toString n).toList := fun hmem => by
  rw [isDigit_of_mem_toString hmem] at hc
  cases hc

theorem toString_ne_nil (n : Nat) : (toString n).toList ≠ [] := by
  have hrepr : (toString n).toList = Nat.toDigits 10 n := Nat.toList_repr
  rw [hrepr]
  exact Nat.toDigits_ne_nil

theorem bounds_of_isDigit {c : Char} (hc : c.isDigit = true) :
    48 ≤ c.toNat ∧ c.toNat < 58 := by
  have hzero : '0'.toNat = 48 := rfl
  have hnine : '9'.toNat = 57 := rfl
  have := Char.isDigit_iff_toNat.1 hc
  omega

theorem digitValue?_of_isDigit {c : Char} (hc : c.isDigit = true) :
    digitValue? c = some (c.toNat - '0'.toNat) := by
  obtain ⟨hle, hlt⟩ := bounds_of_isDigit hc
  simp [digitValue?, digitZeros, hle, hlt]

/-- Digits are read to the end. -/
theorem digitRun_of_isDigit {cs : List Char} (hcs : ∀ c ∈ cs, c.isDigit = true) (acc : List Nat) :
    digitRun false acc cs = some (acc.reverse ++ cs.map (·.toNat - '0'.toNat), []) := by
  induction cs generalizing acc with
  | nil => simp [digitRun]
  | cons c cs ih =>
    obtain ⟨hc, hcs⟩ := List.forall_mem_cons.1 hcs
    simp [digitRun, digitValue?_of_isDigit hc, ih hcs]

theorem ofDigits_toString (n : Nat) :
    ofDigits ((toString n).toList.map (·.toNat - '0'.toNat)) = n := by
  have hrepr : (toString n).toList = Nat.toDigits 10 n := Nat.toList_repr
  rw [hrepr, ofDigits, List.foldl_map]
  exact Nat.ofDigitChars_toDigits (by decide) (by decide)

/-- What begins with no sign has none. -/
theorem splitSign_of_ne {c : Char} (hplus : c ≠ '+') (hminus : c ≠ '-') (t : List Char) :
    splitSign (c :: t) = (false, c :: t) := by
  unfold splitSign
  split
  · next h => exact absurd (List.cons.inj h).1 hminus
  · next h => exact absurd (List.cons.inj h).1 hplus
  · rfl

/-- A number is read back from its digits. -/
theorem readInteger_toString (n : Nat) :
    readInteger (toString n) =
      if maxDigits < (toString n).length then .error (.tooManyDigits (toString n).length)
      else .ok n := by
  have hdigits : ∀ c ∈ (toString n).toList, c.isDigit = true := fun _ => isDigit_of_mem_toString
  have hlength : (toString n).length = (toString n).toList.length := (String.length_toList).symm
  have hvalue := ofDigits_toString n
  rw [hlength]
  simp only [readInteger]
  cases hcs : (toString n).toList with
  | nil => exact absurd hcs (toString_ne_nil n)
  | cons c cs =>
    rw [hcs] at hdigits hvalue
    obtain ⟨hc, htail⟩ := List.forall_mem_cons.1 hdigits
    have hspace : isNumeralSpace c = false := by
      have := bounds_of_isDigit hc
      simp only [isNumeralSpace, Bool.or_eq_false_iff, Bool.and_eq_false_iff, decide_eq_false_iff_not,
        beq_eq_false_iff_ne]
      omega
    have hsign : splitSign (c :: cs) = (false, c :: cs) := by
      refine splitSign_of_ne ?_ ?_ cs
      · rintro rfl
        cases hc
      · rintro rfl
        cases hc
    have hrun : digitRun true [] (c :: cs) =
        some ((c :: cs).map (·.toNat - '0'.toNat), []) := by
      simp [digitRun, digitValue?_of_isDigit hc, digitRun_of_isDigit htail]
    rw [List.dropWhile_cons_of_neg (by simp [hspace]), hsign]
    simp only [hrun, List.length_map, List.all_nil, if_true, hvalue, Bool.false_eq_true, if_false]

/-! ## How integers are written -/

/-- Characters that digits are written with : one for each, of any script, and single underscores
between them. -/
inductive SpellsDigits : List Char → List Nat → Prop
  | last {c : Char} {d : Nat} (hd : digitValue? c = some d) : SpellsDigits [c] [d]
  | next {c : Char} {d : Nat} {cs : List Char} {ds : List Nat} (hd : digitValue? c = some d)
      (h : SpellsDigits cs ds) : SpellsDigits (c :: cs) (d :: ds)
  | apart {c : Char} {d : Nat} {cs : List Char} {ds : List Nat} (hd : digitValue? c = some d)
      (h : SpellsDigits cs ds) : SpellsDigits (c :: '_' :: cs) (d :: ds)

/-- What may stand in front of the digits of a number, and the integer it makes of it. -/
inductive SpellsSign (n : Nat) : List Char → Int → Prop
  | none : SpellsSign n [] n
  | plus : SpellsSign n ['+'] n
  | minus : SpellsSign n ['-'] (-n)

/-- Characters that an integer is written with : its digits, of which there are not too many, with
a sign or without one, and white space around them. -/
inductive SpellsInteger : List Char → Int → Prop
  | intro {before sign digits after : List Char} {ds : List Nat} {n : Int}
      (blankBefore : ∀ c ∈ before, isNumeralSpace c = true)
      (signed : SpellsSign (Nat.ofDigits 10 ds.reverse) sign n) (written : SpellsDigits digits ds)
      (short : ds.length ≤ maxDigits) (blankAfter : ∀ c ∈ after, isNumeralSpace c = true) :
      SpellsInteger (before ++ (sign ++ (digits ++ after))) n

/-! ## Digits -/

theorem notSpace_of_digitValue? {c : Char} {d : Nat} (h : digitValue? c = some d) :
    isNumeralSpace c = false := by
  have hzeros : ∀ z ∈ digitZeros, ∀ i < 10,
      ((9 ≤ z + i && z + i ≤ 13) || z + i == 0x20 || z + i == 0x85 || z + i == 0xA0 ||
        z + i == 0x1680 || (0x2000 ≤ z + i && z + i ≤ 0x200A) || z + i == 0x2028 ||
        z + i == 0x2029 || z + i == 0x202F || z + i == 0x205F || z + i == 0x3000) = false := by
    decide +kernel
  obtain ⟨z, hz, -⟩ := Option.map_eq_some_iff.1 h
  have hmem := List.mem_of_find?_eq_some hz
  have hrange := List.find?_some hz
  simp only [Bool.and_eq_true, decide_eq_true_eq] at hrange
  have := hzeros z hmem (c.toNat - z) (by omega)
  rwa [Nat.add_sub_cancel' hrange.1] at this

theorem digitValue?_of_isNumeralSpace {c : Char} (h : isNumeralSpace c = true) :
    digitValue? c = none := by
  rw [Option.eq_none_iff_forall_ne_some]
  intro d hd
  rw [notSpace_of_digitValue? hd] at h
  cases h

theorem SpellsDigits.exists_cons {cs : List Char} {ds : List Nat} (h : SpellsDigits cs ds) :
    ∃ c t d, cs = c :: t ∧ digitValue? c = some d := by
  cases h with
  | last hd => exact ⟨_, _, _, rfl, hd⟩
  | next hd => exact ⟨_, _, _, rfl, hd⟩
  | apart hd => exact ⟨_, _, _, rfl, hd⟩

/-- A run of digits ends in front of white space. -/
theorem digitRun_of_blank {rest : List Char} (h : ∀ c ∈ rest, isNumeralSpace c = true)
    (acc : List Nat) : digitRun false acc rest = some (acc.reverse, rest) := by
  cases rest with
  | nil => rfl
  | cons c rest =>
    obtain ⟨hc, -⟩ := List.forall_mem_cons.1 h
    have hmark : c ≠ '_' := by
      rintro rfl
      cases hc
    simp [digitRun, digitValue?_of_isNumeralSpace hc, hmark]

/-- Digits are read as they are written, up to white space. -/
theorem digitRun_append {cs : List Char} {ds : List Nat} (h : SpellsDigits cs ds)
    {rest : List Char} (hrest : ∀ c ∈ rest, isNumeralSpace c = true) (acc : List Nat) :
    digitRun true acc (cs ++ rest) = some (acc.reverse ++ ds, rest) := by
  induction h generalizing acc with
  | last hd => simp [digitRun, hd, digitRun_of_blank hrest]
  | @next c d cs ds hd h ih =>
    -- A digit may come after a digit as well as at the start.
    have hfresh : digitRun false (d :: acc) (cs ++ rest) =
        digitRun true (d :: acc) (cs ++ rest) := by
      obtain ⟨c', t, d', rfl, hd'⟩ := h.exists_cons
      simp [digitRun, hd']
    simp [digitRun, hd, hfresh, ih]
  | apart hd h ih =>
    have hmark : digitValue? '_' = none := by decide +kernel
    simp [digitRun, hd, hmark, ih]

/-- What is read as digits is written as they are ; behind a digit that was read before, an
underscore may come first. -/
theorem exists_of_digitRun {fresh : Bool} {acc : List Nat} {cs : List Char} {ds : List Nat}
    {rest : List Char} (h : digitRun fresh acc cs = some (ds, rest)) :
    ∃ front ds', cs = front ++ rest ∧ ds = acc.reverse ++ ds' ∧
      (fresh = true → SpellsDigits front ds') ∧
      (fresh = false → ∀ c d, digitValue? c = some d → SpellsDigits (c :: front) (d :: ds')) := by
  fun_induction digitRun fresh acc cs with
  | case1 => cases h
  | case2 fresh acc hfresh =>
    cases h
    exact ⟨[], [], rfl, by simp, fun h => absurd h hfresh, fun _ c d hd => .last hd⟩
  | case3 fresh acc c rest' d hd ih =>
    obtain ⟨front, ds', rfl, rfl, -, hfront⟩ := ih h
    have hfront := hfront rfl c d hd
    exact ⟨c :: front, d :: ds', rfl, by simp, fun _ => hfront, fun _ c' d' hd' => .next hd' hfront⟩
  | case4 => cases h
  | case5 fresh acc rest' hfresh hd ih =>
    obtain ⟨front, ds', rfl, rfl, hfront, -⟩ := ih h
    exact ⟨'_' :: front, ds', rfl, rfl, fun h => absurd h hfresh,
      fun _ c d hd => .apart hd (hfront rfl)⟩
  | case6 fresh acc c rest' hd hfresh hmark =>
    cases h
    exact ⟨[], [], rfl, by simp, fun h => absurd h hfresh, fun _ c d hd => .last hd⟩

theorem ofDigits_eq (ds : List Nat) : ofDigits ds = Nat.ofDigits 10 ds.reverse := by
  rw [Nat.ofDigits_eq_foldr, List.foldr_reverse, ofDigits]
  congr
  funext n d
  simp [Nat.add_comm]

/-! ## Integers -/

theorem SpellsSign.splitSign {n : Nat} {sign : List Char} {i : Int} (h : SpellsSign n sign i)
    {c : Char} {d : Nat} (hd : digitValue? c = some d) (t : List Char) :
    ∃ negative, Number.splitSign (sign ++ c :: t) = (negative, c :: t) ∧
      i = if negative then -(n : Int) else n := by
  cases h with
  | none =>
    have hplus : digitValue? '+' = Option.none := by decide +kernel
    have hminus : digitValue? '-' = Option.none := by decide +kernel
    refine ⟨false, splitSign_of_ne ?_ ?_ t, rfl⟩
    · rintro rfl
      simp [hplus] at hd
    · rintro rfl
      simp [hminus] at hd
  | plus => exact ⟨false, rfl, rfl⟩
  | minus => exact ⟨true, rfl, rfl⟩

theorem SpellsSign.eq_or {n : Nat} {sign : List Char} {i : Int} (h : SpellsSign n sign i) :
    sign = [] ∨ sign = ['+'] ∨ sign = ['-'] := by
  cases h with
  | none => exact .inl rfl
  | plus => exact .inr (.inl rfl)
  | minus => exact .inr (.inr rfl)

theorem exists_of_splitSign (cs : List Char) :
    ∃ sign, cs = sign ++ (Number.splitSign cs).2 ∧
      ∀ n : Nat, SpellsSign n sign (if (Number.splitSign cs).1 then -(n : Int) else n) := by
  unfold Number.splitSign
  split
  · exact ⟨['-'], rfl, fun _ => .minus⟩
  · exact ⟨['+'], rfl, fun _ => .plus⟩
  · exact ⟨[], rfl, fun _ => .none⟩

theorem readInteger_of_spells {text : String} {n : Int} (h : SpellsInteger text.toList n) :
    readInteger text = .ok n := by
  generalize htext : text.toList = cs at h
  cases h with
  | @intro before sign digits after ds n blankBefore signed written short blankAfter =>
    obtain ⟨c, t, d, rfl, hd⟩ := written.exists_cons
    have hspace : isNumeralSpace c = false := notSpace_of_digitValue? hd
    have hfront : (before ++ (sign ++ (c :: t ++ after))).dropWhile isNumeralSpace =
        sign ++ c :: (t ++ after) := by
      rw [List.dropWhile_append_of_pos blankBefore]
      cases signed with
      | none => exact List.dropWhile_cons_of_neg (by simp [hspace])
      | plus => exact List.dropWhile_cons_of_neg (by decide)
      | minus => exact List.dropWhile_cons_of_neg (by decide)
    obtain ⟨negative, hsign, rfl⟩ := signed.splitSign hd (t ++ after)
    have hrun := digitRun_append written blankAfter []
    rw [List.reverse_nil, List.nil_append, List.cons_append] at hrun
    have hafter : after.all isNumeralSpace = true := List.all_eq_true.2 blankAfter
    simp only [readInteger, htext, hfront, hsign, hrun, Nat.not_lt_of_le short, if_false, hafter,
      if_true, ofDigits_eq]

theorem spells_of_readInteger {text : String} {n : Int} (h : readInteger text = .ok n) :
    SpellsInteger text.toList n := by
  simp only [readInteger] at h
  obtain ⟨sign, hsplit, hsign⟩ := exists_of_splitSign (text.toList.dropWhile isNumeralSpace)
  split at h
  · cases h
  · next ds rest hrun =>
    obtain ⟨front, ds', hbody, hds, hfront, -⟩ := exists_of_digitRun hrun
    obtain rfl : ds = ds' := hds
    split at h
    · cases h
    · next short =>
      split at h
      · next hrest =>
        cases h
        have htext : text.toList = text.toList.takeWhile isNumeralSpace ++
            (sign ++ (front ++ rest)) := by
          rw [← hbody, ← hsplit, List.takeWhile_append_dropWhile]
        have hspells := SpellsInteger.intro
          (fun c (hc : c ∈ text.toList.takeWhile isNumeralSpace) => List.mem_takeWhile_imp hc)
          (hsign _) (hfront rfl) (Nat.le_of_not_lt short) (List.all_eq_true.1 hrest)
        rwa [← htext, ← ofDigits_eq] at hspells
      · cases h

/-- An integer is read from the texts it is written as, and from no others. -/
theorem readInteger_eq_ok {text : String} {n : Int} :
    readInteger text = .ok n ↔ SpellsInteger text.toList n :=
  ⟨spells_of_readInteger, readInteger_of_spells⟩

end AddonAtlas.Number
