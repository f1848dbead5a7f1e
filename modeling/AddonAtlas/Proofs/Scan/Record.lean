import AddonAtlas.Proofs.Scan.Place

/-!
# How hits are recorded

A record has three fields with colons between them : the path of a hit, its line number, and its
text. The path and the number have no colon, so they are told from the text, which may have any. The
number may be spelled in any way in which an integer is written (`Hit.Recorded`). These are the
texts that are read as the hit, and no others are (`Hit.parse?_eq_some_iff`).

So two records of one hit differ in the spelling of the number at most. One of them is the record
that is printed, as long as the number has no more digits than are read (`Hit.parse?_render`).
-/

namespace AddonAtlas

open Number (SpellsInteger maxDigits readInteger_eq_ok readInteger_toString notMem_toString)

/-! ## Line numbers -/

namespace Number

theorem length_toString_le_iff {n k : Nat} (hk : 0 < k) : (toString n).length ≤ k ↔ n < 10 ^ k := by
  have hlength : (toString n).length = (Nat.toDigits 10 n).length := by
    rw [← String.length_toList]
    exact congrArg List.length Nat.toList_repr
  rw [hlength]
  exact Nat.length_toDigits_le_iff (by decide) hk

end Number

namespace Hit

/-- The line number of a field is the integer that the field spells, if this is positive. -/
theorem number?_eq_some_iff {field : List Char} {n : Int} :
    number? field = some n ↔ SpellsInteger field n ∧ 1 ≤ n := by
  have hread : ∀ k, Number.readInteger (String.ofList field) = .ok k ↔ SpellsInteger field k :=
    fun k => by rw [readInteger_eq_ok, String.toList_ofList]
  rw [number?]
  cases h : Number.readInteger (String.ofList field) with
  | error fault =>
    refine iff_of_false (by simp) fun hn => ?_
    rw [(hread n).2 hn.1] at h
    cases h
  | ok k =>
    have hk := (hread k).1 h
    constructor
    · intro hn
      by_cases hlt : k < 1
      · simp [hlt] at hn
      · obtain rfl : k = n := by simpa [hlt] using hn
        exact ⟨hk, by omega⟩
    · rintro ⟨hn, hle⟩
      obtain rfl : k = n := Except.ok.inj (h.symm.trans ((hread n).2 hn))
      simp [Int.not_lt.2 hle]

/-- A positive number is read back from its digits, unless these are too many. -/
theorem number?_toString_iff {n : Nat} :
    number? (toString n).toList = some (n : Int) ↔ 1 ≤ n ∧ n < 10 ^ maxDigits := by
  have hspells : SpellsInteger (toString n).toList n ↔ n < 10 ^ maxDigits := by
    rw [← readInteger_eq_ok, readInteger_toString, ← Number.length_toString_le_iff (by decide)]
    split
    · next hlong => exact iff_of_false (by simp) (Nat.not_le_of_lt hlong)
    · next hshort => exact iff_of_true rfl (Nat.le_of_not_lt hshort)
  rw [number?_eq_some_iff, hspells, and_comm]
  exact and_congr_left' (by omega)

/-! ## Records -/

/-- A record of a hit, with the spelling of its line number. -/
structure Recorded (h : Hit) (number record : String) : Prop where
  fields : record = h.path ++ ":" ++ number ++ ":" ++ h.text
  pathFree : ':' ∉ h.path.toList
  numberFree : ':' ∉ number.toList
  spells : SpellsInteger number.toList h.line
  positive : 1 ≤ h.line

/-- The characters of three fields. -/
theorem toList_fields (path number text : String) :
    (path ++ ":" ++ number ++ ":" ++ text).toList =
      path.toList ++ ':' :: (number.toList ++ ':' :: text.toList) := by
  simp

theorem parse?_fields {path number : String} (hpath : ':' ∉ path.toList)
    (hnumber : ':' ∉ number.toList) (text : String) :
    parse? (path ++ ":" ++ number ++ ":" ++ text) =
      (number? number.toList).map fun n => ⟨path, n, text⟩ := by
  have hparse := parse?_append hpath hnumber text.toList
  rwa [← toList_fields, String.ofList_toList, String.ofList_toList, String.ofList_toList] at hparse

/-- A hit is read from its records, and from no other texts. -/
theorem parse?_eq_some_iff {record : String} {h : Hit} :
    parse? record = some h ↔ ∃ number, h.Recorded number record := by
  constructor
  · intro hparse
    have hfields := hparse
    rw [parse?] at hfields
    obtain ⟨⟨path, rest⟩, hpath, hfields⟩ := Option.bind_eq_some_iff.1 hfields
    obtain ⟨⟨number, text⟩, hnumber, -⟩ := Option.bind_eq_some_iff.1 hfields
    obtain ⟨hrecord, hpathFree⟩ := eq_of_splitColon hpath
    obtain ⟨rfl, hnumberFree⟩ := eq_of_splitColon hnumber
    have heq : record = String.ofList path ++ ":" ++ String.ofList number ++ ":" ++
        String.ofList text := by
      rw [← String.toList_inj, toList_fields]
      simpa using hrecord
    rw [← String.toList_ofList (l := path)] at hpathFree
    rw [← String.toList_ofList (l := number)] at hnumberFree
    rw [heq, parse?_fields hpathFree hnumberFree] at hparse
    obtain ⟨n, hn, rfl⟩ := Option.map_eq_some_iff.1 hparse
    obtain ⟨hspells, hpositive⟩ := number?_eq_some_iff.1 hn
    exact ⟨_, heq, hpathFree, hnumberFree, hspells, hpositive⟩
  · rintro ⟨number, rfl, hpath, hnumber, hspells, hpositive⟩
    rw [parse?_fields hpath hnumber, number?_eq_some_iff.2 ⟨hspells, hpositive⟩, Option.map_some]

/-- A hit is read back from its record as it is printed, unless its path has a colon, or its line
number is not positive or too long. -/
theorem parse?_render {h : Hit} :
    parse? h.render = some h ↔ ':' ∉ h.path.toList ∧ 1 ≤ h.line ∧ h.line < 10 ^ maxDigits := by
  have hprinted : ∀ n : Nat, ':' ∉ h.path.toList → h.line = n →
      parse? h.render = (number? (toString n).toList).map fun k => ⟨h.path, k, h.text⟩ := by
    intro n hpath hn
    rw [render, hn]
    exact parse?_fields hpath (notMem_toString rfl n) h.text
  constructor
  · intro hparse
    obtain ⟨number, -, hpath, -, -, hpositive⟩ := parse?_eq_some_iff.1 hparse
    obtain ⟨n, hn⟩ := Int.eq_ofNat_of_zero_le (show 0 ≤ h.line by omega)
    rw [hprinted n hpath hn] at hparse
    obtain ⟨k, hk, heq⟩ := Option.map_eq_some_iff.1 hparse
    obtain rfl : k = n := (congrArg Hit.line heq).trans hn
    obtain ⟨-, hshort⟩ := number?_toString_iff.1 hk
    exact ⟨hpath, hpositive, by rw [hn]; exact_mod_cast hshort⟩
  · rintro ⟨hpath, hpositive, hshort⟩
    obtain ⟨n, hn⟩ := Int.eq_ofNat_of_zero_le (show 0 ≤ h.line by omega)
    rw [hn] at hshort hpositive
    rw [hprinted n hpath hn,
      number?_toString_iff.2 ⟨by exact_mod_cast hpositive, by exact_mod_cast hshort⟩, ← hn]
    rfl

/-- The records of a hit are told apart by the spelling of its line number. -/
theorem Recorded.inj {h : Hit} {number number' record record' : String}
    (hrecord : h.Recorded number record) (hrecord' : h.Recorded number' record') :
    record = record' ↔ number = number' := by
  rw [hrecord.fields, hrecord'.fields]
  simp

/-- What is read of records. A text is read as a hit if it is a record of it, whatever its number is
spelled like, and as nothing otherwise ; a hit is read back from the record that is printed, if its
path has no colon and its line number is positive and not too long, and only then ; and texts that are
read as one hit are records of it, which differ in the spelling of the number at most. -/
theorem records_are_exact :
    (∀ (record : String) (h : Hit), parse? record = some h ↔ ∃ number, h.Recorded number record) ∧
      (∀ h : Hit, parse? h.render = some h ↔
        ':' ∉ h.path.toList ∧ 1 ≤ h.line ∧ h.line < 10 ^ maxDigits) ∧
      ∀ (record record' : String) (h : Hit), parse? record = some h → parse? record' = some h →
        ∃ number number', h.Recorded number record ∧ h.Recorded number' record' ∧
          (record = record' ↔ number = number') := by
  refine ⟨fun _ _ => parse?_eq_some_iff, fun _ => parse?_render, ?_⟩
  intro record record' h hparse hparse'
  obtain ⟨number, hrecord⟩ := parse?_eq_some_iff.1 hparse
  obtain ⟨number', hrecord'⟩ := parse?_eq_some_iff.1 hparse'
  exact ⟨number, number', hrecord, hrecord', hrecord.inj hrecord'⟩

example : parse? "a.py: +1_2 :x:y" = some ⟨"a.py", 12, "x:y"⟩ := by decide

end Hit

end AddonAtlas
