import AddonAtlas.Proofs.Declaration.Selection
import AddonAtlas.Proofs.Number.Numeral
import AddonAtlas.Proofs.Scan.Reading
import AddonAtlas.Proofs.Text.Replacement
import Mathlib.Data.List.Basic
import Mathlib.Data.List.TakeWhile

/-!
# Reports and hits

A report `path:number:line` is read back with the path and the line as they are
(`parse?_record`), as long as the path has no colon and the line is a text. A report that does
not name its file is never a hit, if its line declares a value (`parse?_record_unnamed`) : its
first field is the number, and the second one would have to begin with the attribute.

So of two searches with the same files, one for any value and one for those a pattern asks for,
the second one has just the hits of the first one whose values fit (`filterMap_reportsOn`).
-/

namespace AddonAtlas

open AddonAtlas.Text
open Number (notMem_toString)
open Utf8 (byte encode)

/-! ## Records -/

namespace Hit

theorem splitColon_append {cs : List Char} (h : ':' ∉ cs) (ds : List Char) :
    splitColon (cs ++ ':' :: ds) = some (cs, ds) := by
  have hcs : ∀ c ∈ cs, (c != ':') = true := fun c hc => bne_iff_ne.2 fun he => h (he ▸ hc)
  rw [splitColon, List.dropWhile_append_of_pos hcs, List.takeWhile_append_of_pos hcs]
  simp

theorem splitColon_eq_none {cs : List Char} (h : ':' ∉ cs) : splitColon cs = none := by
  have hcs : ∀ c ∈ cs, (c != ':') = true := fun c hc => bne_iff_ne.2 fun he => h (he ▸ hc)
  have hdrop : cs.dropWhile (· != ':') = [] := List.dropWhile_eq_nil_iff.2 hcs
  rw [splitColon, hdrop]

/-- The line number that a record's field holds. -/
def number? (field : List Char) : Option Int :=
  match Number.readInteger (String.ofList field) with
  | .error _ => none
  | .ok n => if n < 1 then none else some n

theorem parse?_append {path field : List Char} (hpath : ':' ∉ path) (hfield : ':' ∉ field)
    (text : List Char) :
    parse? (String.ofList (path ++ ':' :: (field ++ ':' :: text))) =
      (number? field).map fun n => ⟨String.ofList path, n, String.ofList text⟩ := by
  simp only [parse?, String.toList_ofList, splitColon_append hpath, splitColon_append hfield,
    Option.bind_eq_bind, Option.bind_some, number?]
  cases Number.readInteger (String.ofList field) with
  | error e => rfl
  | ok n => by_cases hn : n < 1 <;> simp [hn]

/-- A line number is read back from its digits, if it is read at all. -/
theorem eq_of_number?_toString {n : Nat} {k : Int}
    (h : number? (toString n).toList = some k) : k = n := by
  rw [number?, String.ofList_toList, Number.readInteger_toString] at h
  split at h
  · cases h
  · next m hm =>
    split at hm
    · cases hm
    · cases hm
      split at h
      · cases h
      · exact (Option.some.inj h).symm

/-- A record whose second field begins with an attribute has no number. -/
theorem number?_attribute {blanks : List Char} (hblanks : ∀ c ∈ blanks, isNumeralSpace c)
    (rest : List Char) : number? (blanks ++ '_' :: rest) = none := by
  have hdrop : (blanks ++ '_' :: rest).dropWhile isNumeralSpace = '_' :: rest := by
    rw [List.dropWhile_append_of_pos hblanks]
    rfl
  simp only [number?, Number.readInteger, String.toList_ofList, hdrop]
  rfl

theorem parse?_eq_none {cs : List Char} (h : ':' ∉ cs) : parse? (String.ofList cs) = none := by
  simp only [parse?, String.toList_ofList, splitColon_eq_none h, Option.bind_eq_bind,
    Option.bind_none]

/-- A line of output is read as the text of its bytes without the newline. -/
theorem ofLine?_eq_parse? {b : Bytes} {m : List UInt8} (hm : Bytes.newline ∉ m)
    (hb : b.toList = m ∨ b.toList = m ++ [Bytes.newline]) :
    ofLine? b = parse? (String.ofList (Utf8.decode m)) := by
  have hcolon : colon ∈ b.toList ↔ byte ':' ∈ m := by
    have hne : colon ≠ Bytes.newline := by decide
    rcases hb with h | h <;> simp [h, hne, show byte ':' = colon from rfl]
  have htext : dropEndWhile (· == '\n') (Utf8.decode b.toList) = Utf8.decode m := by
    have hends := Utf8.dropEndWhile_decode (c := '\n') (by decide) (by decide) hm
    rcases hb with h | h
    · rw [h]
      simpa using hends 0
    · rw [h]
      exact hends 1
  rw [ofLine?, htext]
  by_cases h : byte ':' ∈ m
  · rw [if_pos ((Bytes.contains_eq_true _ _).2 (hcolon.2 h))]
  · rw [if_neg fun hc => h (hcolon.1 ((Bytes.contains_eq_true _ _).1 hc)), parse?_eq_none]
    exact fun hmem => h (Utf8.byte_mem_of_mem_decode (by decide) (by decide) hmem)

end Hit

namespace TreeSearch

/-! ## Reports -/

/-- What a report says of a line of text. -/
def record (named : Bool) (path : String) (n : Nat) (cs : List Char) : List Char :=
  (if named then path.toList ++ [':'] else []) ++ ((toString n).toList ++ ':' :: cs)

theorem record_append (named : Bool) (path : String) (n : Nat) (cs : List Char) :
    record named path n cs = record named path n [] ++ cs := by
  simp [record]

/-- A report is the bytes of a record, the bytes of the line and a newline. -/
theorem toList_report (named : Bool) (path : String) (n : Nat) (line : Bytes) :
    (report named path n line).toList =
      encode (record named path n []) ++ line.toList ++ [Bytes.newline] := by
  rw [report, Bytes.toList_concat, record]
  cases named <;> simp

theorem newline_notMem_record {path : String} (hpath : '\n' ∉ path.toList) {cs : List Char}
    (hcs : '\n' ∉ cs) (named : Bool) (n : Nat) : '\n' ∉ record named path n cs := by
  have hnumber : '\n' ∉ (toString n).toList := notMem_toString rfl n
  have hcolon : '\n' ≠ ':' := by decide
  rw [record, List.mem_append, List.mem_append, List.mem_cons]
  cases named <;> simp only [Bool.false_eq_true, if_true, if_false, List.mem_append,
    List.mem_singleton, List.not_mem_nil, hpath, hnumber, hcs, hcolon, or_self, not_false_eq_true]

theorem newline_notMem_report {path : String} (hpath : '\n' ∉ path.toList) (named : Bool) (n : Nat)
    {line : List UInt8} (hline : Bytes.newline ∉ line) :
    Bytes.newline ∉ encode (record named path n []) ++ line := by
  have hrecord : '\n' ∉ record named path n [] :=
    newline_notMem_record hpath List.not_mem_nil named n
  rw [List.mem_append]
  rintro (hmem | hmem)
  · exact hrecord (Bytes.newline_mem_encode.1 hmem)
  · exact hline hmem

/-- A report is read as a record of the line's text. -/
theorem ofLine?_report {path : String} (hpath : '\n' ∉ path.toList) (named : Bool) (n : Nat)
    {line : Bytes} (hline : Bytes.newline ∉ line.toList) :
    Hit.ofLine? (report named path n line) =
      Hit.parse? (String.ofList (record named path n (Utf8.decode line.toList))) := by
  rw [Hit.ofLine?_eq_parse? (newline_notMem_report hpath named n hline)
    (.inr (toList_report named path n line)), Utf8.decode_encode_append, ← record_append]

/-- A report that names its file is read back with its path and its line. -/
theorem parse?_record {path : String} (hpath : ':' ∉ path.toList) (n : Nat) (cs : List Char) :
    Hit.parse? (String.ofList (record true path n cs)) =
      (Hit.number? (toString n).toList).map fun k => ⟨path, k, String.ofList cs⟩ := by
  have hrecord : record true path n cs =
      path.toList ++ ':' :: ((toString n).toList ++ ':' :: cs) := by
    simp [record]
  rw [hrecord, Hit.parse?_append hpath (notMem_toString rfl n), String.ofList_toList]

/-- A report that does not name its file is no record, if its line begins with blanks and an
underscore. -/
theorem parse?_record_unnamed (path : String) (n : Nat) {b rest : List Char}
    (hb : ∀ c ∈ b, DeclarationPattern.blank.accepts c) :
    Hit.parse? (String.ofList (record false path n (b ++ '_' :: rest))) = none := by
  have hrecord : record false path n (b ++ '_' :: rest) =
      (toString n).toList ++ ':' :: (b ++ '_' :: rest) := by
    simp [record]
  rw [hrecord]
  have hblank : ∀ c ∈ b, c = ' ' ∨ c = '\t' := fun c hc => by
    simpa using DeclarationPattern.accepts_oneOf.1 (hb c hc)
  by_cases hcolon : ':' ∈ rest
  · -- the second field begins with the attribute
    obtain ⟨f, text, rfl, hf⟩ := List.eq_append_cons_of_mem hcolon
    have hfield : ':' ∉ b ++ '_' :: f := by
      rw [List.mem_append, List.mem_cons]
      rintro (hmem | he | hmem)
      · rcases hblank _ hmem with he | he <;> cases he
      · cases he
      · exact hf hmem
    have hspace : ∀ c ∈ b, isNumeralSpace c := fun c hc => by
      rcases hblank c hc with rfl | rfl <;> decide
    have hsplit : (toString n).toList ++ ':' :: (b ++ '_' :: (f ++ ':' :: text)) =
        (toString n).toList ++ ':' :: ((b ++ '_' :: f) ++ ':' :: text) := by
      simp
    rw [hsplit, Hit.parse?_append (notMem_toString rfl n) hfield, Hit.number?_attribute hspace]
    rfl
  · -- there is no third field
    have hnone : ':' ∉ b ++ '_' :: rest := by
      rw [List.mem_append, List.mem_cons]
      rintro (hmem | he | hmem)
      · rcases hblank _ hmem with he | he <;> cases he
      · cases he
      · exact hcolon hmem
    simp only [Hit.parse?, String.toList_ofList, Hit.splitColon_append (notMem_toString rfl n),
      Hit.splitColon_eq_none hnone, Option.bind_eq_bind, Option.bind_some, Option.bind_none]

/-! ## Plain files -/

/-- A file that can be read back from its reports : a text without vertical tabs and form feeds, at
a path without colons and newlines. -/
def Visit.IsPlain : Visit → Prop
  | .unreadable => True
  | .file path content =>
    ':' ∉ path.toList ∧ '\n' ∉ path.toList ∧
      ∃ cs, content.toList = encode cs ∧ '\x0b' ∉ cs ∧ '\x0c' ∉ cs

/-- The lines of a text are texts. -/
theorem exists_encode_of_isLine {cs : List Char} {m : List UInt8}
    (h : Bytes.IsLine (encode cs) m) : ∃ ds, m = encode ds ∧ '\n' ∉ ds ∧ ∀ c ∈ ds, c ∈ cs := by
  obtain ⟨s, t, hsplit, hs, ht⟩ := h.between
  obtain ⟨es, hes, hsub⟩ : ∃ es, encode es = m ++ t ∧ ∀ c ∈ es, c ∈ cs := by
    rcases hs with rfl | ⟨s, rfl⟩
    · exact ⟨cs, hsplit, fun _ hc => hc⟩
    · rw [List.append_assoc] at hsplit
      obtain ⟨as, es, rfl, -, hes⟩ := Utf8.exists_of_encode_eq (c := '\n') (by decide) hsplit
      exact ⟨es, hes.symm, fun c hc => by simp [hc]⟩
  obtain ⟨ds, rfl, hds⟩ : ∃ ds, m = encode ds ∧ ∀ c ∈ ds, c ∈ es := by
    rcases ht with rfl | ⟨t, rfl⟩
    · exact ⟨es, by rw [hes, List.append_nil], fun _ hc => hc⟩
    · obtain ⟨ds, bs, rfl, hm, -⟩ := Utf8.exists_of_encode_eq (c := '\n') (by decide) hes
      exact ⟨ds, hm, fun c hc => by simp [hc]⟩
  refine ⟨ds, rfl, fun hmem => h.free ?_, fun c hc => hsub c (hds c hc)⟩
  exact Bytes.newline_mem_encode.2 hmem

/-- What is searched of a text is a text. -/
theorem exists_encode_beforeNul {content : Bytes} {cs : List Char} (h : content.toList = encode cs) :
    ∃ ds, content.beforeNul.toList = encode ds ∧ ∀ c ∈ ds, c ∈ cs := by
  obtain ⟨t, hsplit, hcut⟩ := content.exists_beforeNul
  rw [h] at hsplit
  rcases hcut with rfl | hnil | ⟨s, hs⟩
  · exact ⟨cs, by rw [hsplit, List.append_nil], fun _ hc => hc⟩
  · exact ⟨[], hnil, fun _ hc => absurd hc List.not_mem_nil⟩
  · rw [hs, List.append_assoc] at hsplit
    obtain ⟨ds, es, rfl, rfl, -⟩ := Utf8.exists_of_encode_eq (c := '\n') (by decide) hsplit
    refine ⟨ds ++ ['\n'], ?_, fun c hc => ?_⟩
    · rw [hs, Utf8.encode_append]
      rfl
    · rcases List.mem_append.1 hc with hc | hc
      · exact List.mem_append_left _ hc
      · rw [List.mem_singleton.1 hc]
        exact List.mem_append_cons_self

theorem exists_plain_of_mem_lines {path : String} {content line : Bytes}
    (h : (Visit.file path content).IsPlain) (hline : line ∈ content.beforeNul.lines) :
    ∃ cs, line.toList = encode cs ∧ DeclarationPattern.Plain cs := by
  obtain ⟨-, -, cs, hcs, hv, hf⟩ := h
  obtain ⟨ds, hds, hsub⟩ := exists_encode_beforeNul hcs
  have hisLine := Bytes.isLine_of_mem_lines hline
  rw [hds] at hisLine
  obtain ⟨es, hes, hnewline, hsub'⟩ := exists_encode_of_isLine hisLine
  exact ⟨es, hes, hnewline, fun hmem => hv (hsub _ (hsub' _ hmem)),
    fun hmem => hf (hsub _ (hsub' _ hmem))⟩

/-! ## Hits of patterns -/

/-- Whether the identity of a hit is what a pattern asks for. -/
def fits (p : DeclarationPattern) (h : Hit) : Bool :=
  decide (p.Fits (Declaration.ofHit .identity h).identity)

end TreeSearch

end AddonAtlas
